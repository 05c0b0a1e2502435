import CatalogSearch.Proofs.Engine.Search
import CatalogSearch.Proofs.Engine.Suggestions
import CatalogSearch.Proofs.Index.Scan

/-!
# Answers rest on what may be found

A search and a request for suggestions are answered from the documents that the caller's scope admits.
Two engines of one configuration that hold the same such documents answer it alike, whatever else they
hold, held or were asked.
-/

set_option autoImplicit false

namespace CatalogSearch

open CatalogSearch.Text CatalogSearch.Time

/-! ## Documents outside a scope -/

/-- A document that a scope does not admit, written where nothing was known, leaves what it admits. -/
theorem Store.get_after_upsert_of_foreign {s : Store} (hs : s.Consistent) (hon : s.available = true)
    {d : Document} (hvalid : d.resolved.fault? = none)
    (hunknown : s.keyState (keyOf d) = .unknown) {scope : TenantScope}
    (hforeign : scope.admits d.resolved = false) {key : DocumentKey} {e : Document}
    (hadmits : scope.admits e = true) :
    s.get key = .ok (some e) ↔ (s.after (.upsert d)).get key = .ok (some e) := by
  have hon' : (s.after (.upsert d)).available = true := (available_after_upsert s d).trans hon
  rw [get_eq_ok_iff hon, get_eq_ok_iff hon', live?, live?, keyState_after_upsert hs hon hvalid]
  by_cases hkey : keyOf d = key
  · subst hkey
    rw [if_pos rfl, hunknown]
    constructor
    · intro h
      cases h
    · intro h
      cases h
      rw [hforeign] at hadmits
      cases hadmits
  · rw [if_neg hkey]

namespace Engine

/-- Two engines of one configuration, after any calls whatever, that hold the same documents as far as
the scope of a caller admits them, answer its searches and its requests for suggestions alike; and the
order in which a lookup lists its matches shows in no answer. -/
theorem noninterference (settings : SearchSettings) (schemas : SchemaRegistry)
    (policy : AccessPolicy) (calls calls' : List EngineCall) (caller : Caller)
    (hon : ((start settings schemas policy).run calls).store.available = true)
    (hon' : ((start settings schemas policy).run calls').store.available = true)
    (hvisible : ∀ key d, (AccessView.resolve policy caller).scope.admits d = true →
      (((start settings schemas policy).run calls).store.get key = .ok (some d) ↔
        ((start settings schemas policy).run calls').store.get key = .ok (some d))) :
    let g := (start settings schemas policy).run calls
    let g' := (start settings schemas policy).run calls'
    (∀ r deadline, (g.search r caller deadline).1 = (g'.search r caller deadline).1) ∧
    (∀ r, (g.autocomplete r caller).1 = (g'.autocomplete r caller).1) ∧
    ∀ plan found order, g.store.lookup plan = .ok found → order.Perm found.candidates →
      g.answer plan { found with candidates := order } = g.answer plan found := by
  intro g g'
  have hg : g.store.Consistent := consistent_run (consistent_start settings schemas policy) calls
  have hg' : g'.store.Consistent := consistent_run (consistent_start settings schemas policy) calls'
  have hcoherent : g.Coherent := (coherent_start settings schemas policy).run calls
  have hcoherent' : g'.Coherent := (coherent_start settings schemas policy).run calls'
  have hconfigured := sameConfiguration_run (start settings schemas policy) calls
  have hconfigured' := sameConfiguration_run (start settings schemas policy) calls'
  have hsame : g.SameConfiguration g' := hconfigured.trans hconfigured'.symm
  have hpolicy : g.policy = policy := hconfigured.policy
  have hlive : ∀ key d, (AccessView.resolve policy caller).scope.admits d = true →
      (g.store.live? key = some d ↔ g'.store.live? key = some d) := by
    intro key d hadmits
    rw [← Store.get_eq_ok_iff hon, ← Store.get_eq_ok_iff hon']
    exact hvisible key d hadmits
  have hfound : ∀ types, g.store.found types (AccessView.resolve policy caller).scope =
      g'.store.found types (AccessView.resolve policy caller).scope :=
    fun types => Store.found_eq hg hg' hlive
  refine ⟨fun r deadline => ?_, fun r => ?_, fun plan found order hlookup horder => ?_⟩
  · refine hsame.search_fst_eq ?_ r deadline
    intro plan hview
    rw [hpolicy] at hview
    refine ⟨_, _, Store.lookup_eq_scan hg hon plan, Store.lookup_eq_scan hg' hon' plan, ?_⟩
    rw [hview, hfound, hsame.answer_eq]
  · rw [autocomplete_eq_fresh hcoherent hon, autocomplete_eq_fresh hcoherent' hon']
    refine freshSuggestions_eq hsame ?_ r
    intro types start
    rw [hpolicy]
    exact Store.suggest_eq hg hg' hon hon' (fun t => by rw [hfound]) start
  · exact answer_of_perm g plan (Store.nodup_keys_of_lookup hg hon hlookup) horder

/-- A guest is answered as if a document that a tenant keeps to itself were not there, also after its
owner has asked for suggestions. -/
theorem noninterference_of_private_document :
    let shared : Document :=
      { entityType := .part, id := "p1", title := "Steel pump", updatedAt := ⟨1, 0⟩ }
    let kept : Document :=
      { entityType := .part, id := "p2", tenant := some "acme", title := "Steel valve",
        updatedAt := ⟨2, 0⟩ }
    let owner : Caller := ⟨some "u1", some "acme", []⟩
    let g := (start {} .standard .standard).run [.index shared]
    let g' := (start {} .standard .standard).run
      [.index shared, .index kept, .autocomplete ⟨"st", none, none⟩ owner]
    (∀ r deadline, (g.search r .guest deadline).1 = (g'.search r .guest deadline).1) ∧
      ∀ r, (g.autocomplete r .guest).1 = (g'.autocomplete r .guest).1 := by
  intro shared kept owner g g'
  have hg : g.store.Consistent := consistent_run (consistent_start _ _ _) _
  have hstore : g.store = Store.after {} (.upsert shared) := store_after_index _ shared
  have hstore' : g'.store = g.store.after (.upsert kept) :=
    (store_after_autocomplete _ _ _).trans (store_after_index g kept)
  have hon : g.store.available = true := by
    rw [hstore, Store.available_after_upsert]
  have hon' : g'.store.available = true := by
    rw [hstore', Store.available_after_upsert, hon]
  have hids : isBlankText "p1" = false ∧ isBlankText "p2" = false := by decide
  have hshared : shared.resolved.fault? = none := Store.fault?_resolved hids.1 rfl rfl
  have hkept : kept.resolved.fault? = none := Store.fault?_resolved hids.2 rfl rfl
  have hunknown : g.store.keyState (Store.keyOf kept) = .unknown := by
    have hother : Store.keyOf shared ≠ Store.keyOf kept := fun h =>
      absurd (congrArg DocumentKey.id h) (by decide : "p1" ≠ "p2")
    rw [hstore, Store.keyState_after_upsert Store.consistent_empty rfl hshared, if_neg hother,
      Store.keyState_empty]
  obtain ⟨hsearch, hautocomplete, _⟩ :=
    noninterference {} .standard .standard _ _ .guest hon hon' (by
      intro key d hadmits
      rw [hstore']
      exact Store.get_after_upsert_of_foreign hg hon hkept hunknown (by decide) hadmits)
  exact ⟨hsearch, hautocomplete⟩

end Engine

end CatalogSearch
