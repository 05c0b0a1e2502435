import CatalogSearch.Proofs.Engine.Search
import CatalogSearch.Proofs.Engine.Writes
import CatalogSearch.Proofs.Feed.Normalization

/-!
# Which record a text names

A document that is taken up stands under the key with its tenant resolved and its id as written.
Deletions resolve the tenant of their key, and changes also trim the id; so a deletion reaches a document
exactly when its texts come to the same key.
-/

set_option autoImplicit false

namespace CatalogSearch

open CatalogSearch.Text CatalogSearch.Time

namespace Engine

/-- After any calls, a document that is taken up is read under its resolved key, and under the key as
written if the tenant is not a blank text.  It is removed under the key as written, and by the deletion of
a record of its tenant and type whose trimmed id is its own; the deletion of a record of any other
trimmed id leaves it. -/
theorem identity_of_indexed (settings : SearchSettings) (schemas : SchemaRegistry)
    (policy : AccessPolicy) (calls : List EngineCall) (d : Document) (outcome : UpsertOutcome)
    (hindex : (((start settings schemas policy).run calls).index d).1 = .ok outcome)
    (houtcome : outcome = .inserted ∨ outcome = .updated) :
    let g := (((start settings schemas policy).run calls).index d).2
    g.store.get (.resolve d.tenant d.entityType d.id) = .ok (some d.resolved) ∧
    ((∀ tenant, d.tenant = some tenant → isBlankText tenant = false) →
      g.store.get ⟨d.tenant, d.entityType, d.id⟩ = .ok (some d)) ∧
    (∀ deletedAt, d.updatedAt ≤ deletedAt →
      (g.remove ⟨d.tenant, d.entityType, d.id⟩ deletedAt).1 = .ok .removed) ∧
    ∀ e : ChangeEvent, e.operation = .delete → e.entityType = d.entityType → e.tenant = d.tenant →
      d.updatedAt ≤ e.updatedAt →
      (trim e.id = d.id → (g.apply e).1 = .ok (.deleted .removed)) ∧
      (trim e.id ≠ d.id → (g.apply e).2.store.get (.resolve d.tenant d.entityType d.id) =
        .ok (some d.resolved)) := by
  intro g
  have hbefore : ((start settings schemas policy).run calls).store.Consistent :=
    consistent_run (consistent_start settings schemas policy) calls
  have hg : g.store.Consistent := consistent_after hbefore (.index d)
  have hnew : outcome ≠ .staleWriteIgnored := by
    rintro rfl
    simp at houtcome
  obtain ⟨hon, hlive⟩ : g.store.available = true ∧
      g.store.live? (Store.keyOf d) = some d.resolved := by
    have hstore : g.store = _ := store_after_index _ d
    rw [hstore]
    exact live_of_index hbefore hindex hnew
  have hkey : Store.keyOf d = .resolve d.tenant d.entityType d.id := rfl
  have hget : g.store.get (.resolve d.tenant d.entityType d.id) = .ok (some d.resolved) :=
    (Store.get_eq_ok_iff hon).mpr (hkey ▸ hlive)
  have hremove : ∀ key, Store.target key = Store.keyOf d → ∀ deletedAt, d.updatedAt ≤ deletedAt →
      (g.remove key deletedAt).1 = .ok .removed := by
    intro key htarget deletedAt hversion
    rw [← htarget] at hlive
    exact remove_of_live hg hon hlive hversion
  refine ⟨hget, fun htenant => ?_, hremove _ rfl,
    fun e hoperation htype htenant hversion => ⟨fun hid => ?_, fun hid => ?_⟩⟩
  · have hresolved : tenant? d.tenant = d.tenant := by
      cases hd : d.tenant with
      | none => rfl
      | some tenant => simp [tenant?, nonBlank?, htenant tenant hd]
    rw [DocumentKey.resolve, Document.resolved, hresolved] at hget
    exact hget
  · have hsame : e.key = Store.keyOf d := by
      rw [ChangeEvent.key, htype, htenant, hid, hkey]
    have htarget : Store.target e.key = Store.keyOf d := by
      rw [hsame, hkey]
      exact DocumentKey.resolve_resolve _ _ _
    rw [apply_of_delete hoperation, hremove _ htarget _ hversion]
    rfl
  · have hother : Store.target e.key ≠ Store.keyOf d :=
      fun h => hid (congrArg DocumentKey.id h)
    have hstore : (g.apply e).2.store = g.store.after (.delete e.key e.updatedAt) := by
      obtain ⟨tally, h⟩ := exists_remove_eq g e.key e.updatedAt
      rw [apply_of_delete hoperation, h]
    rw [hstore, Store.get_eq_ok_iff ((Store.available_after_delete _ _ _).trans hon), ← hkey,
      Store.live?_after_delete_of_ne hg hon hother]
    exact hlive

/-- A document of a blank tenant is everybody's, and a deletion of a record reaches it under its padded
id. -/
theorem identity_of_indexed_of_blank_tenant :
    let pump : Document :=
      { entityType := .part, id := "p1", tenant := some " ", title := "Steel pump",
        updatedAt := ⟨1, 0⟩ }
    let indexed := (start {} .standard .standard).index pump
    indexed.1 = .ok .inserted ∧
      indexed.2.store.get ⟨none, .part, "p1"⟩ = .ok (some pump.resolved) ∧
      (indexed.2.remove ⟨some " ", .part, "p1"⟩ ⟨1, 0⟩).1 = .ok .removed ∧
      (indexed.2.apply (.deletion .part (some " ") " p1 " ⟨2, 0⟩)).1 = .ok (.deleted .removed) := by
  intro pump indexed
  obtain ⟨_, hindexed, rfl⟩ : ∃ outcome, indexed.1 = .ok outcome ∧ outcome = .inserted :=
    exists_of_toOption_map (by decide)
  obtain ⟨hget, _, hremove, hdelete⟩ :=
    identity_of_indexed {} .standard .standard [] pump .inserted hindexed (Or.inl rfl)
  have hblank : tenant? (some " ") = none := rfl
  have hpadded : trim " p1 " = "p1" := rfl
  rw [DocumentKey.resolve, hblank] at hget
  refine ⟨hindexed, hget, hremove _ (by decide), ?_⟩
  exact (hdelete (.deletion .part (some " ") " p1 " ⟨2, 0⟩) rfl rfl rfl (by decide)).1 hpadded

/-- A document whose id is padded is not reached by the deletion of a record of the same texts. -/
theorem padded_record_is_absent :
    let pump : Document :=
      { entityType := .part, id := " p1 ", title := "Steel pump", updatedAt := ⟨1, 0⟩ }
    let indexed := (start {} .standard .standard).index pump
    let e : ChangeEvent := .deletion pump.entityType pump.tenant pump.id ⟨2, 0⟩
    indexed.1 = .ok .inserted ∧ pump.updatedAt ≤ e.updatedAt ∧
      (indexed.2.apply e).1 = .ok (.deleted .alreadyAbsent) := by
  intro pump indexed e
  obtain ⟨_, hindexed, rfl⟩ : ∃ outcome, indexed.1 = .ok outcome ∧ outcome = .inserted :=
    exists_of_toOption_map (by decide)
  obtain ⟨_, happlied, rfl⟩ : ∃ outcome, (indexed.2.apply e).1 = .ok outcome ∧
      outcome = .deleted .alreadyAbsent := exists_of_toOption_map (by decide)
  exact ⟨hindexed, by decide, happlied⟩

end Engine

end CatalogSearch
