import CatalogSearch.Proofs.Engine.Search
import CatalogSearch.Proofs.Engine.Suggestions
import CatalogSearch.Proofs.Engine.Writes
import CatalogSearch.Proofs.Index.Scan

/-!
# Offline

While the store is offline every write is refused and every search fails that goes as far as the store.
Suggestions are looked for among those that are remembered first; only what is not there is asked of the
store, and fails.  So an engine that comes back online is where it was.
-/

set_option autoImplicit false

namespace CatalogSearch

open CatalogSearch.Text CatalogSearch.Time

namespace Store

variable {s : Store}

theorem lookup_of_offline (hoff : s.available = false) (plan : QueryPlan) :
    s.lookup plan = .error .offline := by
  simp [lookup, ensureAvailable, hoff, bind, Except.bind]

theorem suggest_of_offline (hoff : s.available = false) (types : List EntityType)
    (scope : TenantScope) (start : String) : s.suggest types scope start = .error .offline := by
  simp [suggest, ensureAvailable, hoff, bind, Except.bind]

end Store

/-- All that is asked of an engine, and what its cache forgets: all calls but those of the store itself
and the purge of deletions. -/
def EngineCall.isRequest : EngineCall → Bool
  | .onStore _ => false
  | .purgeOlderThan _ _ => false
  | _ => true

namespace Engine

variable {g : Engine} {call : EngineCall}

/-! ## What changes offline -/

/-- No request changes the store offline. -/
theorem store_after_of_offline (hoff : g.store.available = false) (hcall : call.isRequest = true) :
    (g.after call).store = g.store := by
  have hupsert : ∀ d, g.store.after (.upsert d) = g.store :=
    fun d => Store.after_upsert_of_refused fun h => by simp [hoff] at h
  have hdelete : ∀ key deletedAt, g.store.after (.delete key deletedAt) = g.store :=
    fun key deletedAt => Store.after_delete_of_offline hoff
  cases call with
  | onStore call => cases hcall
  | purgeOlderThan now seconds => cases hcall
  | index d =>
    obtain ⟨tally, h⟩ := exists_index_eq g d
    rw [after, h]
    exact hupsert d
  | remove key deletedAt =>
    obtain ⟨tally, h⟩ := exists_remove_eq g key deletedAt
    rw [after, h]
    exact hdelete key deletedAt
  | apply e =>
    obtain ⟨tally, h⟩ := exists_apply_eq g e
    rw [after, h]
    unfold storeCallsOf
    cases e.operation with
    | upsert =>
      cases e.toDocument g.schemas with
      | error fault => rfl
      | ok d => exact hupsert d
    | delete => exact hdelete e.key e.updatedAt
  | search r caller deadline =>
    obtain ⟨tally, h⟩ := exists_search_eq g r caller deadline
    rw [after, h]
  | autocomplete r caller => exact store_after_autocomplete g r caller
  | forget kept => rfl

theorem store_run_of_offline (hoff : g.store.available = false) {calls : List EngineCall}
    (hcalls : ∀ call ∈ calls, call.isRequest = true) : (g.run calls).store = g.store := by
  induction calls generalizing g with
  | nil => rfl
  | cons call rest ih =>
    rw [List.forall_mem_cons] at hcalls
    have hstore := store_after_of_offline hoff hcalls.1
    exact (ih (hstore ▸ hoff) hcalls.2).trans hstore

/-! ## What is served offline -/

/-- A search that would succeed fails. -/
theorem search_of_offline (hoff : g.store.available = false) {r : SearchRequest} {caller : Caller}
    {deadline : Deadline} {response : SearchResponse}
    (honline : (g.online.search r caller deadline).1 = .ok response) :
    (g.search r caller deadline).1 = .error .offline := by
  obtain ⟨htime, plan, _, hplan, _, _⟩ := search_eq_ok_iff.mp honline
  have hplan' : g.plan r caller = .ok plan := hplan
  have hlookup : deadline.check .lookup = .ok () := by
    unfold Deadline.checkAll at htime
    cases hcheck : deadline.check .lookup with
    | ok _ => rfl
    | error e => simp [hcheck, bind, Except.bind] at htime
  rw [search_fst, respond_of_plan hplan',
    execute_of_error (Store.lookup_of_offline hoff plan), hlookup]
  rfl

/-- Suggestions that would be given are given as far as they are remembered. -/
theorem autocomplete_of_offline (hg : g.Coherent) (hoff : g.store.available = false)
    {r : AutocompleteRequest} {caller : Caller} {answer : List String}
    (hlong : g.settings.autocompleteMinChars ≤ (trim r.query).length)
    (honline : (g.online.autocomplete r caller).1 = .ok answer) :
    ∃ p, g.planSuggestions r caller = .ok (some p) ∧
      (g.autocomplete r caller).1 =
        if (g.suggestions.find? (g.suggestionKey p)).isSome then .ok answer
        else .error .offline := by
  have hcoherent : g.online.Coherent := hg.after (.onStore (.setAvailable true))
  have hplans : g.online.planSuggestions r caller = g.planSuggestions r caller := rfl
  rw [autocomplete_eq_fresh hcoherent rfl, freshSuggestions, hplans] at honline
  rw [fst_autocomplete]
  cases hplan : g.planSuggestions r caller with
  | error e =>
    rw [hplan] at honline
    cases honline
  | ok planned =>
    cases planned with
    | none => exact absurd (short_of_planSuggestions hplan) (Nat.not_lt.mpr hlong)
    | some p =>
      rw [hplan] at honline
      refine ⟨p, rfl, ?_⟩
      cases hfind : g.suggestions.find? (g.suggestionKey p) with
      | none =>
        simp only [hfind, computeSuggestions, Store.suggest_of_offline hoff]
        rfl
      | some remembered =>
        -- what is remembered in this generation is what the store would say if it were there
        have hstart := (planned_of_planSuggestions hplan).space_not_mem_start
        have hpresent := hg.present _ remembered hfind p hstart rfl
        simp only [hfind, Option.isSome_some, if_true]
        exact hpresent.symm.trans honline

/-- After any calls that leave the store offline, a search that would succeed fails with that, and so do
suggestions that would be given, unless they are remembered: those are given as ever.  Every write is
refused.  Whatever is asked, the store comes back as it went, and if it was that of an engine of the same
configuration it is searched and completes as it did there. -/
theorem offline_serves_only_remembered (settings : SearchSettings) (schemas : SchemaRegistry)
    (policy : AccessPolicy) (calls : List EngineCall)
    (hoff : ((start settings schemas policy).run calls).store.available = false) :
    let g := (start settings schemas policy).run calls
    (∀ r caller deadline response, (g.online.search r caller deadline).1 = .ok response →
      (g.search r caller deadline).1 = .error .offline) ∧
    (∀ r caller answer, g.settings.autocompleteMinChars ≤ (trim r.query).length →
      (g.online.autocomplete r caller).1 = .ok answer →
      ∃ p, g.planSuggestions r caller = .ok (some p) ∧
        (g.autocomplete r caller).1 =
          if (g.suggestions.find? (g.suggestionKey p)).isSome then .ok answer
          else .error .offline) ∧
    (∀ d, (g.index d).1 = .error .offline) ∧
    (∀ key deletedAt, (g.remove key deletedAt).1 = .error .offline) ∧
    (∀ e, ∃ fault, (g.apply e).1 = .error fault) ∧
    ∀ during, (∀ call ∈ during, call.isRequest = true) →
      let back := (g.run during).after (.onStore (.setAvailable true))
      back.store = g.store.setAvailable true ∧
      ∀ past, let before := (start settings schemas policy).run past
        before.store.available = true → g.store = before.store.setAvailable false →
        back.store = before.store ∧
        (∀ r caller deadline,
          (back.search r caller deadline).1 = (before.search r caller deadline).1) ∧
        ∀ r caller, (back.autocomplete r caller).1 = (before.autocomplete r caller).1 := by
  intro g
  have hcoherent : g.Coherent := (coherent_start settings schemas policy).run calls
  refine ⟨fun _ _ _ _ => search_of_offline hoff, fun _ _ _ => autocomplete_of_offline hcoherent hoff,
    index_of_offline hoff, remove_of_offline hoff, apply_of_offline hoff, fun during hduring => ?_⟩
  intro back
  have hback : back.store = g.store.setAvailable true :=
    congrArg (Store.setAvailable · true) (store_run_of_offline hoff hduring)
  refine ⟨hback, fun past => ?_⟩
  intro before hon hwent
  have hstore : back.store = before.store := by
    rw [hback, hwent]
    cases hbefore : before.store with
    | mk directory partitions available generation =>
      rw [hbefore] at hon
      cases hon
      rfl
  have hon' : back.store.available = true := hstore ▸ hon
  have hsame : back.SameConfiguration before :=
    ((sameConfiguration_after _ _).trans ((sameConfiguration_run g during).trans
      (sameConfiguration_run _ calls))).trans (sameConfiguration_run _ past).symm
  have hbefore : before.store.Consistent :=
    consistent_run (consistent_start settings schemas policy) past
  refine ⟨hstore, fun r caller deadline => hsame.search_fst_eq (fun plan _ => ?_) r deadline,
    fun r caller => ?_⟩
  · have hlookup := Store.lookup_eq_scan hbefore hon plan
    refine ⟨_, _, (congrArg (Store.lookup · plan) hstore).trans hlookup, hlookup, ?_⟩
    rw [hsame.answer_eq]
  · have hcoherent' : back.Coherent := (hcoherent.run during).after _
    rw [autocomplete_eq_fresh hcoherent' hon',
      autocomplete_eq_fresh ((coherent_start settings schemas policy).run past) hon]
    exact freshSuggestions_eq hsame (fun types start => by rw [hstore]) r

/-- An engine that went offline after one request for suggestions: a search fails, as does the request
for suggestions that were not asked for before; what is written meanwhile is not there when it is back. -/
theorem offline_serves_only_remembered_of_pump :
    let pump : Document :=
      { entityType := .part, id := "p1", title := "Steel pump", updatedAt := ⟨1, 0⟩ }
    let before := (start {} .standard .standard).run
      [.index pump, .autocomplete { query := "st" } .guest]
    let g := (start {} .standard .standard).run
      [.index pump, .autocomplete { query := "st" } .guest, .onStore (.setAvailable false)]
    g.store.available = false ∧
      (g.search { query := "steel" } .guest {}).1 = .error .offline ∧
      (g.autocomplete { query := "pu" } .guest).1 = .error .offline ∧
      ((g.run [.remove pump.key ⟨2, 0⟩, .autocomplete { query := "pu" } .guest]).after
        (.onStore (.setAvailable true))).store = before.store := by
  intro pump before g
  have hoff : g.store.available = false := rfl
  have hwent : g.store = before.store.setAvailable false := rfl
  have hon : before.store.available = true := by decide
  obtain ⟨hsearch, hautocomplete, _, _, _, hback⟩ :=
    offline_serves_only_remembered {} .standard .standard
      [.index pump, .autocomplete { query := "st" } .guest, .onStore (.setAvailable false)] hoff
  obtain ⟨plan, hplan, hcount⟩ : ∃ plan, g.online.plan { query := "steel" } .guest = .ok plan ∧
      (g.online.store.lookup plan).toOption.map (fun found => found.candidates.length) = some 1 :=
    exists_of_toOption_map (by with_unfolding_all decide)
  obtain ⟨found, hfound, _⟩ := exists_of_toOption_map hcount
  obtain ⟨_, honline, rfl⟩ : ∃ answer,
      (g.online.autocomplete { query := "pu" } .guest).1 = .ok answer ∧ answer = ["pump"] :=
    exists_of_toOption_map (by with_unfolding_all decide)
  obtain ⟨p, hp, hanswer⟩ := hautocomplete { query := "pu" } .guest ["pump"] (by decide) honline
  obtain ⟨_, hp', hforgotten⟩ : ∃ planned,
      g.planSuggestions { query := "pu" } .guest = .ok planned ∧
        planned.all (fun p => (g.suggestions.find? (g.suggestionKey p)).isNone) = true :=
    exists_of_toOption_map (by decide)
  rw [Except.ok.inj (hp'.symm.trans hp), Option.all_some, Option.isNone_iff_eq_none] at hforgotten
  refine ⟨hoff, hsearch _ _ _ _ (search_eq_ok_iff.mpr ⟨rfl, plan, found, hplan, hfound, rfl⟩), ?_, ?_⟩
  · rw [hanswer, hforgotten]
    rfl
  · exact ((hback _ (by simp [EngineCall.isRequest])).2 _ hon hwent).1

/-- Suggestions that were asked for before are given offline. -/
theorem remembered_suggestions_served_offline :
    let pump : Document :=
      { entityType := .part, id := "p1", title := "Steel pump", updatedAt := ⟨1, 0⟩ }
    let r : AutocompleteRequest := { query := "st" }
    let g := (start {} .standard .standard).run
      [.index pump, .autocomplete r .guest, .onStore (.setAvailable false)]
    g.store.available = false ∧ g.settings.autocompleteMinChars ≤ (trim r.query).length ∧
      (g.online.autocomplete r .guest).1.toOption = some ["steel"] ∧
      (g.autocomplete r .guest).1.toOption = some ["steel"] := by
  intro pump r g
  refine ⟨rfl, ?_, ?_, ?_⟩
  · decide
  · with_unfolding_all decide
  · with_unfolding_all decide

end Engine

end CatalogSearch
