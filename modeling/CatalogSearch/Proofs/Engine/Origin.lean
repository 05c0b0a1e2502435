import CatalogSearch.Proofs.Engine.Runs
import CatalogSearch.Proofs.Feed.Normalization
import CatalogSearch.Proofs.Index.Origin

/-!
# Documents of changes

An engine that is written to by changes of records alone holds the documents of these changes and no
others, whatever else it is called for.
-/

set_option autoImplicit false

namespace CatalogSearch

/-- Whether a call gives the engine a document other than by a change of a record. -/
def EngineCall.givesDocument : EngineCall → Bool
  | .index _ | .onStore (.upsert _) => true
  | _ => false

namespace Engine

variable {g : Engine} {key : DocumentKey} {d : Document}

/-- The document that a change gives the store is its own. -/
theorem toDocument_of_mem_storeCallsOf {schemas : SchemaRegistry} {e : ChangeEvent}
    {given : Document} (hgiven : .upsert given ∈ storeCallsOf schemas e)
    (hresolved : given.resolved = d) : e.toDocument schemas = .ok d := by
  unfold storeCallsOf at hgiven
  cases hoperation : e.operation with
  | delete =>
    rw [hoperation] at hgiven
    cases List.mem_singleton.mp hgiven
  | upsert =>
    cases hwritten : e.toDocument schemas with
    | error fault =>
      rw [hoperation, hwritten] at hgiven
      cases hgiven
    | ok written =>
      rw [hoperation, hwritten] at hgiven
      cases List.mem_singleton.mp hgiven
      rw [← hresolved, ChangeEvent.resolved_toDocument hwritten]

/-- A document that is live after a call was live before it, or is that of the change that was applied;
unless the call gives one otherwise. -/
theorem live?_after (hg : g.store.Consistent) {call : EngineCall} (hcall : call.givesDocument = false)
    (hlive : (g.after call).store.live? key = some d) :
    g.store.live? key = some d ∨ ∃ e, call = .apply e ∧ e.toDocument g.schemas = .ok d := by
  cases call with
  | onStore call =>
    rcases Store.live?_after hg call hlive with hbefore | ⟨given, rfl, _⟩
    · exact Or.inl hbefore
    · cases hcall
  | index given => cases hcall
  | remove deleted deletedAt =>
    obtain ⟨tally, h⟩ := exists_remove_eq g deleted deletedAt
    rw [after, h] at hlive
    rcases Store.live?_after hg _ hlive with hbefore | ⟨_, hgiven, _⟩
    · exact Or.inl hbefore
    · cases hgiven
  | apply e =>
    obtain ⟨tally, h⟩ := exists_apply_eq g e
    rw [after, h] at hlive
    rcases Store.live?_run hg _ hlive with hbefore | ⟨given, hgiven, hresolved⟩
    · exact Or.inl hbefore
    · exact Or.inr ⟨e, rfl, toDocument_of_mem_storeCallsOf hgiven hresolved⟩
  | purgeOlderThan now seconds =>
    refine Or.inl ?_
    simp only [after, purgeOlderThan] at hlive
    cases hcutoff : now.secondsBefore? seconds with
    | none =>
      rw [hcutoff] at hlive
      exact hlive
    | some cutoff =>
      rw [hcutoff] at hlive
      rcases Store.live?_after hg (.purge cutoff) hlive with hbefore | ⟨_, hgiven, _⟩
      · exact hbefore
      · cases hgiven
  | search request caller deadline =>
    obtain ⟨tally, h⟩ := exists_search_eq g request caller deadline
    rw [after, h] at hlive
    exact Or.inl hlive
  | autocomplete request caller =>
    rw [store_after_autocomplete] at hlive
    exact Or.inl hlive
  | forget kept => exact Or.inl hlive

/-- A document that is live after such calls was live before them, or is that of a change that was
applied. -/
theorem live?_run (hg : g.store.Consistent) {calls : List EngineCall}
    (hcalls : ∀ call ∈ calls, call.givesDocument = false)
    (hlive : (g.run calls).store.live? key = some d) :
    g.store.live? key = some d ∨ ∃ e, .apply e ∈ calls ∧ e.toDocument g.schemas = .ok d := by
  induction calls generalizing g with
  | nil => exact Or.inl hlive
  | cons call rest ih =>
    obtain ⟨hcall, hrest⟩ := List.forall_mem_cons.mp hcalls
    have hschemas : (g.after call).schemas = g.schemas := (sameConfiguration_after g call).schemas
    rcases ih (consistent_after hg call) hrest hlive with hbefore | ⟨e, he, hd⟩
    · rcases live?_after hg hcall hbefore with hbefore | ⟨e, rfl, hd⟩
      · exact Or.inl hbefore
      · exact Or.inr ⟨e, List.mem_cons_self, hd⟩
    · exact Or.inr ⟨e, List.mem_cons_of_mem _ he, hschemas ▸ hd⟩

/-- After calls from the start that give no document otherwise every live document is that of a change. -/
theorem exists_change_of_live (settings : SearchSettings) (schemas : SchemaRegistry)
    (policy : AccessPolicy) {calls : List EngineCall}
    (hcalls : ∀ call ∈ calls, call.givesDocument = false)
    (hlive : ((start settings schemas policy).run calls).store.live? key = some d) :
    ∃ e, .apply e ∈ calls ∧ e.toDocument schemas = .ok d := by
  rcases live?_run (consistent_start settings schemas policy) hcalls hlive with hstart | h
  · rw [Store.live?, start, Store.keyState_empty] at hstart
    cases hstart
  · exact h

end Engine

end CatalogSearch
