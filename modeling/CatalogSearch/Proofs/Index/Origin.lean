import CatalogSearch.Proofs.Index.KeyState

/-!
# Where live documents come from

A live document was given to the store by some call: no other call makes one, and a document is kept as it
was given, with its tenant resolved.
-/

set_option autoImplicit false

namespace CatalogSearch

open CatalogSearch.Time

namespace Store

variable {s s' : Store} {key : DocumentKey} {d : Document}

/-- What is live rests on the partitions. -/
theorem live?_of_same_partitions (hs : s.Consistent) (hs' : s'.Consistent)
    (h : ∀ place : PartitionKey, s'.partition place = s.partition place)
    (hlive : s'.live? key = some d) : s.live? key = some d := by
  have hx := (hs'.documents_eq_some_iff (PartitionKey.ofDocument d) key
    ⟨d, .ofDocument d⟩).mpr ⟨hlive, rfl, rfl⟩
  rw [h] at hx
  exact ((hs.documents_eq_some_iff _ key _).mp hx).1

/-- A document that is live after a call was live before it, or the call gave it. -/
theorem live?_after (hs : s.Consistent) (call : StoreCall)
    (hlive : (s.after call).live? key = some d) :
    s.live? key = some d ∨ ∃ given, call = .upsert given ∧ given.resolved = d := by
  cases call with
  | upsert given =>
    by_cases haccepted : s.available = true ∧ given.resolved.fault? = none
    · rw [live?, keyState_after_upsert hs haccepted.1 haccepted.2] at hlive
      split at hlive
      · unfold KeyState.upsert at hlive
        split at hlive
        · exact Or.inl hlive
        · exact Or.inr ⟨given, rfl, Option.some.inj hlive⟩
      · exact Or.inl hlive
    · rw [after_upsert_of_refused haccepted] at hlive
      exact Or.inl hlive
  | delete deleted deletedAt =>
    refine Or.inl ?_
    cases hon : s.available with
    | false => rwa [after_delete_of_offline hon] at hlive
    | true =>
      rw [live?, keyState_after_delete hs hon] at hlive
      split at hlive
      · unfold KeyState.delete at hlive
        split at hlive
        · exact hlive
        · cases hlive
      · exact hlive
  | purge cutoff =>
    exact Or.inl (live?_of_same_partitions hs (hs.after (.purge cutoff)) (fun _ => rfl) hlive)
  | setAvailable available =>
    exact Or.inl
      (live?_of_same_partitions hs (hs.after (.setAvailable available)) (fun _ => rfl) hlive)
  | get _ | lookup _ | suggest _ _ _ | stats => exact Or.inl hlive

/-- A document that is live after calls was live before them, or one of them gave it. -/
theorem live?_run (hs : s.Consistent) (calls : List StoreCall)
    (hlive : (s.run calls).live? key = some d) :
    s.live? key = some d ∨ ∃ given, .upsert given ∈ calls ∧ given.resolved = d := by
  induction calls generalizing s with
  | nil => exact Or.inl hlive
  | cons call rest ih =>
    rcases ih (hs.after call) hlive with hbefore | ⟨given, hgiven, hresolved⟩
    · rcases live?_after hs call hbefore with hbefore | ⟨given, rfl, hresolved⟩
      · exact Or.inl hbefore
      · exact Or.inr ⟨given, List.mem_cons_self, hresolved⟩
    · exact Or.inr ⟨given, List.mem_cons_of_mem _ hgiven, hresolved⟩

end Store

end CatalogSearch
