import CatalogSearch.Proofs.Engine.Runs
import CatalogSearch.Proofs.Index.KeyState

/-!
# Writes of an engine

What is indexed, removed or applied is answered as the store answers it.  A document that is taken up is
there afterwards, and what is there is removed by a deletion that is not older.
-/

set_option autoImplicit false

namespace CatalogSearch

open CatalogSearch.Time

namespace Engine

variable {g : Engine}

/-! ## Answers -/

theorem fst_index (g : Engine) (d : Document) :
    (g.index d).1 = (g.store.upsert d).map (·.1) := by
  unfold index
  cases g.store.upsert d with
  | error e => rfl
  | ok result => rfl

theorem fst_remove (g : Engine) (key : DocumentKey) (deletedAt : Instant) :
    (g.remove key deletedAt).1 = (g.store.delete key deletedAt).map (·.1) := by
  unfold remove
  cases g.store.delete key deletedAt with
  | error e => rfl
  | ok result => rfl

/-- A record that is deleted is removed under its key. -/
theorem apply_of_delete {e : ChangeEvent} (hoperation : e.operation = .delete) :
    g.apply e = ((g.remove e.key e.updatedAt).1.map .deleted, (g.remove e.key e.updatedAt).2) := by
  unfold apply
  rw [hoperation]

/-- A record that is written is indexed as its document. -/
theorem apply_of_document {e : ChangeEvent} (hoperation : e.operation = .upsert) {d : Document}
    (hd : e.toDocument g.schemas = .ok d) :
    g.apply e = ((g.index d).1.map .upserted, (g.index d).2) := by
  unfold apply
  rw [hoperation, hd]

theorem apply_of_fault {e : ChangeEvent} (hoperation : e.operation = .upsert)
    {fault : DocumentFault} (hd : e.toDocument g.schemas = .error fault) :
    g.apply e = (.error (.invalidDocument fault), g) := by
  unfold apply
  rw [hoperation, hd]

theorem map_eq_ok_iff {ε α β : Type} {f : α → β} {result : Except ε α} {b : β} :
    result.map f = .ok b ↔ ∃ a, result = .ok a ∧ f a = b := by
  cases result with
  | error e => simp [Except.map]
  | ok a => simp [Except.map]

/-- A record that is taken up has a document, which is indexed. -/
theorem exists_of_apply {e : ChangeEvent} {outcome : UpsertOutcome}
    (h : (g.apply e).1 = .ok (.upserted outcome)) :
    ∃ d, e.toDocument g.schemas = .ok d ∧ (g.index d).1 = .ok outcome ∧
      (g.apply e).2.store = g.store.after (.upsert d) := by
  cases hoperation : e.operation with
  | upsert =>
    cases hd : e.toDocument g.schemas with
    | error fault =>
      rw [apply_of_fault hoperation hd] at h
      cases h
    | ok d =>
      rw [apply_of_document hoperation hd] at h ⊢
      obtain ⟨indexed, hindex, hsame⟩ := map_eq_ok_iff.mp h
      cases hsame
      exact ⟨d, rfl, hindex, store_after_index g d⟩
  | delete =>
    rw [apply_of_delete hoperation] at h
    obtain ⟨_, _, hsame⟩ := map_eq_ok_iff.mp h
    cases hsame

/-- A store that is there rejects a document only for itself. -/
theorem exists_fault_of_index (hon : g.store.available = true) {d : Document} {cause : SearchError}
    (h : (g.index d).1 = .error cause) : ∃ fault, cause = .invalidDocument fault := by
  rw [fst_index] at h
  cases hfault : d.resolved.fault? with
  | none =>
    rw [Store.upsert_of_valid hon hfault] at h
    cases h
  | some fault =>
    rw [Store.upsert_of_fault hon hfault] at h
    exact ⟨fault, (Except.error.inj h).symm⟩

/-! ## Offline -/

/-- Offline a document is not written, and the engine stays as it is. -/
theorem index_eq_of_offline (hoff : g.store.available = false) (d : Document) :
    g.index d = (.error .offline, g) := by
  simp only [index, Store.upsert_of_offline hoff]

theorem index_of_offline (hoff : g.store.available = false) (d : Document) :
    (g.index d).1 = .error .offline := by
  rw [index_eq_of_offline hoff]

theorem remove_of_offline (hoff : g.store.available = false) (key : DocumentKey)
    (deletedAt : Instant) : (g.remove key deletedAt).1 = .error .offline := by
  rw [fst_remove, Store.delete_of_offline hoff]
  rfl

/-- Offline no change is applied: it cannot be written, if it is of a record at all. -/
theorem apply_of_offline (hoff : g.store.available = false) (e : ChangeEvent) :
    ∃ fault, (g.apply e).1 = .error fault := by
  cases hoperation : e.operation with
  | upsert =>
    cases hd : e.toDocument g.schemas with
    | error fault => exact ⟨_, by rw [apply_of_fault hoperation hd]⟩
    | ok d =>
      refine ⟨.offline, ?_⟩
      rw [apply_of_document hoperation hd, index_of_offline hoff]
      rfl
  | delete =>
    refine ⟨.offline, ?_⟩
    rw [apply_of_delete hoperation, remove_of_offline hoff]
    rfl

/-! ## What is there afterwards -/

/-- A document that is taken up is there afterwards. -/
theorem live_of_index (hg : g.store.Consistent) {d : Document} {outcome : UpsertOutcome}
    (h : (g.index d).1 = .ok outcome) (houtcome : outcome ≠ .staleWriteIgnored) :
    (g.store.after (.upsert d)).available = true ∧
      (g.store.after (.upsert d)).live? (Store.keyOf d) = some d.resolved := by
  have hupsert : (g.store.upsert d).map (·.1) = .ok outcome := (fst_index g d).symm.trans h
  have hon : g.store.available = true := by
    cases hon : g.store.available with
    | true => rfl
    | false =>
      rw [Store.upsert_of_offline hon] at hupsert
      cases hupsert
  have hvalid : d.resolved.fault? = none := by
    cases hfault : d.resolved.fault? with
    | none => rfl
    | some fault =>
      rw [Store.upsert_of_fault hon hfault] at hupsert
      cases hupsert
  have hblocks : Store.blocks g.store.directory[Store.keyOf d]? d.updatedAt = false := by
    rw [Bool.eq_false_iff]
    intro hblocks
    rw [Store.upsert_of_valid hon hvalid, if_pos hblocks] at hupsert
    exact houtcome (Except.ok.inj hupsert).symm
  have hversion : d.resolved.updatedAt = d.updatedAt := rfl
  refine ⟨(Store.available_after_upsert g.store d).trans hon, ?_⟩
  rw [Store.live?, Store.keyState_after_upsert hg hon hvalid, if_pos rfl, KeyState.upsert,
    ← hg.directory_eq, hversion, hblocks]
  rfl

/-- What is there is removed by a deletion that is not older. -/
theorem remove_of_live (hg : g.store.Consistent) (hon : g.store.available = true)
    {key : DocumentKey} {d : Document} (hlive : g.store.live? (Store.target key) = some d)
    {deletedAt : Instant} (hversion : d.updatedAt ≤ deletedAt) :
    (g.remove key deletedAt).1 = .ok .removed := by
  rw [fst_remove, Store.delete_eq hon, Store.deletionOutcome_of_live hg hlive hversion]
  rfl

end Engine

end CatalogSearch
