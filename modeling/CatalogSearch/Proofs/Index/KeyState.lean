import CatalogSearch.Proofs.Index.Runs

/-!
# What a store knows of a key

A consistent store holds of each key a document, the time of a deletion, or nothing, and all else in
it follows from that.  A write changes what is known of its own key alone, and how it does depends on
that only.
-/

set_option autoImplicit false

namespace CatalogSearch

open CatalogSearch.Time

/-- What is known of a key. -/
inductive KeyState where
  | unknown
  | present (document : Document)
  | deleted (version : Instant)

namespace KeyState

/-- The document that is there. -/
def document? : KeyState → Option Document
  | .present d => some d
  | _ => none

/-- What the directory says of a key. -/
def recorded? : KeyState → Option DirectoryEntry
  | .present d => some (.live (PartitionKey.ofDocument d) d.updatedAt)
  | .deleted version => some (.tombstone version)
  | .unknown => none

/-- A document comes, unless what is known stands against it. -/
def upsert (state : KeyState) (d : Document) : KeyState :=
  if Store.blocks state.recorded? d.updatedAt then state else .present d

/-- A deletion comes, unless what is known outlasts it. -/
def delete (state : KeyState) (deletedAt : Instant) : KeyState :=
  if Store.outlasts state.recorded? deletedAt then state else .deleted deletedAt

end KeyState

namespace Store

/-- What a store knows of a key. -/
def keyState (s : Store) (key : DocumentKey) : KeyState :=
  match s.directory[key]? with
  | some (.live place _) =>
    match (s.partition place).documents[key]? with
    | some x => .present x.document
    | none => .unknown
  | some (.tombstone version) => .deleted version
  | none => .unknown

/-- The live document under a key. -/
def live? (s : Store) (key : DocumentKey) : Option Document := (s.keyState key).document?

/-- What is read under a key is the live document. -/
theorem get_eq_live? (s : Store) (key : DocumentKey) :
    s.get key = s.ensureAvailable.map fun _ => s.live? key := by
  unfold get live? keyState
  cases s.ensureAvailable with
  | error e => rfl
  | ok _ =>
    simp only [bind, Except.bind, Except.map, pure, Except.pure]
    cases s.directory[key]? with
    | none => rfl
    | some entry =>
      cases entry with
      | live place version =>
        simp only
        cases (s.partition place).documents[key]? with
        | none => rfl
        | some x => rfl
      | tombstone version => rfl

/-- An available store reads a live document. -/
theorem get_eq_ok {s : Store} (hon : s.available = true) (key : DocumentKey) :
    s.get key = .ok (s.live? key) := by
  rw [get_eq_live?, ensureAvailable, if_pos hon]
  rfl

theorem get_eq_ok_iff {s : Store} (hon : s.available = true) {key : DocumentKey}
    {found : Option Document} : s.get key = .ok found ↔ s.live? key = found := by
  rw [get_eq_ok hon, Except.ok.injEq]

variable {s s' : Store} {key : DocumentKey}

/-! ## All follows from what is known of the keys -/

namespace Consistent

/-- The directory says what is known. -/
theorem directory_eq (hs : s.Consistent) (key : DocumentKey) :
    s.directory[key]? = (s.keyState key).recorded? := by
  unfold keyState
  cases hentry : s.directory[key]? with
  | none => rfl
  | some entry =>
    cases entry with
    | tombstone version => rfl
    | live place version =>
      obtain ⟨x, hx⟩ := hs.directory key place version hentry
      obtain ⟨_, hplace, hlive⟩ := hs.documents place key x hx
      rw [hentry] at hlive
      simp only [hx, KeyState.recorded?, hplace]
      exact hlive

/-- A partition holds the live documents that are of it, with their analyses. -/
theorem documents_eq_some_iff (hs : s.Consistent) (place : PartitionKey) (key : DocumentKey)
    (x : IndexedDocument) :
    (s.partition place).documents[key]? = some x ↔
      s.live? key = some x.document ∧ PartitionKey.ofDocument x.document = place ∧
        x.analysis = .ofDocument x.document := by
  constructor
  · intro hx
    obtain ⟨_, hplace, hlive⟩ := hs.documents place key x hx
    refine ⟨?_, hplace, (hs.partitions place).analyzed key x hx⟩
    simp only [live?, keyState, hlive, hx, KeyState.document?]
  · rintro ⟨hlive, hplace, hanalysis⟩
    unfold live? keyState at hlive
    split at hlive
    · rename_i home version hentry
      split at hlive
      · rename_i y hy
        have hsame : y.document = x.document := Option.some.inj hlive
        have hhome : home = place := by
          rw [← hplace, ← hsame]
          exact (hs.documents home key y hy).2.1.symm
        have hyanalysis := (hs.partitions home).analyzed key y hy
        have hxy : y = x := by
          obtain ⟨d, analysis⟩ := x
          obtain ⟨e, analysis'⟩ := y
          simp only at hsame hanalysis hyanalysis
          rw [hyanalysis, hanalysis, hsame]
        rw [← hhome, hy, hxy]
      · cases hlive
    · cases hlive
    · cases hlive

/-- A live document stands under its own key. -/
theorem key_of_live (hs : s.Consistent) {d : Document} (h : s.live? key = some d) :
    d.key = key := by
  have hx := (hs.documents_eq_some_iff (PartitionKey.ofDocument d) key
    ⟨d, .ofDocument d⟩).mpr ⟨h, rfl, rfl⟩
  exact (hs.documents _ key _ hx).1

/-- The directory has a live document where it belongs, in its version. -/
theorem directory_of_live (hs : s.Consistent) {d : Document} (h : s.live? key = some d) :
    s.directory[key]? = some (.live (PartitionKey.ofDocument d) d.updatedAt) := by
  rw [hs.directory_eq]
  unfold live? at h
  cases hstate : s.keyState key with
  | present e =>
    rw [hstate] at h
    cases h
    rfl
  | deleted version =>
    rw [hstate] at h
    cases h
  | unknown =>
    rw [hstate] at h
    cases h

end Consistent

/-! ## What a call does to a key -/

theorem keyState_empty (key : DocumentKey) : ({} : Store).keyState key = .unknown := by
  simp [keyState]

/-- What is known of a key rests on what the directory and the partitions hold under it. -/
theorem keyState_congr (hdirectory : s'.directory[key]? = s.directory[key]?)
    (hdocuments : ∀ place : PartitionKey,
      (s'.partition place).documents[key]? = (s.partition place).documents[key]?) :
    s'.keyState key = s.keyState key := by
  simp only [keyState, hdirectory, hdocuments]

/-! ### Other keys -/

theorem directory_place_of_ne {placed : DocumentKey} (hne : placed ≠ key) (d : Document)
    (previous : Option PartitionKey) :
    (s.place placed d previous).directory[key]? = s.directory[key]? := by
  rw [directory_place, Std.ExtTreeMap.getElem?_insert, if_neg (mt Std.compare_eq_iff_eq.mp hne)]

theorem directory_withdraw_of_ne {withdrawn : DocumentKey} (hne : withdrawn ≠ key)
    (version : Instant) : (s.withdraw withdrawn version).directory[key]? = s.directory[key]? := by
  rw [directory_withdraw, Std.ExtTreeMap.getElem?_insert, if_neg (mt Std.compare_eq_iff_eq.mp hne)]

/-- Where a document comes, the others stay. -/
theorem documents_place_of_ne (hs : s.Consistent) {placed : DocumentKey} (hne : placed ≠ key)
    (d : Document) (place : PartitionKey) :
    ((s.place placed d (s.home? placed)).partition place).documents[key]? =
      (s.partition place).documents[key]? := by
  have hcompare : ¬ compare placed key = .eq := mt Std.compare_eq_iff_eq.mp hne
  rw [partition_place hs]
  split
  · rw [Partition.documents_insert, Std.ExtTreeMap.getElem?_insert, if_neg hcompare]
  · rw [Partition.documents_remove, Std.ExtTreeMap.getElem?_erase, if_neg hcompare]

/-- Where a document goes, the others stay. -/
theorem documents_withdraw_of_ne (hs : s.Consistent) {withdrawn : DocumentKey}
    (hne : withdrawn ≠ key) (version : Instant) (place : PartitionKey) :
    ((s.withdraw withdrawn version).partition place).documents[key]? =
      (s.partition place).documents[key]? := by
  rw [partition_withdraw hs, Partition.documents_remove, Std.ExtTreeMap.getElem?_erase,
    if_neg (mt Std.compare_eq_iff_eq.mp hne)]

/-! ### The key of the call -/

theorem keyState_place (hs : s.Consistent) (placed : DocumentKey) (d : Document)
    (key : DocumentKey) :
    (s.place placed d (s.home? placed)).keyState key =
      if placed = key then .present d else s.keyState key := by
  by_cases hkey : placed = key
  · subst hkey
    have hx : ((s.place placed d (s.home? placed)).partition
        (PartitionKey.ofDocument d)).documents[placed]? = some ⟨d, .ofDocument d⟩ := by
      rw [partition_place hs, if_pos rfl, Partition.documents_insert,
        Std.ExtTreeMap.getElem?_insert_self]
    have hentry : (s.place placed d (s.home? placed)).directory[placed]? =
        some (.live (PartitionKey.ofDocument d) d.updatedAt) := by
      rw [directory_place, Std.ExtTreeMap.getElem?_insert_self]
    simp only [keyState, hentry, hx, if_true]
  · rw [if_neg hkey]
    exact keyState_congr (directory_place_of_ne hkey d _) (documents_place_of_ne hs hkey d)

/-- A valid document given to an available store changes what is known of its key. -/
theorem keyState_after_upsert (hs : s.Consistent) {d : Document} (hon : s.available = true)
    (hvalid : d.resolved.fault? = none) (key : DocumentKey) :
    (s.after (.upsert d)).keyState key =
      if keyOf d = key then (s.keyState key).upsert d.resolved else s.keyState key := by
  have hversion : d.resolved.updatedAt = d.updatedAt := rfl
  rw [after_upsert hon hvalid]
  by_cases hkey : keyOf d = key
  · subst hkey
    rw [if_pos rfl, KeyState.upsert, ← hs.directory_eq, hversion]
    split
    · rfl
    · rw [keyState_place hs, if_pos rfl]
  · rw [if_neg hkey]
    split
    · rfl
    · rw [keyState_place hs, if_neg hkey]

/-- A deletion in an available store changes what is known of its key. -/
theorem keyState_after_delete (hs : s.Consistent) (hon : s.available = true)
    (deleted : DocumentKey) (deletedAt : Instant) (key : DocumentKey) :
    (s.after (.delete deleted deletedAt)).keyState key =
      if target deleted = key then (s.keyState key).delete deletedAt else s.keyState key := by
  rw [after_delete_eq hon]
  by_cases hkey : target deleted = key
  · subst hkey
    rw [if_pos rfl, KeyState.delete, ← hs.directory_eq]
    split
    · rfl
    · simp only [keyState, directory_withdraw, Std.ExtTreeMap.getElem?_insert_self]
  · rw [if_neg hkey]
    split
    · rfl
    · exact keyState_congr (directory_withdraw_of_ne hkey _) (documents_withdraw_of_ne hs hkey _)

/-- The deletion of another key leaves a document. -/
theorem live?_after_delete_of_ne (hs : s.Consistent) (hon : s.available = true)
    {deleted : DocumentKey} (hne : target deleted ≠ key) (deletedAt : Instant) :
    (s.after (.delete deleted deletedAt)).live? key = s.live? key := by
  rw [live?, live?, keyState_after_delete hs hon, if_neg hne]

/-- A live document that is not newer than its deletion is removed. -/
theorem deletionOutcome_of_live (hs : s.Consistent) {d : Document} (hlive : s.live? key = some d)
    {deletedAt : Instant} (hversion : d.updatedAt ≤ deletedAt) :
    deletionOutcome s.directory[key]? deletedAt = .removed := by
  rw [hs.directory_of_live hlive]
  exact if_neg hversion

end Store

end CatalogSearch
