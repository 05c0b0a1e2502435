import CatalogSearch.Index.Store
import CatalogSearch.Proofs.Index.Partition

/-!
# The store agrees with itself

The directory says where every document lives, and the partitions hold the documents.  The store is
consistent when the two agree and every partition is consistent.  Placing a document, deleting one and
forgetting old deletions keep it so.
-/

set_option autoImplicit false

namespace CatalogSearch.Store

open CatalogSearch.Time

/-- The directory and the partitions agree. -/
structure Consistent (s : Store) : Prop where
  /-- Every partition is consistent. -/
  partitions : ∀ place : PartitionKey, (s.partition place).Consistent
  /-- A document that the directory knows is in the partition that the directory says. -/
  directory : ∀ (key : DocumentKey) (place : PartitionKey) (version : Instant),
    s.directory[key]? = some (.live place version) →
      ∃ x, (s.partition place).documents[key]? = some x
  /-- A document in a partition is of that partition, stands under its own key, and the directory
  knows it there in its version. -/
  documents : ∀ (place : PartitionKey) (key : DocumentKey) (x : IndexedDocument),
    (s.partition place).documents[key]? = some x →
      x.document.key = key ∧ PartitionKey.ofDocument x.document = place ∧
        s.directory[key]? = some (.live place x.document.updatedAt)

theorem consistent_empty : Consistent {} where
  partitions place := by
    have h : (({} : Store).partition place) = {} := by simp [partition]
    rw [h]
    exact Partition.consistent_empty
  directory key place version h := by simp at h
  documents place key x h := by simp [partition] at h

/-- The partition in which a document lives. -/
def home? (s : Store) (key : DocumentKey) : Option PartitionKey :=
  match s.directory[key]? with
  | some (.live place _) => some place
  | _ => none

variable {s s' : Store} {key : DocumentKey} {d : Document}

namespace Consistent

/-- A document is in no partition but its home. -/
theorem absent (hs : s.Consistent) {place : PartitionKey} (h : s.home? key ≠ some place) :
    (s.partition place).documents[key]? = none := by
  cases hx : (s.partition place).documents[key]? with
  | none => rfl
  | some x =>
    refine absurd ?_ h
    simp only [home?, (hs.documents place key x hx).2.2]

/-- What is not in a partition can be taken out of it. -/
theorem remove_absent (hs : s.Consistent) {place : PartitionKey} (h : s.home? key ≠ some place) :
    (s.partition place).remove key = s.partition place :=
  Partition.remove_of_absent (hs.absent h)

/-- A store with the same partitions and the same documents in its directory is as consistent. -/
theorem of_same_documents (hs : s.Consistent)
    (hpartition : ∀ place, s'.partition place = s.partition place)
    (hdirectory : ∀ (key : DocumentKey) (place : PartitionKey) (version : Instant),
      s'.directory[key]? = some (.live place version) ↔
        s.directory[key]? = some (.live place version)) : s'.Consistent where
  partitions place := by
    rw [hpartition]
    exact hs.partitions place
  directory key place version h := by
    rw [hpartition]
    exact hs.directory key place version ((hdirectory key place version).mp h)
  documents place key x h := by
    rw [hpartition] at h
    obtain ⟨hkey, hplace, hlive⟩ := hs.documents place key x h
    exact ⟨hkey, hplace, (hdirectory key place _).mpr hlive⟩

/-- A store that has lost a document and notes its deletion is consistent. -/
theorem of_deletion (hs : s.Consistent) {version : Instant}
    (hpartition : ∀ place, s'.partition place = (s.partition place).remove key)
    (hdirectory : s'.directory = s.directory.insert key (.tombstone version)) :
    s'.Consistent where
  partitions place := by
    rw [hpartition]
    exact (hs.partitions place).remove key
  directory other place v h := by
    rw [hdirectory, Std.ExtTreeMap.getElem?_insert] at h
    rw [hpartition, Partition.documents_remove, Std.ExtTreeMap.getElem?_erase]
    split at h
    · cases h
    · rename_i hother
      rw [if_neg hother]
      exact hs.directory other place v h
  documents place other x h := by
    rw [hpartition, Partition.documents_remove, Std.ExtTreeMap.getElem?_erase] at h
    rw [hdirectory, Std.ExtTreeMap.getElem?_insert]
    split at h
    · cases h
    · rename_i hother
      rw [if_neg hother]
      exact hs.documents place other x h

/-- A store in which a document has come to its partition, and to no other one, is consistent. -/
theorem of_placement (hs : s.Consistent) (hkey : d.key = key)
    (hpartition : ∀ place, s'.partition place =
      if place = PartitionKey.ofDocument d then
        (s.partition place).insert key ⟨d, .ofDocument d⟩
      else (s.partition place).remove key)
    (hdirectory : s'.directory =
      s.directory.insert key (.live (PartitionKey.ofDocument d) d.updatedAt)) :
    s'.Consistent where
  partitions place := by
    rw [hpartition]
    split
    · exact (hs.partitions place).insert key d
    · exact (hs.partitions place).remove key
  directory other place version h := by
    rw [hdirectory, Std.ExtTreeMap.getElem?_insert] at h
    rw [hpartition]
    split at h
    · rename_i hother
      cases h
      rw [if_pos rfl, Partition.documents_insert, Std.ExtTreeMap.getElem?_insert, if_pos hother]
      exact ⟨_, rfl⟩
    · rename_i hother
      split
      · rw [Partition.documents_insert, Std.ExtTreeMap.getElem?_insert, if_neg hother]
        exact hs.directory other place version h
      · rw [Partition.documents_remove, Std.ExtTreeMap.getElem?_erase, if_neg hother]
        exact hs.directory other place version h
  documents place other x h := by
    rw [hdirectory, Std.ExtTreeMap.getElem?_insert]
    rw [hpartition] at h
    by_cases hother : compare key other = .eq
    · rw [if_pos hother]
      have hsame : key = other := Std.LawfulEqOrd.eq_of_compare hother
      split at h
      · rename_i hplace
        rw [Partition.documents_insert, Std.ExtTreeMap.getElem?_insert, if_pos hother] at h
        cases h
        exact ⟨hkey.trans hsame, hplace.symm, by rw [hplace]⟩
      · rw [Partition.documents_remove, Std.ExtTreeMap.getElem?_erase, if_pos hother] at h
        cases h
    · rw [if_neg hother]
      split at h
      · rw [Partition.documents_insert, Std.ExtTreeMap.getElem?_insert, if_neg hother] at h
        exact hs.documents place other x h
      · rw [Partition.documents_remove, Std.ExtTreeMap.getElem?_erase, if_neg hother] at h
        exact hs.documents place other x h

end Consistent

/-! ## The operations on the partitions -/

theorem partition_onPartition (s : Store) (changed place : PartitionKey)
    (f : Partition → Partition) :
    (s.onPartition changed f).partition place =
      if changed = place then f (s.partition place) else s.partition place := by
  simp only [onPartition, partition, Std.ExtTreeMap.getElem?_alter, Std.compare_eq_iff_eq]
  split
  · rename_i h
    rw [h, Option.getD_some]
  · rfl

theorem directory_place (s : Store) (key : DocumentKey) (d : Document)
    (previous : Option PartitionKey) :
    (s.place key d previous).directory =
      s.directory.insert key (.live (PartitionKey.ofDocument d) d.updatedAt) := by
  cases previous with
  | none => rfl
  | some source =>
    simp only [Store.place]
    split
    · rfl
    · rfl

theorem partition_place (hs : s.Consistent) (key : DocumentKey) (d : Document)
    (place : PartitionKey) :
    (s.place key d (s.home? key)).partition place =
      if place = PartitionKey.ofDocument d then
        (s.partition place).insert key ⟨d, .ofDocument d⟩
      else (s.partition place).remove key := by
  have hunfold : ∀ t : Store, ∀ entry generation,
      ({ t with directory := entry, generation := generation } : Store).partition place =
        t.partition place := fun _ _ _ => rfl
  simp only [Store.place, hunfold, partition_onPartition]
  cases hhome : s.home? key with
  | none =>
    by_cases hplace : place = PartitionKey.ofDocument d
    · rw [if_pos hplace.symm, if_pos hplace]
    · rw [if_neg (Ne.symm hplace), if_neg hplace, hs.remove_absent (by simp [hhome])]
  | some source =>
    by_cases hplace : place = PartitionKey.ofDocument d
    · rw [if_pos hplace.symm, if_pos hplace]
      simp only
      split
      · rfl
      · rename_i hsource
        rw [partition_onPartition, if_neg (fun h => hsource (h.trans hplace))]
    · rw [if_neg (Ne.symm hplace), if_neg hplace]
      simp only
      split
      · rename_i hsource
        rw [hs.remove_absent]
        rw [hhome, hsource]
        exact fun h => hplace (Option.some.inj h).symm
      · rw [partition_onPartition]
        split
        · rfl
        · rename_i hsource
          rw [hs.remove_absent]
          rw [hhome]
          exact fun h => hsource (Option.some.inj h)

/-- A document placed under its key keeps the store consistent. -/
theorem Consistent.place (hs : s.Consistent) (hkey : d.key = key) :
    (s.place key d (s.home? key)).Consistent :=
  hs.of_placement hkey (partition_place hs key d) (directory_place s key d _)

end CatalogSearch.Store
