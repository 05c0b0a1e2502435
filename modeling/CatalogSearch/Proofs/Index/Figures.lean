import CatalogSearch.Proofs.Index.Generations
import CatalogSearch.Proofs.Index.Lookup

/-!
# The figures of a store

The figures are read off the partitions and the directory, which writes keep up to date entry by entry:
partitions that have lost their documents stay behind, posting lists go with their last document, and an
entry of the directory turns from a document into the time of its deletion and back.  After any calls
they are nevertheless what counting afresh gives: the live documents, their partitions and their tokens,
and the keys that were deleted and have not come back since.
-/

set_option autoImplicit false

namespace CatalogSearch

open CatalogSearch.Time

/-! ## What calls say of a key -/

namespace StoreAnswer

/-- Whether a document came under a key that had none. -/
def inserts : StoreAnswer → Bool
  | .upserted (.ok .inserted) => true
  | _ => false

/-- Whether a document went. -/
def removes : StoreAnswer → Bool
  | .deleted (.ok .removed) => true
  | _ => false

theorem inserts_of_not_changes {answer : StoreAnswer} (h : answer.changesDocument = false) :
    answer.inserts = false := by
  unfold inserts
  split
  · cases h
  · rfl

theorem removes_of_not_changes {answer : StoreAnswer} (h : answer.changesDocument = false) :
    answer.removes = false := by
  unfold removes
  split
  · cases h
  · rfl

end StoreAnswer

namespace StoreCall

/-- The call is answered as a deletion of a key that was carried out, or found nothing to delete. -/
def Deletes (call : StoreCall) (answer : StoreAnswer) (key : DocumentKey) : Prop :=
  ∃ (written : DocumentKey) (deletedAt : Instant), call = .delete written deletedAt ∧
    Store.target written = key ∧
      (answer = .deleted (.ok .removed) ∨ answer = .deleted (.ok .alreadyAbsent))

/-- The call is answered as an insertion under a key. -/
def Brings (call : StoreCall) (answer : StoreAnswer) (key : DocumentKey) : Prop :=
  ∃ d : Document, call = .upsert d ∧ Store.keyOf d = key ∧ answer = .upserted (.ok .inserted)

end StoreCall

namespace Store

variable {s t : Store} {call : StoreCall} {answer : StoreAnswer} {key : DocumentKey}

/-- The deletion of a key is noted. -/
def Buried (s : Store) (key : DocumentKey) : Prop :=
  ∃ version, s.directory[key]? = some (.tombstone version)

/-- The call is a purge that takes away the note of a key's deletion. -/
def Drops (s : Store) (call : StoreCall) (key : DocumentKey) : Prop :=
  ∃ cutoff, call = .purge cutoff ∧ s.Buried key ∧ (s.after call).directory[key]? = none

/-- One of the calls is answered as a deletion of a key, none of the later ones brings the key back, and
no later purge drops its tombstone. -/
def StaysDeleted (s : Store) (calls : List StoreCall) (key : DocumentKey) : Prop :=
  ∃ i call, calls[i]? = some call ∧ call.Deletes ((s.run (calls.take i)).answer call) key ∧
    ∀ j later, i < j → calls[j]? = some later →
      ¬ later.Brings ((s.run (calls.take j)).answer later) key ∧
        ¬ (s.run (calls.take j)).Drops later key

/-- The number of entries of the directory that are of live documents. -/
def liveEntries (s : Store) : Nat := s.directory.toList.countP fun e => !e.2.isTombstone

/-! ## Live documents come and go -/

/-- One entry of the directory, apart from all others. -/
theorem liveEntries_eq (s : Store) (key : DocumentKey) :
    s.liveEntries = (s.directory.erase key).toList.countP (fun e => !e.2.isTombstone) +
      if (s.home? key).isSome then 1 else 0 := by
  unfold liveEntries home?
  cases hentry : s.directory[key]? with
  | none => rw [OrderedMap.erase_eq_self hentry]; rfl
  | some entry =>
    rw [OrderedMap.countP_erase hentry]
    cases entry with
    | live place version => rfl
    | tombstone version => rfl

/-- The key of a document that is placed has an entry of a live document. -/
theorem liveEntries_place (s : Store) (key : DocumentKey) (d : Document) :
    (s.place key d (s.home? key)).liveEntries =
      s.liveEntries + if (s.home? key).isSome then 0 else 1 := by
  rw [liveEntries, directory_place, OrderedMap.countP_insert, s.liveEntries_eq key]
  cases (s.home? key).isSome with
  | true => rfl
  | false => rfl

/-- The key of a document that is deleted has none. -/
theorem liveEntries_of_buried {version : Instant}
    (h : t.directory = s.directory.insert key (.tombstone version)) :
    t.liveEntries + (if (s.home? key).isSome then 1 else 0) = s.liveEntries := by
  rw [liveEntries, h, OrderedMap.countP_insert, s.liveEntries_eq key]
  rfl

/-- A purge drops no entry of a live document. -/
theorem liveEntries_purge (s : Store) (cutoff : Instant) :
    (s.purge cutoff).2.liveEntries = s.liveEntries := by
  rw [liveEntries, directory_purge, List.countP_filter, liveEntries]
  refine List.countP_congr fun e _ => ?_
  cases e.2 with
  | live place version => simp [DirectoryEntry.isTombstone, isPurged]
  | tombstone version => simp [DirectoryEntry.isTombstone]

/-- A document that comes is an insertion when its key had none, and an update when it had one. -/
theorem home?_of_upserted {d : Document} {outcome : UpsertOutcome}
    (h : s.answer (.upsert d) = .upserted (.ok outcome)) (houtcome : outcome ≠ .staleWriteIgnored) :
    (s.home? (keyOf d)).isSome = !decide (outcome = .inserted) := by
  have hanswer : (s.upsert d).map (·.1) = .ok outcome := StoreAnswer.upserted.inj h
  cases hon : s.available with
  | false =>
    rw [upsert_of_offline hon] at hanswer
    cases hanswer
  | true =>
    cases hfault : d.resolved.fault? with
    | some fault =>
      rw [upsert_of_fault hon hfault] at hanswer
      cases hanswer
    | none =>
      rw [upsert_of_valid hon hfault] at hanswer
      have hfirst := Except.ok.inj hanswer
      split at hfirst
      · exact absurd hfirst.symm houtcome
      · cases hhome : (s.home? (keyOf d)).isSome with
        | true =>
          rw [if_pos hhome] at hfirst
          subst hfirst
          rfl
        | false =>
          rw [hhome] at hfirst
          subst hfirst
          rfl

/-- Whatever a call does, the live documents are those before it, with those that came and without
those that went. -/
theorem Effect.liveEntries (h : s.Effect call answer t) (hanswer : s.answer call = answer) :
    t.liveEntries + (if answer.removes then 1 else 0) =
      s.liveEntries + if answer.inserts then 1 else 0 := by
  cases h with
  | refused hrefuses =>
    have hchanges := StoreAnswer.changesDocument_of_refuses hrefuses
    rw [StoreAnswer.removes_of_not_changes hchanges, StoreAnswer.inserts_of_not_changes hchanges]
  | @placed d outcome houtcome =>
    have hhome := home?_of_upserted hanswer houtcome
    have hplaced := s.liveEntries_place (keyOf d) d.resolved
    rw [hhome] at hplaced
    rw [hplaced]
    cases outcome with
    | inserted => rfl
    | updated => rfl
    | staleWriteIgnored => exact absurd rfl houtcome
  | withdrawn key deletedAt place hhome =>
    have hdeleted := liveEntries_of_buried (s.directory_withdraw (target key) deletedAt)
    rw [hhome] at hdeleted
    exact hdeleted
  | noted key deletedAt hhome =>
    have hdeleted := liveEntries_of_buried (t := s.bury (target key) deletedAt) rfl
    rw [hhome] at hdeleted
    exact hdeleted
  | outlasted => rfl
  | purged cutoff => exact s.liveEntries_purge cutoff
  | switched => rfl
  | read hchanges =>
    rw [StoreAnswer.removes_of_not_changes hchanges, StoreAnswer.inserts_of_not_changes hchanges]

/-- Over a run the live documents are balanced by the answers. -/
theorem liveEntries_run (s : Store) (calls : List StoreCall) :
    (s.run calls).liveEntries + (s.transcript calls).countP (fun e => e.2.removes) =
      s.liveEntries + (s.transcript calls).countP fun e => e.2.inserts := by
  induction calls generalizing s with
  | nil => rfl
  | cons call rest ih =>
    have hstep := (effect s call).liveEntries rfl
    have hrest := ih (s.after call)
    have hrun : s.run (call :: rest) = (s.after call).run rest := rfl
    rw [hrun, transcript, List.countP_cons, List.countP_cons]
    dsimp only
    omega

/-! ## Deletions are noted and dropped -/

theorem Buried.home? (h : s.Buried key) : s.home? key = none := by
  obtain ⟨version, hentry⟩ := h
  simp only [Store.home?, hentry]

theorem buried_congr (h : t.directory[key]? = s.directory[key]?) : t.Buried key ↔ s.Buried key := by
  rw [Buried, Buried, h]

/-- A call that leaves the entry of a key neither deletes the key nor brings it back. -/
theorem not_deletes_of_refuses (h : answer.refuses = true) : ¬ call.Deletes answer key := by
  rintro ⟨_, _, _, _, rfl | rfl⟩
  · cases h
  · cases h

theorem not_brings_of_refuses (h : answer.refuses = true) : ¬ call.Brings answer key := by
  rintro ⟨_, _, _, rfl⟩
  cases h

/-- What leaves the entry of a key as it is does not drop it. -/
theorem not_drops_of_same (h : (s.after call).directory[key]? = s.directory[key]?) :
    ¬ s.Drops call key := by
  rintro ⟨_, _, ⟨version, hentry⟩, hnone⟩
  rw [h, hentry] at hnone
  cases hnone

/-- A document that comes under a key whose deletion is noted brings the key back. -/
theorem brings_of_buried {d : Document} {outcome : UpsertOutcome}
    (hanswer : s.answer (.upsert d) = .upserted (.ok outcome))
    (houtcome : outcome ≠ .staleWriteIgnored) (h : s.Buried (keyOf d)) :
    (StoreCall.upsert d).Brings (.upserted (.ok outcome)) (keyOf d) := by
  have hhome := home?_of_upserted hanswer houtcome
  rw [h.home?] at hhome
  have hinserted : outcome = .inserted := by simpa using hhome
  exact ⟨d, rfl, rfl, by rw [hinserted]⟩

/-- A call that leaves the entry of a key as it is, and is answered neither as its deletion nor as an
insertion under it, leaves the key buried if it was. -/
theorem buried_iff_of_kept (hafter : s.after call = t)
    (hkept : t.directory[key]? = s.directory[key]?)
    (hdeletes : ¬ call.Deletes answer key) (hbrings : ¬ call.Brings answer key) :
    t.Buried key ↔ call.Deletes answer key ∨
      s.Buried key ∧ ¬ call.Brings answer key ∧ ¬ s.Drops call key := by
  have hdrops : ¬ s.Drops call key := not_drops_of_same (by rw [hafter, hkept])
  simp only [buried_congr hkept, hdeletes, hbrings, hdrops, not_false_eq_true, and_true, false_or]

/-- A deletion that finds its document or finds nothing leaves its key buried, and others as they
are. -/
theorem buried_iff_of_delete {written : DocumentKey} {deletedAt : Instant}
    (hafter : s.after (.delete written deletedAt) = t)
    (hanswer : answer = .deleted (.ok .removed) ∨ answer = .deleted (.ok .alreadyAbsent))
    (hburied : t.Buried (target written))
    (hothers : target written ≠ key → t.directory[key]? = s.directory[key]?) :
    t.Buried key ↔ (StoreCall.delete written deletedAt).Deletes answer key ∨
      s.Buried key ∧ ¬ (StoreCall.delete written deletedAt).Brings answer key ∧
        ¬ s.Drops (.delete written deletedAt) key := by
  by_cases hkey : target written = key
  · subst hkey
    exact iff_of_true hburied (Or.inl ⟨written, deletedAt, rfl, rfl, hanswer⟩)
  · refine buried_iff_of_kept hafter (hothers hkey) ?_ ?_
    · rintro ⟨_, _, hcall, hother, _⟩
      cases hcall
      exact hkey hother
    · rintro ⟨_, hcall, _⟩
      cases hcall

/-- The entry of a document that is placed is not of a deletion. -/
theorem not_buried_place (s : Store) (key : DocumentKey) (d : Document)
    (previous : Option PartitionKey) : ¬ (s.place key d previous).Buried key := by
  rintro ⟨version, hentry⟩
  rw [directory_place, Std.ExtTreeMap.getElem?_insert_self] at hentry
  cases hentry

/-- A document that comes leaves its key not buried, and others as they are. -/
theorem buried_iff_of_upsert {d : Document} {outcome : UpsertOutcome}
    (hafter : s.after (.upsert d) = s.place (keyOf d) d.resolved (s.home? (keyOf d)))
    (hanswer : s.answer (.upsert d) = .upserted (.ok outcome))
    (houtcome : outcome ≠ .staleWriteIgnored) :
    (s.place (keyOf d) d.resolved (s.home? (keyOf d))).Buried key ↔
      (StoreCall.upsert d).Deletes (.upserted (.ok outcome)) key ∨
        s.Buried key ∧ ¬ (StoreCall.upsert d).Brings (.upserted (.ok outcome)) key ∧
          ¬ s.Drops (.upsert d) key := by
  have hdeletes : ¬ (StoreCall.upsert d).Deletes (.upserted (.ok outcome)) key := by
    rintro ⟨_, _, hcall, _⟩
    cases hcall
  by_cases hkey : keyOf d = key
  · subst hkey
    refine iff_of_false (not_buried_place s (keyOf d) d.resolved _) ?_
    rintro (hdeleted | ⟨hburied, hbrings, _⟩)
    · exact hdeletes hdeleted
    · exact hbrings (brings_of_buried hanswer houtcome hburied)
  · refine buried_iff_of_kept hafter (directory_place_of_ne hkey d.resolved _) hdeletes ?_
    rintro ⟨_, hcall, hother, _⟩
    cases hcall
    exact hkey hother

/-- A purge takes away the tombstones that it drops, and no others. -/
theorem buried_purge_iff (s : Store) (cutoff : Instant) (key : DocumentKey) :
    (s.purge cutoff).2.Buried key ↔ s.Buried key ∧ ¬ s.Drops (.purge cutoff) key := by
  have hkept : (s.purge cutoff).2.directory[key]? =
      s.directory[key]?.filter fun entry => !isPurged cutoff entry :=
    Std.ExtTreeMap.getElem?_filter'
  constructor
  · rintro ⟨version, hentry⟩
    have hnoted := hentry
    rw [hkept, Option.filter_eq_some_iff] at hnoted
    refine ⟨⟨version, hnoted.1⟩, ?_⟩
    rintro ⟨_, _, _, hnone⟩
    rw [show s.after (.purge cutoff) = (s.purge cutoff).2 from rfl, hentry] at hnone
    cases hnone
  · rintro ⟨⟨version, hentry⟩, hdrops⟩
    refine ⟨version, ?_⟩
    cases hfound : (s.purge cutoff).2.directory[key]? with
    | none => exact absurd ⟨cutoff, rfl, ⟨version, hentry⟩, hfound⟩ hdrops
    | some entry =>
      rw [hkept, hentry, Option.filter_eq_some_iff] at hfound
      rw [hfound.1]

/-- A key is buried after a call when the call deletes it, or when it was before and the call neither
brings it back nor drops its tombstone. -/
theorem Effect.buried_iff (h : s.Effect call answer t) (hanswer : s.answer call = answer)
    (hafter : s.after call = t) :
    t.Buried key ↔ call.Deletes answer key ∨
      s.Buried key ∧ ¬ call.Brings answer key ∧ ¬ s.Drops call key := by
  cases h with
  | refused hrefuses =>
    exact buried_iff_of_kept hafter rfl (not_deletes_of_refuses hrefuses)
      (not_brings_of_refuses hrefuses)
  | placed d houtcome => exact buried_iff_of_upsert hafter hanswer houtcome
  | withdrawn written deletedAt =>
    refine buried_iff_of_delete hafter (Or.inl rfl) ⟨deletedAt, ?_⟩ fun hne =>
      directory_withdraw_of_ne hne deletedAt
    rw [directory_withdraw, Std.ExtTreeMap.getElem?_insert_self]
  | noted written deletedAt hhome =>
    refine buried_iff_of_delete hafter (Or.inr rfl)
      ⟨deletedAt, Std.ExtTreeMap.getElem?_insert_self⟩ ?_
    rw [← withdraw_of_absent hhome]
    exact fun hne => directory_withdraw_of_ne hne deletedAt
  | outlasted written deletedAt version hentry =>
    exact buried_iff_of_delete hafter (Or.inr rfl) ⟨version, hentry⟩ fun _ => rfl
  | purged cutoff number =>
    have hdeletes : ¬ (StoreCall.purge cutoff).Deletes (.purged number) key := by
      rintro ⟨_, _, hcall, _⟩
      cases hcall
    have hbrings : ¬ (StoreCall.purge cutoff).Brings (.purged number) key := by
      rintro ⟨_, hcall, _⟩
      cases hcall
    simp only [buried_purge_iff, hdeletes, hbrings, not_false_eq_true, true_and, false_or]
  | switched available =>
    refine buried_iff_of_kept hafter rfl ?_ ?_
    · rintro ⟨_, _, hcall, _⟩
      cases hcall
    · rintro ⟨_, hcall, _⟩
      cases hcall
  | read hchanges habsent =>
    refine buried_iff_of_kept hafter rfl ?_ ?_
    · rintro ⟨_, _, _, _, rfl | rfl⟩
      · cases hchanges
      · exact habsent rfl
    · rintro ⟨_, _, _, rfl⟩
      cases hchanges

theorem run_append (s : Store) (calls : List StoreCall) (call : StoreCall) :
    s.run (calls ++ [call]) = (s.run calls).after call := List.foldl_append

/-- A key stays deleted over one more call. -/
theorem staysDeleted_append_iff (s : Store) (calls : List StoreCall) (call : StoreCall)
    (key : DocumentKey) :
    s.StaysDeleted (calls ++ [call]) key ↔
      call.Deletes ((s.run calls).answer call) key ∨ s.StaysDeleted calls key ∧
        ¬ call.Brings ((s.run calls).answer call) key ∧ ¬ (s.run calls).Drops call key := by
  have htake : ∀ {i}, i ≤ calls.length → (calls ++ [call]).take i = calls.take i :=
    fun h => List.take_append_of_le_length h
  have hlast : (calls ++ [call])[calls.length]? = some call := List.getElem?_concat_length
  constructor
  · rintro ⟨i, deletion, hdeletion, hdeletes, hlater⟩
    have hi := (List.getElem?_eq_some_iff.mp hdeletion).1
    rw [List.length_append, List.length_singleton] at hi
    rw [htake (by omega)] at hdeletes
    by_cases hend : i = calls.length
    · subst hend
      rw [hlast] at hdeletion
      cases hdeletion
      rw [List.take_length] at hdeletes
      exact Or.inl hdeletes
    · have hbefore : i < calls.length := by omega
      have hnow := hlater calls.length call hbefore hlast
      rw [htake (Nat.le_refl _), List.take_length] at hnow
      rw [List.getElem?_append_left hbefore] at hdeletion
      refine Or.inr ⟨⟨i, deletion, hdeletion, hdeletes, fun j later hij hj => ?_⟩, hnow⟩
      have hjlength : j < calls.length := (List.getElem?_eq_some_iff.mp hj).1
      have hkeeps := hlater j later hij (by rw [List.getElem?_append_left hjlength, hj])
      rwa [htake (by omega)] at hkeeps
  · rintro (hdeletes | ⟨⟨i, deletion, hdeletion, hdeletes, hlater⟩, hnow⟩)
    · refine ⟨calls.length, call, hlast, ?_, fun j later hij hj => ?_⟩
      · rwa [htake (Nat.le_refl _), List.take_length]
      · have hjlength := (List.getElem?_eq_some_iff.mp hj).1
        rw [List.length_append, List.length_singleton] at hjlength
        omega
    · have hi : i < calls.length := (List.getElem?_eq_some_iff.mp hdeletion).1
      refine ⟨i, deletion, by rw [List.getElem?_append_left hi, hdeletion], ?_, fun j later hij hj => ?_⟩
      · rwa [htake (by omega)]
      · have hjlength := (List.getElem?_eq_some_iff.mp hj).1
        rw [List.length_append, List.length_singleton] at hjlength
        rw [htake (by omega)]
        by_cases hend : j = calls.length
        · subst hend
          rw [hlast] at hj
          cases hj
          rwa [List.take_length]
        · rw [List.getElem?_append_left (by omega)] at hj
          exact hlater j later hij hj

/-- After calls on a store of nothing the deletions that are noted are those of the keys that stay
deleted. -/
theorem buried_run_iff (calls : List StoreCall) (key : DocumentKey) :
    (Store.empty.run calls).Buried key ↔ Store.empty.StaysDeleted calls key := by
  induction calls using List.reverseRecOn with
  | nil =>
    refine iff_of_false ?_ ?_
    · rintro ⟨version, hentry⟩
      rw [show (Store.empty.run []).directory = ∅ from rfl, Std.ExtTreeMap.getElem?_empty] at hentry
      cases hentry
    · rintro ⟨i, call, hcall, _⟩
      cases hcall
  | append_singleton calls call ih =>
    rw [run_append, (effect (Store.empty.run calls) call).buried_iff rfl rfl, ih,
      staysDeleted_append_iff]

/-! ## The figures -/

/-- The partitions that a caller without limits sees are all. -/
theorem visiblePartitions_unrestricted (s : Store) :
    s.visiblePartitions EntityType.all .unrestricted = s.partitions.toList.map (·.2) := by
  rw [visiblePartitions, List.filter_eq_self.mpr]
  rintro ⟨place, p⟩ _
  have hadmits : TenantScope.unrestricted.admitsPartition place.scope = true := rfl
  simp only [hadmits, Bool.and_true, List.contains_iff_mem]
  exact EntityType.mem_all place.entityType

/-- A scan of everything finds the live documents. -/
theorem Consistent.found_unrestricted_perm (hs : s.Consistent) :
    (s.found EntityType.all .unrestricted).Perm s.liveDocuments := by
  have hall : s.liveDocuments.filter (fun d =>
      EntityType.all.contains d.entityType && TenantScope.unrestricted.admits d) =
        s.liveDocuments := by
    refine List.filter_eq_self.mpr fun d _ => ?_
    have hadmits : TenantScope.unrestricted.admits d = true := rfl
    rw [hadmits, Bool.and_true, List.contains_iff_mem]
    exact EntityType.mem_all d.entityType
  exact hall ▸ hs.found_perm

/-- A document of a partition is a live one that belongs there. -/
theorem Consistent.mem_partition_iff (hs : s.Consistent) {place : PartitionKey} {d : Document} :
    (∃ (key : DocumentKey) (x : IndexedDocument),
      (s.partition place).documents[key]? = some x ∧ x.document = d) ↔
      d ∈ s.liveDocuments ∧ PartitionKey.ofDocument d = place := by
  rw [hs.mem_liveDocuments]
  constructor
  · rintro ⟨key, x, hx, rfl⟩
    obtain ⟨hlive, hplace, _⟩ := (hs.documents_eq_some_iff place key x).mp hx
    rw [hs.key_of_live hlive]
    exact ⟨hlive, hplace⟩
  · rintro ⟨hlive, hplace⟩
    exact ⟨d.key, ⟨d, .ofDocument d⟩, (hs.documents_eq_some_iff _ _ _).mpr ⟨hlive, hplace, rfl⟩, rfl⟩

/-- The documents are counted partition by partition. -/
theorem Consistent.documents_stats (hs : s.Consistent) :
    s.stats.documents = s.liveDocuments.length := by
  rw [← hs.found_unrestricted_perm.length_eq, length_found, visiblePartitions_unrestricted,
    List.map_map]
  rfl

/-- The live documents are those that the directory has. -/
theorem Consistent.length_liveDocuments (hs : s.Consistent) :
    s.liveDocuments.length = s.liveEntries := by
  have hlive : ∀ e ∈ s.directory.toList, (s.live? e.1).isSome = !e.2.isTombstone := by
    intro e he
    have hentry := Std.ExtTreeMap.mem_toList_iff_getElem?_eq_some.mp he
    rw [hs.directory_eq] at hentry
    unfold live?
    cases hstate : s.keyState e.1 with
    | unknown =>
      rw [hstate] at hentry
      cases hentry
    | present d =>
      rw [hstate] at hentry
      rw [← Option.some.inj hentry]
      rfl
    | deleted version =>
      rw [hstate] at hentry
      rw [← Option.some.inj hentry]
      rfl
  rw [liveDocuments, List.length_filterMap_eq_countP, ← Std.ExtTreeMap.map_fst_toList_eq_keys,
    List.countP_map, liveEntries]
  exact List.countP_congr fun e he => by rw [Function.comp_apply, hlive e he]

/-- A partition is counted when documents belong to it, and only then. -/
theorem Consistent.partitions_stats (hs : s.Consistent) :
    s.stats.partitions = (s.liveDocuments.map PartitionKey.ofDocument).toFinset.card := by
  have hcount : s.stats.partitions =
      ((s.partitions.toList.filter fun e => !e.2.documents.isEmpty).map (·.1)).length := by
    rw [List.length_map, ← List.countP_eq_length_filter]
    rfl
  rw [hcount, ← List.toFinset_card_of_nodup (OrderedMap.nodup_keys_filter s.partitions _)]
  congr 1
  ext place
  simp only [List.mem_toFinset, List.mem_map, List.mem_filter]
  constructor
  · rintro ⟨e, ⟨he, hoccupied⟩, rfl⟩
    have hne : e.2.documents.toList ≠ [] := by
      rw [ne_eq, ← List.isEmpty_iff, Std.ExtTreeMap.isEmpty_toList]
      simpa using hoccupied
    obtain ⟨⟨key, x⟩, hx⟩ := List.exists_mem_of_ne_nil _ hne
    rw [Std.ExtTreeMap.mem_toList_iff_getElem?_eq_some, ← partition_of_mem he] at hx
    exact ⟨x.document, hs.mem_partition_iff.mp ⟨key, x, hx, rfl⟩⟩
  · rintro ⟨d, hd⟩
    obtain ⟨key, x, hx, _⟩ := hs.mem_partition_iff.mpr hd
    refine ⟨(place, s.partition place), ⟨mem_partitions_of_document hx, ?_⟩, rfl⟩
    rw [Bool.not_eq_true', Std.ExtTreeMap.isEmpty_eq_false_iff]
    intro hempty
    rw [hempty, Std.ExtTreeMap.getElem?_empty] at hx
    cases hx

/-- A token has a posting list where a document has it, and only there. -/
theorem Consistent.mem_postings_iff (hs : s.Consistent) {place : PartitionKey} {token : String} :
    token ∈ (s.partition place).postings ↔
      ∃ d ∈ s.liveDocuments, PartitionKey.ofDocument d = place ∧ d.hasToken token = true := by
  constructor
  · intro hmem
    rw [Std.ExtTreeMap.mem_iff_isSome_getElem?, Option.isSome_iff_exists] at hmem
    obtain ⟨list, hlist⟩ := hmem
    have hne : list.toList ≠ [] := by
      rw [ne_eq, ← List.isEmpty_iff, Std.ExtTreeMap.isEmpty_toList, Std.ExtTreeMap.isEmpty_iff]
      exact (hs.partitions place).occupied token list hlist
    obtain ⟨⟨key, posting⟩, hposting⟩ := List.exists_mem_of_ne_nil _ hne
    rw [Std.ExtTreeMap.mem_toList_iff_getElem?_eq_some] at hposting
    obtain ⟨x, hx, htoken, _⟩ :=
      (hs.exists_posting_iff place token key posting).mp ⟨list, hlist, hposting⟩
    obtain ⟨hd, hplace⟩ := hs.mem_partition_iff.mp ⟨key, x, hx, rfl⟩
    exact ⟨x.document, hd, hplace, htoken⟩
  · rintro ⟨d, hd, hplace, htoken⟩
    obtain ⟨key, x, hx, rfl⟩ := hs.mem_partition_iff.mpr ⟨hd, hplace⟩
    obtain ⟨list, hlist, _⟩ := (hs.exists_posting_iff place token key _).mpr ⟨x, hx, htoken, rfl⟩
    rw [Std.ExtTreeMap.mem_iff_isSome_getElem?, hlist]
    rfl

/-- A token is counted when a document has it, once for all partitions. -/
theorem Consistent.terms_stats (hs : s.Consistent) :
    s.stats.terms =
      (s.liveDocuments.flatMap fun d => (Analysis.ofDocument d).postings.keys).toFinset.card := by
  let gathered : NameSet := s.partitions.toList.foldl
    (fun terms e => e.2.postings.keys.foldl (·.insert ·) terms) ∅
  have hcount : s.stats.terms = gathered.toList.length := Std.ExtTreeSet.length_toList.symm
  have hdistinct : gathered.toList.Nodup :=
    (Std.ExtTreeSet.distinct_toList (t := gathered)).imp fun hne heq =>
      hne (by rw [heq]; exact Std.ReflCmp.compare_self)
  rw [hcount, ← List.toFinset_card_of_nodup hdistinct]
  congr 1
  ext token
  rw [List.mem_toFinset, List.mem_toFinset, Std.ExtTreeSet.mem_toList, List.mem_flatMap,
    OrderedMap.mem_foldl_foldl_insert]
  simp only [Std.ExtTreeSet.not_mem_empty, false_or, Std.ExtTreeMap.mem_keys,
    Document.mem_analysis_iff]
  constructor
  · rintro ⟨e, he, htoken⟩
    rw [← partition_of_mem he, hs.mem_postings_iff] at htoken
    obtain ⟨d, hd, _, htoken⟩ := htoken
    exact ⟨d, hd, htoken⟩
  · rintro ⟨d, hd, htoken⟩
    obtain ⟨key, x, hx, _⟩ := hs.mem_partition_iff.mpr ⟨hd, rfl⟩
    exact ⟨_, mem_partitions_of_document hx, hs.mem_postings_iff.mpr ⟨d, hd, rfl, htoken⟩⟩

/-- The tombstones are counted key by key. -/
theorem encard_buried (s : Store) : {key | s.Buried key}.encard = s.stats.tombstones := by
  have hburied : {key | s.Buried key} =
      {key | ∃ entry, s.directory[key]? = some entry ∧ entry.isTombstone = true} := by
    ext key
    constructor
    · rintro ⟨version, hentry⟩
      exact ⟨.tombstone version, hentry, rfl⟩
    · rintro ⟨entry, hentry, htombstone⟩
      cases entry with
      | live place version => cases htombstone
      | tombstone version => exact ⟨version, hentry⟩
  rw [hburied, OrderedMap.encard_keys s.directory fun e => e.2.isTombstone]
  rfl

/-- After any calls the figures are what counting afresh gives.  There are as many documents as live
keys, and as many as came less those that went; the partitions are those to which live documents belong;
the terms are the tokens of their analyses, each once; and there is a tombstone for every key that stays
deleted. -/
theorem stats_recount (calls : List StoreCall) :
    let s := Store.empty.run calls
    let transcript := Store.empty.transcript calls
    (s.stats.documents = s.liveDocuments.length ∧ (s.liveDocuments.map Document.key).Nodup ∧
      ∀ d, d ∈ s.liveDocuments ↔ s.live? d.key = some d) ∧
    s.stats.documents + transcript.countP (fun e => e.2.removes) =
      transcript.countP (fun e => e.2.inserts) ∧
    s.stats.partitions = (s.liveDocuments.map PartitionKey.ofDocument).toFinset.card ∧
    s.stats.terms =
      (s.liveDocuments.flatMap fun d => (Analysis.ofDocument d).postings.keys).toFinset.card ∧
    (s.stats.tombstones : ℕ∞) = {key | Store.empty.StaysDeleted calls key}.encard := by
  intro s transcript
  have hs : s.Consistent := consistent_empty.run calls
  have hbalance : s.liveEntries + transcript.countP (fun e => e.2.removes) =
      transcript.countP fun e => e.2.inserts := by
    have hempty : Store.empty.liveEntries = 0 := rfl
    have hrun := Store.empty.liveEntries_run calls
    rwa [hempty, Nat.zero_add] at hrun
  refine ⟨⟨hs.documents_stats, hs.nodup_keys_liveDocuments, hs.mem_liveDocuments⟩, ?_,
    hs.partitions_stats, hs.terms_stats, ?_⟩
  · rw [hs.documents_stats, hs.length_liveDocuments, hbalance]
  · rw [← encard_buried]
    simp only [s, buried_run_iff]

end Store

end CatalogSearch
