import CatalogSearch.Proofs.Index.Consistency

/-!
# Runs of a store

A store is only ever changed by its calls, one after the other, from a store of nothing.  This module
says what a call does to the store, that every call keeps it consistent, and what consistency means
for every run: no document is in two places, the directory says where each one is, and the postings
and the suggestions are those of the documents.
-/

set_option autoImplicit false

namespace CatalogSearch

open CatalogSearch.Time

/-- A call of a store. -/
inductive StoreCall where
  | upsert (document : Document)
  | delete (key : DocumentKey) (deletedAt : Instant)
  | purge (cutoff : Instant)
  | setAvailable (available : Bool)
  | get (key : DocumentKey)
  | lookup (plan : QueryPlan)
  | suggest (types : List EntityType) (scope : TenantScope) (start : String)
  | stats

namespace Store

/-- The store after a call.  A call that fails and one that reads change nothing. -/
def after (s : Store) : StoreCall → Store
  | .upsert document =>
    match s.upsert document with
    | .ok (_, changed) => changed
    | .error _ => s
  | .delete key deletedAt =>
    match s.delete key deletedAt with
    | .ok (_, changed) => changed
    | .error _ => s
  | .purge cutoff => (s.purge cutoff).2
  | .setAvailable available => s.setAvailable available
  | .get _ | .lookup _ | .suggest _ _ _ | .stats => s

/-- The store after calls, one after the other. -/
def run (s : Store) (calls : List StoreCall) : Store := calls.foldl after s

/-! ## What a write does -/

/-- The key under which a store keeps a document that it is given. -/
def keyOf (d : Document) : DocumentKey := d.resolved.key

/-- The key that a deletion is about. -/
def target (key : DocumentKey) : DocumentKey := .resolve key.tenant key.entityType key.id

/-- Whether what the directory knows stands against a document of a version. -/
def blocks (entry : Option DirectoryEntry) (version : Instant) : Bool :=
  match entry with
  | some (.live _ stored) => decide (version < stored)
  | some (.tombstone deleted) => decide (version ≤ deleted)
  | none => false

/-- Without facets and confidential fields all that can be wrong is the id. -/
theorem fault?_resolved {d : Document} (hid : Text.isBlankText d.id = false)
    (hfacets : d.facetFields = ∅) (hsensitive : d.sensitiveFields = ∅) :
    d.resolved.fault? = none := by
  have hempty : (∅ : NameSet).toList = [] := by rfl
  simp [Document.fault?, Document.resolved, hid, hfacets, hsensitive, hempty]

/-- A valid document is placed unless something stands against it. -/
theorem upsert_of_valid {s : Store} {d : Document} (hon : s.available = true)
    (hvalid : d.resolved.fault? = none) :
    s.upsert d = .ok (
      if blocks s.directory[keyOf d]? d.updatedAt then (.staleWriteIgnored, s)
      else (if (s.home? (keyOf d)).isSome then .updated else .inserted,
        s.place (keyOf d) d.resolved (s.home? (keyOf d)))) := by
  have hversion : d.resolved.updatedAt = d.updatedAt := rfl
  obtain ⟨entry, hentry⟩ : ∃ entry, s.directory[d.resolved.key]? = entry := ⟨_, rfl⟩
  simp only [upsert, ensureAvailable, hon, if_true, hvalid, hversion, blocks, home?, keyOf, hentry,
    bind, Except.bind, pure, Except.pure]
  cases entry with
  | none => rfl
  | some entry =>
    cases entry with
    | live place version =>
      by_cases h : d.updatedAt < version
      · simp only [h, if_true, decide_true]
      · simp only [h, if_false, decide_false, Bool.false_eq_true, Option.isSome_some, if_true]
    | tombstone version =>
      by_cases h : d.updatedAt ≤ version
      · simp only [h, if_true, decide_true]
      · simp only [h, if_false, decide_false, Bool.false_eq_true, Option.isSome_none]

/-- Nothing is written offline. -/
theorem upsert_of_offline {s : Store} (hoff : s.available = false) (d : Document) :
    s.upsert d = .error .offline := by
  simp [upsert, ensureAvailable, hoff, bind, Except.bind]

/-- A document is refused for its fault. -/
theorem upsert_of_fault {s : Store} {d : Document} {fault : DocumentFault}
    (hon : s.available = true) (hfault : d.resolved.fault? = some fault) :
    s.upsert d = .error (.invalidDocument fault) := by
  simp only [upsert, ensureAvailable, hon, if_true, hfault, bind, Except.bind, throw, throwThe,
    MonadExceptOf.throw]

/-- A document is not accepted offline, nor with a fault. -/
theorem after_upsert_of_refused {s : Store} {d : Document}
    (h : ¬ (s.available = true ∧ d.resolved.fault? = none)) : s.after (.upsert d) = s := by
  cases hon : s.available with
  | false => simp only [after, upsert_of_offline hon]
  | true =>
    cases hfault : d.resolved.fault? with
    | none => exact absurd ⟨hon, hfault⟩ h
    | some fault => simp only [after, upsert_of_fault hon hfault]

/-- The store after a document was given to it. -/
theorem after_upsert {s : Store} {d : Document} (hon : s.available = true)
    (hvalid : d.resolved.fault? = none) :
    s.after (.upsert d) =
      if blocks s.directory[keyOf d]? d.updatedAt then s
      else s.place (keyOf d) d.resolved (s.home? (keyOf d)) := by
  simp only [after, upsert_of_valid hon hvalid]
  split
  · rfl
  · rfl

theorem available_place (s : Store) (key : DocumentKey) (d : Document)
    (previous : Option PartitionKey) : (s.place key d previous).available = s.available := by
  cases previous with
  | none => rfl
  | some source =>
    simp only [place]
    split
    · rfl
    · rfl

theorem available_after_upsert (s : Store) (d : Document) :
    (s.after (.upsert d)).available = s.available := by
  by_cases h : s.available = true ∧ d.resolved.fault? = none
  · rw [after_upsert h.1 h.2]
    split
    · rfl
    · exact available_place s _ _ _
  · rw [after_upsert_of_refused h]

/-- Whether what the directory knows stands against a deletion: a newer document, or a deletion at
least as new. -/
def outlasts (entry : Option DirectoryEntry) (deletedAt : Instant) : Bool :=
  match entry with
  | some (.live _ stored) => decide (deletedAt < stored)
  | some (.tombstone deleted) => !decide (deleted < deletedAt)
  | none => false

/-- What a deletion is answered with, from what the directory knows. -/
def deletionOutcome (entry : Option DirectoryEntry) (deletedAt : Instant) : DeleteOutcome :=
  match entry with
  | some (.live _ stored) => if deletedAt < stored then .staleWriteIgnored else .removed
  | _ => .alreadyAbsent

/-- The store without the document of a key, its deletion noted. -/
def withdraw (s : Store) (key : DocumentKey) (version : Instant) : Store :=
  match s.home? key with
  | some place =>
    { (s.onPartition place (·.remove key)).bury key version with generation := s.generation + 1 }
  | none => s.bury key version

/-- A deletion is never refused by a store that is available, and is noted unless something stands
against it. -/
theorem delete_eq {s : Store} (hon : s.available = true) (key : DocumentKey)
    (deletedAt : Instant) :
    s.delete key deletedAt = .ok (deletionOutcome s.directory[target key]? deletedAt,
      if outlasts s.directory[target key]? deletedAt then s
      else s.withdraw (target key) deletedAt) := by
  obtain ⟨entry, hentry⟩ : ∃ entry, s.directory[target key]? = entry := ⟨_, rfl⟩
  have htarget : DocumentKey.resolve key.tenant key.entityType key.id = target key := rfl
  simp only [delete, ensureAvailable, hon, if_true, deletionOutcome, outlasts, withdraw, home?,
    htarget, hentry, bind, Except.bind, pure, Except.pure]
  cases entry with
  | none => rfl
  | some entry =>
    cases entry with
    | live place version =>
      by_cases h : deletedAt < version
      · simp only [h, if_true, decide_true]
      · simp only [h, if_false, decide_false, Bool.false_eq_true]
        rfl
    | tombstone version =>
      by_cases h : version < deletedAt
      · simp only [h, if_true, decide_true, Bool.not_true, Bool.false_eq_true, if_false]
      · simp only [h, if_false, decide_false, Bool.not_false, if_true]

theorem after_delete_eq {s : Store} (hon : s.available = true) (key : DocumentKey)
    (deletedAt : Instant) :
    s.after (.delete key deletedAt) =
      if outlasts s.directory[target key]? deletedAt then s
      else s.withdraw (target key) deletedAt := by
  simp only [after, delete_eq hon]

/-- Nothing is deleted offline. -/
theorem delete_of_offline {s : Store} (hoff : s.available = false) (key : DocumentKey)
    (deletedAt : Instant) : s.delete key deletedAt = .error .offline := by
  simp [delete, ensureAvailable, hoff, bind, Except.bind]

/-- A deletion offline changes nothing. -/
theorem after_delete_of_offline {s : Store} {key : DocumentKey} {deletedAt : Instant}
    (hon : s.available = false) : s.after (.delete key deletedAt) = s := by
  simp only [after, delete_of_offline hon]

theorem directory_withdraw (s : Store) (key : DocumentKey) (version : Instant) :
    (s.withdraw key version).directory = s.directory.insert key (.tombstone version) := by
  unfold withdraw
  cases s.home? key with
  | none => rfl
  | some place => rfl

theorem partition_withdraw {s : Store} (hs : s.Consistent) (key : DocumentKey)
    (version : Instant) (place : PartitionKey) :
    (s.withdraw key version).partition place = (s.partition place).remove key := by
  unfold withdraw
  cases hhome : s.home? key with
  | none => exact (hs.remove_absent (by simp [hhome])).symm
  | some home =>
    refine (partition_onPartition s home place (·.remove key)).trans ?_
    split
    · rfl
    · rename_i hplace
      rw [hs.remove_absent]
      rw [hhome]
      exact fun heq => hplace (Option.some.inj heq)

/-- After a deletion the store is as it was, if something stands against the deletion; else the
deletion is noted and no partition holds the document. -/
theorem after_delete {s : Store} (hs : s.Consistent) (hon : s.available = true)
    (key : DocumentKey) (deletedAt : Instant) :
    (outlasts s.directory[target key]? deletedAt = true ∧ s.after (.delete key deletedAt) = s) ∨
    (outlasts s.directory[target key]? deletedAt = false ∧
      (s.after (.delete key deletedAt)).directory =
        s.directory.insert (target key) (.tombstone deletedAt) ∧
      (∀ place, (s.after (.delete key deletedAt)).partition place =
        (s.partition place).remove (target key))) := by
  rw [after_delete_eq hon]
  cases outlasts s.directory[target key]? deletedAt with
  | true => exact Or.inl ⟨rfl, rfl⟩
  | false => exact Or.inr ⟨rfl, directory_withdraw s _ _, partition_withdraw hs _ _⟩

theorem available_after_delete (s : Store) (key : DocumentKey) (deletedAt : Instant) :
    (s.after (.delete key deletedAt)).available = s.available := by
  cases hon : s.available with
  | false => rw [after_delete_of_offline hon, hon]
  | true =>
    rw [after_delete_eq hon]
    split
    · exact hon
    · unfold withdraw
      cases s.home? (target key) with
      | none => exact hon
      | some place => exact hon

/-- A purge leaves every live document where it is. -/
theorem live_purge_iff (s : Store) (cutoff : Instant) (key : DocumentKey) (place : PartitionKey)
    (version : Instant) :
    (s.after (.purge cutoff)).directory[key]? = some (.live place version) ↔
      s.directory[key]? = some (.live place version) := by
  simp only [after, purge, Std.ExtTreeMap.getElem?_filter]
  cases hentry : s.directory[key]? with
  | none => simp
  | some entry =>
    cases entry with
    | live home stored => simp [Option.pfilter, isPurged]
    | tombstone stored => cases h : isPurged cutoff (.tombstone stored) <;> simp [Option.pfilter, h]

/-! ## Every call keeps the store consistent -/

theorem Consistent.after {s : Store} (hs : s.Consistent) (call : StoreCall) :
    (s.after call).Consistent := by
  cases call with
  | upsert d =>
    by_cases h : s.available = true ∧ d.resolved.fault? = none
    · rw [after_upsert h.1 h.2]
      split
      · exact hs
      · exact hs.place rfl
    · rw [after_upsert_of_refused h]
      exact hs
  | delete key deletedAt =>
    cases hon : s.available with
    | false =>
      rw [after_delete_of_offline hon]
      exact hs
    | true =>
      rcases after_delete hs hon key deletedAt with
        ⟨_, hsame⟩ | ⟨_, hdirectory, hpartition⟩
      · rw [hsame]
        exact hs
      · exact hs.of_deletion hpartition hdirectory
  | purge cutoff => exact hs.of_same_documents (fun _ => rfl) (live_purge_iff s cutoff)
  | setAvailable available => exact hs.of_same_documents (fun _ => rfl) (fun _ _ _ => Iff.rfl)
  | get key => exact hs
  | lookup plan => exact hs
  | suggest types scope start => exact hs
  | stats => exact hs

theorem Consistent.run {s : Store} (hs : s.Consistent) (calls : List StoreCall) :
    (s.run calls).Consistent := by
  induction calls generalizing s with
  | nil => exact hs
  | cons call rest ih => exact ih (hs.after call)

/-- A document that is in a partition is in no other one. -/
theorem Consistent.place_unique {s : Store} (hs : s.Consistent) {key : DocumentKey}
    {left right : PartitionKey} (hleft : key ∈ (s.partition left).documents)
    (hright : key ∈ (s.partition right).documents) : left = right := by
  rw [Std.ExtTreeMap.mem_iff_isSome_getElem?, Option.isSome_iff_exists] at hleft hright
  obtain ⟨x, hx⟩ := hleft
  obtain ⟨y, hy⟩ := hright
  have hlive := (hs.documents left key x hx).2.2
  rw [(hs.documents right key y hy).2.2] at hlive
  exact (DirectoryEntry.live.inj (Option.some.inj hlive)).1.symm

/-- The directory says that a document lives in a partition exactly when it does. -/
theorem Consistent.exists_live_iff {s : Store} (hs : s.Consistent) (key : DocumentKey)
    (place : PartitionKey) :
    (∃ version, s.directory[key]? = some (.live place version)) ↔
      key ∈ (s.partition place).documents := by
  rw [Std.ExtTreeMap.mem_iff_isSome_getElem?, Option.isSome_iff_exists]
  constructor
  · rintro ⟨version, hlive⟩
    exact hs.directory key place version hlive
  · rintro ⟨x, hx⟩
    exact ⟨_, (hs.documents place key x hx).2.2⟩

/-- A posting stands in the list of a token exactly when its document is there and has the token. -/
theorem Consistent.exists_posting_iff {s : Store} (hs : s.Consistent) (place : PartitionKey)
    (token : String) (key : DocumentKey) (posting : Posting) :
    (∃ list, (s.partition place).postings[token]? = some list ∧ list[key]? = some posting) ↔
      ∃ x, (s.partition place).documents[key]? = some x ∧ x.document.hasToken token = true ∧
        posting = x.document.occurrences token := by
  have hlist : (∃ list, (s.partition place).postings[token]? = some list ∧
      list[key]? = some posting) ↔
        ((s.partition place).postingList token)[key]? = some posting := by
    unfold Partition.postingList
    cases (s.partition place).postings[token]? with
    | none => simp
    | some list => simp
  rw [hlist, (hs.partitions place).postings, Option.bind_eq_some_iff]
  refine exists_congr fun x => and_congr_right fun _ => ?_
  unfold Document.posting?
  split
  · rename_i htoken
    simp [htoken, eq_comm]
  · rename_i htoken
    simp [htoken]

/-- After any calls a document is in one partition at most; the directory says exactly which, and
knows its version; every partition holds the postings of its documents and no others, with their
occurrences, and no empty list; and every term counts the documents that suggest it, and none counts
for nothing. -/
theorem run_agreement (calls : List StoreCall) :
    let s := Store.empty.run calls
    (∀ (key : DocumentKey) (left right : PartitionKey),
      key ∈ (s.partition left).documents → key ∈ (s.partition right).documents → left = right) ∧
    (∀ (key : DocumentKey) (place : PartitionKey),
      (∃ version, s.directory[key]? = some (.live place version)) ↔
        key ∈ (s.partition place).documents) ∧
    (∀ (key : DocumentKey) (place : PartitionKey) (version : Instant) (x : IndexedDocument),
      s.directory[key]? = some (.live place version) →
      (s.partition place).documents[key]? = some x →
        x.document.key = key ∧ x.document.updatedAt = version ∧
          PartitionKey.ofDocument x.document = place) ∧
    (∀ (place : PartitionKey) (token : String) (key : DocumentKey) (posting : Posting),
      (∃ list, (s.partition place).postings[token]? = some list ∧ list[key]? = some posting) ↔
        ∃ x, (s.partition place).documents[key]? = some x ∧ x.document.hasToken token = true ∧
          posting = x.document.occurrences token) ∧
    (∀ (place : PartitionKey) (token : String) (list : PostingList),
      (s.partition place).postings[token]? = some list → list ≠ ∅) ∧
    (∀ (place : PartitionKey) (token : String),
      (s.partition place).suggestions.count token =
        (s.partition place).documents.toList.countP fun e => e.2.document.suggests token) ∧
    (∀ (place : PartitionKey) (token : String) (n : Nat),
      (s.partition place).suggestions.counts[token]? = some n → 0 < n) := by
  intro s
  have hs : s.Consistent := consistent_empty.run calls
  refine ⟨fun key left right => hs.place_unique, hs.exists_live_iff, ?_, hs.exists_posting_iff,
    fun place => (hs.partitions place).occupied, fun place => (hs.partitions place).suggestions,
    fun place => (hs.partitions place).positive⟩
  intro key place version x hlive hx
  obtain ⟨hkey, hplace, hversion⟩ := hs.documents place key x hx
  rw [hlive] at hversion
  exact ⟨hkey, (DirectoryEntry.live.inj (Option.some.inj hversion)).2.symm, hplace⟩

end Store

end CatalogSearch
