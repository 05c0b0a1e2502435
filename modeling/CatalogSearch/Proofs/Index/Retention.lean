import CatalogSearch.Proofs.Index.KeyState
import CatalogSearch.Proofs.Time.Instant
import Mathlib.Data.List.Basic

/-!
# Forgetting deletions

A deletion is noted so that an older write that comes late does not bring its document back.  When every
write still to come is at least as new as a cutoff, the deletions before the cutoff are not needed any
more: a store that forgets them answers every later write and every reading as if it had not.
-/

set_option autoImplicit false

namespace CatalogSearch

open CatalogSearch.Time

/-! ## Calls and their answers -/

/-- What a store answers to a call. -/
inductive StoreAnswer where
  | upserted (outcome : Except SearchError UpsertOutcome)
  | deleted (outcome : Except SearchError DeleteOutcome)
  /-- The number of deletions that were forgotten. -/
  | purged (number : Nat)
  | document (found : Except SearchError (Option Document))
  | candidates (found : Except SearchError CandidateSet)
  | terms (counts : Except SearchError TermCounts)
  | figures (stats : IndexStats)
  /-- There is nothing to say. -/
  | done

namespace StoreCall

/-- The version in which a call writes or deletes. -/
def version? : StoreCall → Option Instant
  | .upsert d => some d.updatedAt
  | .delete _ deletedAt => some deletedAt
  | _ => none

/-- Whether a call forgets deletions. -/
def isPurge : StoreCall → Bool
  | .purge _ => true
  | _ => false

/-- Whether a call is answered with a number of deletions. -/
def countsDeletions : StoreCall → Bool
  | .purge _ | .stats => true
  | _ => false

/-- A purge allows for a call that comes later: what it writes is not older than the cutoff. -/
def AllowsFor (earlier later : StoreCall) : Prop :=
  match earlier with
  | .purge cutoff => ∀ version, later.version? = some version → cutoff ≤ version
  | _ => True

end StoreCall

namespace Store

/-- The answer to a call. -/
def answer (s : Store) : StoreCall → StoreAnswer
  | .upsert d => .upserted ((s.upsert d).map (·.1))
  | .delete key deletedAt => .deleted ((s.delete key deletedAt).map (·.1))
  | .purge cutoff => .purged (s.purge cutoff).1
  | .setAvailable _ => .done
  | .get key => .document (s.get key)
  | .lookup plan => .candidates (s.lookup plan)
  | .suggest types scope start => .terms (s.suggest types scope start)
  | .stats => .figures s.stats

/-- Calls, one after the other, each with its answer. -/
def transcript (s : Store) : List StoreCall → List (StoreCall × StoreAnswer)
  | [] => []
  | call :: rest => (call, s.answer call) :: (s.after call).transcript rest

/-- The versions of the deletions that are noted, in order of key. -/
def tombstones (s : Store) : List Instant :=
  s.directory.toList.filterMap fun e =>
    match e.2 with
    | .live _ _ => none
    | .tombstone version => some version

/-! ## What a purge forgets -/

theorem directory_purge (s : Store) (cutoff : Instant) :
    (s.purge cutoff).2.directory.toList = s.directory.toList.filter fun e => !isPurged cutoff e.2 := by
  rw [purge, Std.ExtTreeMap.toList_filter]

/-- A purge forgets the deletions before its cutoff. -/
theorem tombstones_purge (s : Store) (cutoff : Instant) :
    (s.purge cutoff).2.tombstones = s.tombstones.filter fun v => !decide (v < cutoff) := by
  rw [tombstones, directory_purge, List.filterMap_filter, tombstones, List.filter_filterMap]
  refine List.filterMap_congr fun e _ => ?_
  cases e.2 with
  | live place version => rfl
  | tombstone version =>
    rw [Option.filter_some]
    rfl

/-- A purge says how many deletions it forgets. -/
theorem fst_purge (s : Store) (cutoff : Instant) :
    (s.purge cutoff).1 = s.tombstones.countP fun v => decide (v < cutoff) := by
  have hcount : (s.purge cutoff).1 = s.directory.toList.length -
      (s.directory.toList.filter fun e => !isPurged cutoff e.2).length := by
    rw [← directory_purge, Std.ExtTreeMap.length_toList, Std.ExtTreeMap.length_toList, purge]
  have hpurged : s.tombstones.countP (fun v => decide (v < cutoff)) =
      s.directory.toList.countP fun e => isPurged cutoff e.2 := by
    rw [tombstones, List.countP_filterMap]
    refine List.countP_congr fun e _ => ?_
    cases e.2 with
    | live place version => simp [isPurged]
    | tombstone version => simp [isPurged]
  rw [hcount, hpurged, ← List.countP_eq_length_filter,
    List.length_eq_countP_add_countP fun e => isPurged cutoff e.2]
  simp only [Bool.not_eq_true, Bool.decide_eq_false]
  omega

/-! ## A store that has forgotten deletions -/

/-- The stores hold the same documents, and all that the second one does not know of the first are
deletions that are older than whatever the calls to come write. -/
structure Forgets (calls : List StoreCall) (s t : Store) : Prop where
  same : t = { s with directory := t.directory }
  directory : ∀ key : DocumentKey, t.directory[key]? = s.directory[key]? ∨
    ∃ deletedAt : Instant, s.directory[key]? = some (.tombstone deletedAt) ∧
      t.directory[key]? = none ∧
      ∀ call ∈ calls, ∀ version, call.version? = some version → deletedAt < version

/-- A document is placed in the partitions without regard to the directory. -/
theorem place_of_directory (s : Store) (directory : Std.ExtTreeMap DocumentKey DirectoryEntry)
    (key : DocumentKey) (d : Document) (previous : Option PartitionKey) :
    ({ s with directory } : Store).place key d previous =
      { s.place key d previous with
        directory := directory.insert key (.live (PartitionKey.ofDocument d) d.updatedAt) } := by
  cases previous with
  | none => rfl
  | some source =>
    simp only [place]
    split
    · rfl
    · rfl

/-- Of the directory a deletion regards no more than where the document lives. -/
theorem withdraw_of_directory {s : Store} {directory : Std.ExtTreeMap DocumentKey DirectoryEntry}
    {key : DocumentKey} (hhome : ({ s with directory } : Store).home? key = s.home? key)
    (version : Instant) :
    ({ s with directory } : Store).withdraw key version =
      { s.withdraw key version with directory := directory.insert key (.tombstone version) } := by
  unfold withdraw
  rw [hhome]
  cases s.home? key with
  | none => rfl
  | some place => rfl

namespace Forgets

variable {s t : Store} {call : StoreCall} {calls : List StoreCall} {key : DocumentKey}
  {version : Instant}

theorem refl (s : Store) (calls : List StoreCall) : Forgets calls s s :=
  ⟨rfl, fun _ => Or.inl rfl⟩

theorem of_cons (h : Forgets (call :: calls) s t) : Forgets calls s t where
  same := h.same
  directory key := by
    refine (h.directory key).imp_right ?_
    rintro ⟨deletedAt, hnoted, hforgotten, hlate⟩
    exact ⟨deletedAt, hnoted, hforgotten, (List.forall_mem_cons.mp hlate).2⟩

theorem available (h : Forgets calls s t) : t.available = s.available := by rw [h.same]

theorem partition (h : Forgets calls s t) (place : PartitionKey) :
    t.partition place = s.partition place := by
  rw [h.same]
  rfl

/-! ### Readings -/

theorem live? (h : Forgets calls s t) (key : DocumentKey) : t.live? key = s.live? key := by
  rcases h.directory key with hsame | ⟨deletedAt, hnoted, hforgotten, _⟩
  · rw [Store.live?, Store.live?, keyState_congr hsame fun place => by rw [h.partition]]
  · simp only [Store.live?, keyState, hnoted, hforgotten, KeyState.document?]

theorem get (h : Forgets calls s t) (key : DocumentKey) : t.get key = s.get key := by
  rw [get_eq_live?, get_eq_live?, h.live?, ensureAvailable, ensureAvailable, h.available]

theorem lookup (h : Forgets calls s t) (plan : QueryPlan) : t.lookup plan = s.lookup plan := by
  rw [h.same]
  rfl

theorem suggest (h : Forgets calls s t) (types : List EntityType) (scope : TenantScope)
    (start : String) : t.suggest types scope start = s.suggest types scope start := by
  rw [h.same]
  rfl

/-! ### Writes -/

theorem home? (h : Forgets calls s t) (key : DocumentKey) : t.home? key = s.home? key := by
  rcases h.directory key with hsame | ⟨deletedAt, hnoted, hforgotten, _⟩
  · simp only [Store.home?, hsame]
  · simp only [Store.home?, hnoted, hforgotten]

/-- A deletion that was forgotten would not have stood against a document. -/
theorem blocks (h : Forgets (call :: calls) s t) (hversion : call.version? = some version)
    (key : DocumentKey) :
    Store.blocks t.directory[key]? version = Store.blocks s.directory[key]? version := by
  rcases h.directory key with hsame | ⟨deletedAt, hnoted, hforgotten, hlate⟩
  · rw [hsame]
  · have hlt := hlate call List.mem_cons_self version hversion
    rw [hnoted, hforgotten, Store.blocks, Store.blocks]
    exact (decide_eq_false fun hle => hle hlt).symm

/-- A deletion that was forgotten would not have outlasted a deletion. -/
theorem outlasts (h : Forgets (call :: calls) s t) (hversion : call.version? = some version)
    (key : DocumentKey) :
    Store.outlasts t.directory[key]? version = Store.outlasts s.directory[key]? version := by
  rcases h.directory key with hsame | ⟨deletedAt, hnoted, hforgotten, hlate⟩
  · rw [hsame]
  · have hlt := hlate call List.mem_cons_self version hversion
    rw [hnoted, hforgotten, Store.outlasts, Store.outlasts, decide_eq_true hlt]
    rfl

theorem deletionOutcome (h : Forgets calls s t) (key : DocumentKey) (version : Instant) :
    Store.deletionOutcome t.directory[key]? version =
      Store.deletionOutcome s.directory[key]? version := by
  rcases h.directory key with hsame | ⟨deletedAt, hnoted, hforgotten, _⟩
  · rw [hsame]
  · rw [hnoted, hforgotten]
    rfl

/-- Both stores note the same of one key. -/
theorem insert (h : Forgets calls s t) {s' : Store} {entry : DirectoryEntry}
    (hs : s'.directory = s.directory.insert key entry) :
    Forgets calls s' { s' with directory := t.directory.insert key entry } where
  same := rfl
  directory other := by
    rw [hs, Std.ExtTreeMap.getElem?_insert, Std.ExtTreeMap.getElem?_insert]
    split
    · exact Or.inl rfl
    · exact h.directory other

theorem place (h : Forgets calls s t) (key : DocumentKey) (d : Document)
    (previous : Option PartitionKey) :
    Forgets calls (s.place key d previous) (t.place key d previous) := by
  have hplace : t.place key d previous = { s.place key d previous with
      directory := t.directory.insert key (.live (PartitionKey.ofDocument d) d.updatedAt) } := by
    rw [h.same]
    exact place_of_directory s t.directory key d previous
  rw [hplace]
  exact h.insert (directory_place s key d previous)

theorem withdraw (h : Forgets calls s t) (key : DocumentKey) (version : Instant) :
    Forgets calls (s.withdraw key version) (t.withdraw key version) := by
  have hwithdraw : t.withdraw key version = { s.withdraw key version with
      directory := t.directory.insert key (.tombstone version) } := by
    have hhome := h.home? key
    rw [h.same] at hhome ⊢
    exact withdraw_of_directory hhome version
  rw [hwithdraw]
  exact h.insert (directory_withdraw s key version)

/-- What was forgotten is forgotten still, and by a purge the deletions before its cutoff as well. -/
theorem purge (h : Forgets calls s t) {cutoff : Instant}
    (hlate : ∀ call ∈ calls, (StoreCall.purge cutoff).AllowsFor call) :
    Forgets calls s (t.purge cutoff).2 where
  same := by rw [h.same]; rfl
  directory key := by
    have hkept : (t.purge cutoff).2.directory[key]? =
        t.directory[key]?.filter fun entry => !isPurged cutoff entry :=
      Std.ExtTreeMap.getElem?_filter'
    rw [hkept]
    rcases h.directory key with hsame | ⟨deletedAt, hnoted, hforgotten, hold⟩
    · rw [hsame]
      cases hentry : s.directory[key]? with
      | none => exact Or.inl rfl
      | some entry =>
        cases entry with
        | live place version => exact Or.inl rfl
        | tombstone deletedAt =>
          rw [Option.filter_some]
          by_cases hpurged : deletedAt < cutoff
          · right
            refine ⟨deletedAt, rfl, by simp [isPurged, hpurged], fun call hcall version hversion => ?_⟩
            exact Instant.lt_of_lt_of_le hpurged (hlate call hcall version hversion)
          · left
            simp [isPurged, hpurged]
    · rw [hforgotten]
      exact Or.inr ⟨deletedAt, hnoted, rfl, hold⟩

/-- A document comes to both stores alike. -/
theorem step_upsert {d : Document} (h : Forgets (.upsert d :: calls) s t) :
    t.answer (.upsert d) = s.answer (.upsert d) ∧
      Forgets calls (s.after (.upsert d)) (t.after (.upsert d)) := by
  cases hon : s.available with
  | false =>
    have hon' : t.available = false := h.available.trans hon
    simp only [answer, Store.after, upsert_of_offline hon, upsert_of_offline hon']
    exact ⟨trivial, h.of_cons⟩
  | true =>
    have hon' : t.available = true := h.available.trans hon
    cases hfault : d.resolved.fault? with
    | some fault =>
      simp only [answer, Store.after, upsert_of_fault hon hfault, upsert_of_fault hon' hfault]
      exact ⟨trivial, h.of_cons⟩
    | none =>
      have hversion : (StoreCall.upsert d).version? = some d.updatedAt := rfl
      have hblocks := h.blocks hversion (keyOf d)
      rw [after_upsert hon hfault, after_upsert hon' hfault, answer, answer,
        upsert_of_valid hon hfault, upsert_of_valid hon' hfault, hblocks, h.home?]
      split
      · exact ⟨rfl, h.of_cons⟩
      · exact ⟨rfl, h.of_cons.place _ _ _⟩

/-- A deletion is carried out, or ignored, in both stores alike. -/
theorem step_delete {key : DocumentKey} {deletedAt : Instant}
    (h : Forgets (.delete key deletedAt :: calls) s t) :
    t.answer (.delete key deletedAt) = s.answer (.delete key deletedAt) ∧
      Forgets calls (s.after (.delete key deletedAt)) (t.after (.delete key deletedAt)) := by
  cases hon : s.available with
  | false =>
    have hon' : t.available = false := h.available.trans hon
    simp only [answer, Store.after, delete_of_offline hon, delete_of_offline hon']
    exact ⟨trivial, h.of_cons⟩
  | true =>
    have hon' : t.available = true := h.available.trans hon
    have hversion : (StoreCall.delete key deletedAt).version? = some deletedAt := rfl
    have houtlasts := h.outlasts hversion (target key)
    rw [after_delete_eq hon, after_delete_eq hon', answer, answer, delete_eq hon, delete_eq hon',
      houtlasts, h.deletionOutcome]
    refine ⟨rfl, ?_⟩
    split
    · exact h.of_cons
    · exact h.of_cons.withdraw _ _

/-- A call that is not a purge is answered alike, but for the number of deletions, and changes both
stores alike. -/
theorem step (h : Forgets (call :: calls) s t) (hcall : call.isPurge = false) :
    (call.countsDeletions = false → t.answer call = s.answer call) ∧
      Forgets calls (s.after call) (t.after call) := by
  cases call with
  | upsert d => exact ⟨fun _ => h.step_upsert.1, h.step_upsert.2⟩
  | delete key deletedAt => exact ⟨fun _ => h.step_delete.1, h.step_delete.2⟩
  | purge cutoff => cases hcall
  | setAvailable available =>
    refine ⟨fun _ => rfl, ?_, h.of_cons.directory⟩
    rw [h.same]
    rfl
  | get key => exact ⟨fun _ => congrArg StoreAnswer.document (h.get key), h.of_cons⟩
  | lookup plan => exact ⟨fun _ => congrArg StoreAnswer.candidates (h.lookup plan), h.of_cons⟩
  | suggest types scope start =>
    exact ⟨fun _ => congrArg StoreAnswer.terms (h.suggest types scope start), h.of_cons⟩
  | stats =>
    refine ⟨fun hcounts => ?_, h.of_cons⟩
    cases hcounts

/-- Of two stores that run through the same calls, only one of them through the purges, the answers are
the same, but for the numbers of deletions. -/
theorem run (h : Forgets calls s t) (hallowed : calls.Pairwise StoreCall.AllowsFor) :
    Forgets [] (s.run (calls.filter fun call => !call.isPurge)) (t.run calls) ∧
      (t.transcript calls).filter (fun e => !e.1.countsDeletions) =
        (s.transcript (calls.filter fun call => !call.isPurge)).filter
          fun e => !e.1.countsDeletions := by
  -- what carries over from call to call is `Forgets` for the calls that are still to come: the writes
  -- that a purge allows for are the only ones that may follow it
  induction calls generalizing s t with
  | nil => exact ⟨h, rfl⟩
  | cons call rest ih =>
    obtain ⟨hfirst, hrest⟩ := List.pairwise_cons.mp hallowed
    cases hpurge : call.isPurge with
    | true =>
      obtain ⟨cutoff, rfl⟩ : ∃ cutoff, call = .purge cutoff := by
        cases call with
        | purge cutoff => exact ⟨cutoff, rfl⟩
        | _ => cases hpurge
      exact ih (h.of_cons.purge hfirst) hrest
    | false =>
      obtain ⟨hanswer, hafter⟩ := h.step hpurge
      obtain ⟨hstores, htranscripts⟩ := ih hafter hrest
      rw [List.filter_cons_of_pos (by simp [hpurge])]
      refine ⟨hstores, ?_⟩
      rw [transcript, transcript, List.filter_cons, List.filter_cons, htranscripts]
      cases hcounts : call.countsDeletions with
      | true => rfl
      | false => rw [hanswer hcounts]

end Forgets

/-- When no purge comes before a write that is older than its cutoff, purges are not noticed: every other
call is answered as it would be without them, the numbers of deletions aside, and the documents that are
live in the end are the same, as are all readings.  A purge takes no live document away and changes no
reading; it forgets exactly the deletions before its cutoff, and says how many they are. -/
theorem purges_go_unnoticed (s : Store) (calls : List StoreCall)
    (hallowed : calls.Pairwise StoreCall.AllowsFor) :
    let unpurged := calls.filter fun call => !call.isPurge
    (s.transcript calls).filter (fun e => !e.1.countsDeletions) =
        (s.transcript unpurged).filter (fun e => !e.1.countsDeletions) ∧
    ((∀ key, (s.run calls).live? key = (s.run unpurged).live? key) ∧
      (∀ key, (s.run calls).get key = (s.run unpurged).get key) ∧
      (∀ plan, (s.run calls).lookup plan = (s.run unpurged).lookup plan) ∧
      ∀ types scope start, (s.run calls).suggest types scope start =
        (s.run unpurged).suggest types scope start) ∧
    ∀ (t : Store) (cutoff : Instant),
      let purged := (t.purge cutoff).2
      ((∀ key, purged.live? key = t.live? key) ∧ (∀ key, purged.get key = t.get key) ∧
        (∀ plan, purged.lookup plan = t.lookup plan) ∧
        ∀ types scope start, purged.suggest types scope start = t.suggest types scope start) ∧
      (t.purge cutoff).1 = t.tombstones.countP (fun v => decide (v < cutoff)) ∧
      purged.tombstones = t.tombstones.filter fun v => !decide (v < cutoff) := by
  intro unpurged
  have hreadings : ∀ {u v : Store}, Forgets [] u v →
      (∀ key, v.live? key = u.live? key) ∧ (∀ key, v.get key = u.get key) ∧
        (∀ plan, v.lookup plan = u.lookup plan) ∧
        ∀ types scope start, v.suggest types scope start = u.suggest types scope start :=
    fun h => ⟨h.live?, h.get, h.lookup, h.suggest⟩
  obtain ⟨hstores, htranscripts⟩ := (Forgets.refl s calls).run hallowed
  refine ⟨htranscripts, hreadings hstores, fun t cutoff => ?_⟩
  have hpurged : Forgets [] t (t.purge cutoff).2 :=
    (Forgets.refl t []).purge fun call hcall => absurd hcall List.not_mem_nil
  exact ⟨hreadings hpurged, fst_purge t cutoff, tombstones_purge t cutoff⟩

/-- A document is written, deleted, purged and written again in the version of the cutoff, which the
purge allows for; the deletion of a later version than a cutoff is not forgotten. -/
theorem purges_go_unnoticed_by_rewrite :
    let pump : Document :=
      { entityType := .part, id := "p1", title := "Steel pump", updatedAt := ⟨1, 0⟩ }
    let repaired : Document := { pump with title := "Repaired pump", updatedAt := ⟨3, 0⟩ }
    let calls : List StoreCall :=
      [.upsert pump, .delete pump.key ⟨2, 0⟩, .purge ⟨3, 0⟩, .upsert repaired,
        .delete pump.key ⟨3, 0⟩, .purge ⟨3, 0⟩]
    calls.Pairwise StoreCall.AllowsFor ∧
      (∀ key, (Store.empty.run calls).get key =
        (Store.empty.run [.upsert pump, .delete pump.key ⟨2, 0⟩, .upsert repaired,
          .delete pump.key ⟨3, 0⟩]).get key) ∧
      ((Store.empty.run (calls.take 2)).purge ⟨3, 0⟩).1 = 1 ∧
      ((Store.empty.run (calls.take 5)).purge ⟨3, 0⟩).1 = 0 := by
  intro pump repaired calls
  have hallowed : calls.Pairwise StoreCall.AllowsFor := by
    simp [calls, StoreCall.AllowsFor, StoreCall.version?, repaired]
    decide
  obtain ⟨_, ⟨_, hget, _⟩, hpurge⟩ := purges_go_unnoticed Store.empty calls hallowed
  refine ⟨hallowed, hget, ?_, ?_⟩
  · rw [(hpurge _ _).2.1]
    decide
  · rw [(hpurge _ _).2.1]
    with_unfolding_all decide

/-- A write that is older than the cutoff brings its document back once the deletion is forgotten. -/
example :
    let pump : Document :=
      { entityType := .part, id := "p1", title := "Steel pump", updatedAt := ⟨1, 0⟩ }
    let deleted := Store.empty.run [.upsert pump, .delete pump.key ⟨2, 0⟩]
    ((deleted.run [.upsert pump]).live? pump.key).isSome = false ∧
      ((deleted.run [.purge ⟨3, 0⟩, .upsert pump]).live? pump.key).isSome = true := by
  with_unfolding_all decide

end Store

end CatalogSearch
