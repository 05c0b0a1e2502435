import CatalogSearch.Proofs.Index.Retention

/-!
# Generations

A store counts the writes that changed a document, and what was computed from it is good while the count
stands.  A call is refused and changes nothing, or changes a document and is counted, or notes a deletion of
what is not there, which is not counted.  Whatever it does, it does under its own key.
-/

set_option autoImplicit false

namespace CatalogSearch

open CatalogSearch.Time

namespace StoreAnswer

/-- Whether a document came, was replaced or went. -/
def changesDocument : StoreAnswer → Bool
  | .upserted (.ok .inserted) | .upserted (.ok .updated) | .deleted (.ok .removed) => true
  | _ => false

/-- Whether a write failed or came too late. -/
def refuses : StoreAnswer → Bool
  | .upserted (.error _) | .upserted (.ok .staleWriteIgnored) => true
  | .deleted (.error _) | .deleted (.ok .staleWriteIgnored) => true
  | _ => false

theorem changesDocument_of_refuses {answer : StoreAnswer} (h : answer.refuses = true) :
    answer.changesDocument = false := by
  unfold refuses at h
  split at h
  · rfl
  · rfl
  · rfl
  · rfl
  · cases h

end StoreAnswer

/-- The key under which a call writes. -/
def StoreCall.key? : StoreCall → Option DocumentKey
  | .upsert d => some (Store.keyOf d)
  | .delete key _ => some (Store.target key)
  | _ => none

namespace Store

variable {s t : Store} {call : StoreCall} {answer : StoreAnswer} {key : DocumentKey}

/-! ## What a call can do -/

/-- What a call does to a store, and how it is answered. -/
inductive Effect (s : Store) : StoreCall → StoreAnswer → Store → Prop where
  | refused {call : StoreCall} {answer : StoreAnswer} (hrefuses : answer.refuses = true) :
    Effect s call answer s
  | placed (d : Document) {outcome : UpsertOutcome} (houtcome : outcome ≠ .staleWriteIgnored) :
    Effect s (.upsert d) (.upserted (.ok outcome))
      (s.place (keyOf d) d.resolved (s.home? (keyOf d)))
  | withdrawn (key : DocumentKey) (deletedAt : Instant) (place : PartitionKey)
      (hhome : s.home? (target key) = some place) :
    Effect s (.delete key deletedAt) (.deleted (.ok .removed)) (s.withdraw (target key) deletedAt)
  /-- Nothing is there, and the deletion is the newest. -/
  | noted (key : DocumentKey) (deletedAt : Instant) (hhome : s.home? (target key) = none)
      (hnewest : ∀ version, s.directory[target key]? = some (.tombstone version) →
        version < deletedAt) :
    Effect s (.delete key deletedAt) (.deleted (.ok .alreadyAbsent)) (s.bury (target key) deletedAt)
  /-- Nothing is there, and a deletion at least as new is noted. -/
  | outlasted (key : DocumentKey) (deletedAt : Instant) (version : Instant)
      (hentry : s.directory[target key]? = some (.tombstone version))
      (hlasts : deletedAt ≤ version) :
    Effect s (.delete key deletedAt) (.deleted (.ok .alreadyAbsent)) s
  | purged (cutoff : Instant) (number : Nat) :
    Effect s (.purge cutoff) (.purged number) (s.purge cutoff).2
  | switched (available : Bool) :
    Effect s (.setAvailable available) .done (s.setAvailable available)
  /-- The store is read. -/
  | read {call : StoreCall} {answer : StoreAnswer} (hchanges : answer.changesDocument = false)
      (habsent : answer ≠ .deleted (.ok .alreadyAbsent)) : Effect s call answer s

theorem home?_of_live {place : PartitionKey} {version : Instant}
    (h : s.directory[key]? = some (.live place version)) : s.home? key = some place := by
  simp only [home?, h]

/-- The deletion of what is not there is only noted. -/
theorem withdraw_of_absent (h : s.home? key = none) (version : Instant) :
    s.withdraw key version = s.bury key version := by
  simp only [withdraw, h]

theorem effect_upsert (s : Store) (d : Document) :
    s.Effect (.upsert d) (s.answer (.upsert d)) (s.after (.upsert d)) := by
  by_cases h : s.available = true ∧ d.resolved.fault? = none
  · obtain ⟨hon, hvalid⟩ := h
    rw [after_upsert hon hvalid, answer, upsert_of_valid hon hvalid]
    split
    · exact .refused rfl
    · refine .placed d ?_
      split
      · exact UpsertOutcome.noConfusion
      · exact UpsertOutcome.noConfusion
  · rw [after_upsert_of_refused h]
    refine .refused ?_
    cases hon : s.available with
    | false =>
      rw [answer, upsert_of_offline hon]
      rfl
    | true =>
      cases hfault : d.resolved.fault? with
      | none => exact absurd ⟨hon, hfault⟩ h
      | some fault =>
        rw [answer, upsert_of_fault hon hfault]
        rfl

theorem effect_delete (s : Store) (key : DocumentKey) (deletedAt : Instant) :
    s.Effect (.delete key deletedAt) (s.answer (.delete key deletedAt))
      (s.after (.delete key deletedAt)) := by
  cases hon : s.available with
  | false =>
    rw [after_delete_of_offline hon, answer, delete_of_offline hon]
    exact .refused rfl
  | true =>
    rw [after_delete_eq hon, answer, delete_eq hon]
    cases hentry : s.directory[target key]? with
    | none =>
      have hhome : s.home? (target key) = none := by simp only [home?, hentry]
      rw [withdraw_of_absent hhome]
      exact .noted key deletedAt hhome fun version h => by simp [hentry] at h
    | some entry =>
      cases entry with
      | live place version =>
        by_cases hstale : deletedAt < version
        · simp only [deletionOutcome, outlasts, hstale, decide_true, if_true]
          exact .refused rfl
        · simp only [deletionOutcome, outlasts, hstale, decide_false, if_false, Bool.false_eq_true]
          exact .withdrawn key deletedAt place (home?_of_live hentry)
      | tombstone version =>
        by_cases hnewer : version < deletedAt
        · have hhome : s.home? (target key) = none := by simp only [home?, hentry]
          simp only [deletionOutcome, outlasts, hnewer, decide_true, Bool.not_true, if_false,
            Bool.false_eq_true, withdraw_of_absent hhome]
          refine .noted key deletedAt hhome fun earlier h => ?_
          rw [hentry] at h
          cases h
          exact hnewer
        · simp only [deletionOutcome, outlasts, hnewer, decide_false, Bool.not_false, if_true]
          exact .outlasted key deletedAt version hentry hnewer

theorem effect (s : Store) (call : StoreCall) : s.Effect call (s.answer call) (s.after call) := by
  cases call with
  | upsert d => exact effect_upsert s d
  | delete key deletedAt => exact effect_delete s key deletedAt
  | purge cutoff => exact .purged cutoff _
  | setAvailable available => exact .switched available
  | get key => exact .read rfl StoreAnswer.noConfusion
  | lookup plan => exact .read rfl StoreAnswer.noConfusion
  | suggest types scope start => exact .read rfl StoreAnswer.noConfusion
  | stats => exact .read rfl StoreAnswer.noConfusion

/-! ## What stays under another key -/

/-- Two stores hold the same under a key: of the directory, of the documents and of the postings. -/
structure SameUnder (s t : Store) (key : DocumentKey) : Prop where
  directory : t.directory[key]? = s.directory[key]?
  documents : ∀ place : PartitionKey,
    (t.partition place).documents[key]? = (s.partition place).documents[key]?
  postings : ∀ (place : PartitionKey) (token : String),
    ((t.partition place).postingList token)[key]? = ((s.partition place).postingList token)[key]?

namespace SameUnder

theorem refl (s : Store) (key : DocumentKey) : SameUnder s s key := ⟨rfl, fun _ => rfl, fun _ _ => rfl⟩

/-- In consistent stores the postings are those of the documents. -/
theorem of_documents (hs : s.Consistent) (ht : t.Consistent)
    (hdirectory : t.directory[key]? = s.directory[key]?)
    (hdocuments : ∀ place : PartitionKey,
      (t.partition place).documents[key]? = (s.partition place).documents[key]?) :
    SameUnder s t key where
  directory := hdirectory
  documents := hdocuments
  postings place token := by
    rw [(hs.partitions place).postings, (ht.partitions place).postings, hdocuments]

theorem live? (h : SameUnder s t key) : t.live? key = s.live? key :=
  congrArg KeyState.document? (keyState_congr h.directory h.documents)

end SameUnder

theorem Consistent.sameUnder_place (hs : s.Consistent) {d : Document} {other : DocumentKey}
    (hother : d.key ≠ other) : SameUnder s (s.place d.key d (s.home? d.key)) other :=
  .of_documents hs (hs.place rfl) (directory_place_of_ne hother d _) (documents_place_of_ne hs hother d)

theorem Consistent.sameUnder_withdraw (hs : s.Consistent) {withdrawn other : DocumentKey}
    (hother : withdrawn ≠ other) (version : Instant) :
    SameUnder s (s.withdraw withdrawn version) other := by
  have hconsistent : (s.withdraw withdrawn version).Consistent :=
    hs.of_deletion (partition_withdraw hs withdrawn version) (directory_withdraw s withdrawn version)
  exact .of_documents hs hconsistent (directory_withdraw_of_ne hother version)
    (documents_withdraw_of_ne hs hother version)

/-! ## Every effect is counted, or changes no document -/

theorem generation_place (s : Store) (key : DocumentKey) (d : Document)
    (previous : Option PartitionKey) :
    (s.place key d previous).generation = s.generation + 1 := by
  cases previous with
  | none => rfl
  | some source =>
    simp only [place]
    split
    · rfl
    · rfl

namespace Effect

/-- A call is counted exactly when it changes a document. -/
theorem generation (h : s.Effect call answer t) :
    t.generation = s.generation + if answer.changesDocument then 1 else 0 := by
  cases h with
  | refused hrefuses =>
    rw [StoreAnswer.changesDocument_of_refuses hrefuses]
    rfl
  | @placed d outcome houtcome =>
    rw [generation_place]
    cases outcome with
    | inserted => rfl
    | updated => rfl
    | staleWriteIgnored => exact absurd rfl houtcome
  | withdrawn key deletedAt place hhome =>
    simp only [withdraw, hhome]
    rfl
  | noted key deletedAt => rfl
  | outlasted key deletedAt => rfl
  | purged cutoff number => rfl
  | switched available => rfl
  | read hchanges =>
    rw [hchanges]
    rfl

/-- A call that is not counted leaves what the partitions hold. -/
theorem partitions (h : s.Effect call answer t) (hchanges : answer.changesDocument = false) :
    t.partitions = s.partitions := by
  cases h with
  | @placed d outcome houtcome =>
    cases outcome with
    | inserted => cases hchanges
    | updated => cases hchanges
    | staleWriteIgnored => exact absurd rfl houtcome
  | withdrawn => cases hchanges
  | refused => rfl
  | noted => rfl
  | outlasted => rfl
  | purged => rfl
  | switched => rfl
  | read => rfl

/-- A write that is refused changes nothing. -/
theorem eq_of_refuses (h : s.Effect call answer t) (hrefuses : answer.refuses = true) : t = s := by
  cases h with
  | refused => rfl
  | @placed d outcome houtcome =>
    cases outcome with
    | inserted => cases hrefuses
    | updated => cases hrefuses
    | staleWriteIgnored => exact absurd rfl houtcome
  | withdrawn => cases hrefuses
  | noted => cases hrefuses
  | outlasted => rfl
  | purged => cases hrefuses
  | switched => cases hrefuses
  | read => rfl

/-- What a call does to the document of a key it does under the key it writes. -/
theorem sameUnder (h : s.Effect call answer t) (hs : s.Consistent)
    (hchanges : answer.changesDocument = true) (hkey : call.key? ≠ some key) :
    SameUnder s t key := by
  cases h with
  | placed d => exact hs.sameUnder_place fun heq => hkey (congrArg some heq)
  | withdrawn deleted deletedAt =>
    exact hs.sameUnder_withdraw (fun heq => hkey (congrArg some heq)) deletedAt
  | noted => cases hchanges
  | purged => cases hchanges
  | switched => cases hchanges
  | refused => exact .refl s key
  | outlasted => exact .refl s key
  | read => exact .refl s key

/-- A deletion of what is not there touches nothing but what is noted under its key, and there a time
of deletion stands that is not earlier than one that stood there before. -/
theorem of_alreadyAbsent {deletedAt : Instant}
    (h : s.Effect (.delete key deletedAt) (.deleted (.ok .alreadyAbsent)) t) :
    t = { s with directory := t.directory } ∧
      (∀ other, other ≠ target key → t.directory[other]? = s.directory[other]?) ∧
      (∀ place version, s.directory[target key]? ≠ some (.live place version)) ∧
      ∃ version, t.directory[target key]? = some (.tombstone version) ∧
        ∀ earlier, s.directory[target key]? = some (.tombstone earlier) → earlier ≤ version := by
  cases h with
  | refused hrefuses => cases hrefuses
  | read _ habsent => exact absurd rfl habsent
  | outlasted _ _ version hentry =>
    refine ⟨rfl, fun _ _ => rfl, fun place other hlive => ?_, version, hentry, fun earlier h => ?_⟩
    · rw [hentry] at hlive
      cases hlive
    · rw [hentry] at h
      cases h
      exact Instant.lt_irrefl version
  | noted _ _ hhome hnewest =>
    refine ⟨rfl, fun other hother => ?_, fun place version hlive => ?_, deletedAt,
      Std.ExtTreeMap.getElem?_insert_self, fun earlier h hlater => ?_⟩
    · have hcompare : ¬ compare (target key) other = .eq := by
        rw [Std.compare_eq_iff_eq]
        exact hother.symm
      rw [bury, Std.ExtTreeMap.getElem?_insert, if_neg hcompare]
    · rw [home?_of_live hlive] at hhome
      cases hhome
    · exact Instant.lt_irrefl earlier (Instant.lt_trans (hnewest earlier h) hlater)

end Effect

/-- A run is counted call by call. -/
theorem generation_run_eq (s : Store) (calls : List StoreCall) :
    (s.run calls).generation =
      s.generation + (s.transcript calls).countP fun e => e.2.changesDocument := by
  induction calls generalizing s with
  | nil => rfl
  | cons call rest ih =>
    have hrest : (s.run (call :: rest)).generation = (s.after call).generation +
        ((s.after call).transcript rest).countP fun e => e.2.changesDocument := ih (s.after call)
    rw [hrest, (effect s call).generation, transcript, List.countP_cons]
    simp only
    omega

/-- Generations rise, and what a store holds changes with its generation only. -/
theorem generation_run (s : Store) (calls : List StoreCall) :
    s.generation ≤ (s.run calls).generation ∧
      ((s.run calls).generation = s.generation → (s.run calls).partitions = s.partitions) := by
  refine ⟨by rw [generation_run_eq]; exact Nat.le_add_right _ _, ?_⟩
  induction calls generalizing s with
  | nil => exact fun _ => rfl
  | cons call rest ih =>
    intro heq
    have hcall := (effect s call).generation
    have hrest := generation_run_eq (s.after call) rest
    have hrun : (s.run (call :: rest)).generation = ((s.after call).run rest).generation := rfl
    -- the count of a run is zero only when the count of each of its calls is
    have hchanges : (s.answer call).changesDocument = false := by
      cases hchanged : (s.answer call).changesDocument with
      | false => rfl
      | true =>
        rw [hchanged, if_pos rfl] at hcall
        omega
    rw [hchanges] at hcall
    exact (ih (s.after call) (heq.trans hcall.symm)).trans ((effect s call).partitions hchanges)

/-- After any calls the generation is the number of those by which a document came, was replaced or
went.  One more call is counted when it does one of these, and no other call is, a purge and a change of
availability among them.  A write that fails or comes too late leaves the store as it was.  A deletion of
what is not there changes at most the time of deletion under its key, and not to an earlier one.  And a
document that comes, is replaced or goes leaves all that the store has under other keys. -/
theorem generation_counts_changes (calls : List StoreCall) :
    let s := Store.empty.run calls
    s.generation = (Store.empty.transcript calls).countP (fun e => e.2.changesDocument) ∧
    (∀ call, (s.after call).generation =
      s.generation + if (s.answer call).changesDocument then 1 else 0) ∧
    (∀ call, (s.answer call).refuses = true → s.after call = s) ∧
    (∀ key deletedAt, s.answer (.delete key deletedAt) = .deleted (.ok .alreadyAbsent) →
      let t := s.after (.delete key deletedAt)
      t = { s with directory := t.directory } ∧
      (∀ other, other ≠ target key → t.directory[other]? = s.directory[other]?) ∧
      (∀ place version, s.directory[target key]? ≠ some (.live place version)) ∧
      ∃ version, t.directory[target key]? = some (.tombstone version) ∧
        ∀ earlier, s.directory[target key]? = some (.tombstone earlier) → earlier ≤ version) ∧
    ∀ call key, (s.answer call).changesDocument = true → call.key? ≠ some key →
      SameUnder s (s.after call) key ∧ (s.after call).live? key = s.live? key := by
  intro s
  have hs : s.Consistent := consistent_empty.run calls
  refine ⟨?_, fun call => (effect s call).generation, fun call => (effect s call).eq_of_refuses,
    fun key deletedAt hanswer => ?_, fun call key hchanges hkey => ?_⟩
  · exact (generation_run_eq Store.empty calls).trans (Nat.zero_add _)
  · exact (hanswer ▸ effect s (.delete key deletedAt)).of_alreadyAbsent
  · have hsame := (effect s call).sameUnder hs hchanges hkey
    exact ⟨hsame, hsame.live?⟩

/-- A pump comes, is replaced, and comes again too late; a valve comes, goes, and goes again with an
earlier time of deletion. -/
theorem generation_counts_changes_of_pump :
    let pump : Document :=
      { entityType := .part, id := "p1", title := "Steel pump", updatedAt := ⟨1, 0⟩ }
    let repaired : Document := { pump with title := "Repaired pump", updatedAt := ⟨3, 0⟩ }
    let valve : Document := { pump with id := "v1", title := "Valve" }
    let calls : List StoreCall :=
      [.upsert pump, .upsert repaired, .upsert pump, .upsert valve, .purge ⟨1, 0⟩,
        .delete valve.key ⟨2, 0⟩]
    let s := Store.empty.run calls
    s.generation = 4 ∧
      (s.after (.delete pump.key ⟨3, 0⟩)).generation = 5 ∧
      s.after (.upsert pump) = s ∧
      s.after (.upsert { pump with id := "" }) = s ∧
      (∃ version, (s.after (.delete valve.key ⟨1, 0⟩)).directory[target valve.key]? =
        some (.tombstone version) ∧ ⟨2, 0⟩ ≤ version) ∧
      (s.after (.delete pump.key ⟨3, 0⟩)).live? (keyOf valve) = s.live? (keyOf valve) := by
  intro pump repaired valve calls s
  obtain ⟨hcount, hnext, hrefused, habsent, hframe⟩ := generation_counts_changes calls
  refine ⟨?_, ?_, hrefused _ ?_, hrefused _ ?_, ?_, (hframe _ _ ?_ ?_).2⟩
  · rw [hcount]
    with_unfolding_all decide
  · rw [hnext, hcount]
    with_unfolding_all decide
  · with_unfolding_all decide
  · with_unfolding_all decide
  · have hon : s.available = true := by with_unfolding_all decide
    have houtcome : deletionOutcome s.directory[target valve.key]? ⟨1, 0⟩ = .alreadyAbsent := by
      with_unfolding_all decide
    have hanswer : s.answer (.delete valve.key ⟨1, 0⟩) = .deleted (.ok .alreadyAbsent) := by
      rw [answer, delete_eq hon, houtcome]
      rfl
    obtain ⟨_, _, _, version, hversion, hlater⟩ := habsent valve.key ⟨1, 0⟩ hanswer
    exact ⟨version, hversion, hlater ⟨2, 0⟩ (by with_unfolding_all decide)⟩
  · with_unfolding_all decide
  · decide

end Store

end CatalogSearch
