import CatalogSearch.Feed.Replay
import CatalogSearch.Proofs.Engine.Writes
import CatalogSearch.Proofs.Feed.Convergence
import CatalogSearch.Proofs.Index.Retention

/-!
# A run over a feed

A run over a feed applies the changes that the feed delivers, in their order, and says how many came to
what.  While the store is there no change is tried twice: what is malformed or rejected is passed over and
counted.  Without the store the run ends at the first change that could be taken, once that has been
tried as often as the settings say.
-/

set_option autoImplicit false

namespace CatalogSearch

open CatalogSearch.Time

namespace Feed

/-- The changes that a feed delivers. -/
def changes (feed : List FeedItem) : List ChangeEvent := feed.filterMap Except.toOption

/-- The faults that a feed reports. -/
def faults (feed : List FeedItem) : List FeedError :=
  feed.filterMap fun item =>
    match item with
    | .ok _ => none
    | .error fault => some fault

/-- A feed delivers changes and reports faults, and nothing else. -/
theorem length_faults_add_changes (feed : List FeedItem) :
    (faults feed).length + (changes feed).length = feed.length := by
  induction feed with
  | nil => rfl
  | cons item rest ih =>
    cases item with
    | ok e => exact congrArg (· + 1) ih
    | error fault => exact (Nat.add_right_comm _ 1 _).trans (congrArg (· + 1) ih)

end Feed

/-- Whether no document can be made of a written record. -/
def ChangeEvent.failsNormalization (schemas : SchemaRegistry) (e : ChangeEvent) : Bool :=
  match e.operation with
  | .upsert =>
    match e.toDocument schemas with
    | .ok _ => false
    | .error _ => true
  | .delete => false

/-! ## Figures -/

namespace IngestStats

/-- The figures with what became of one more item: its outcome, or nothing. -/
def note (s : IngestStats) : Option ApplyOutcome → IngestStats
  | some outcome => s.record outcome
  | none => s.skip

/-- Every figure has risen by the number of times that its outcome was noted. -/
theorem foldl_note (s : IngestStats) (noted : List (Option ApplyOutcome)) :
    noted.foldl note s =
      { s with
        inserted := s.inserted + noted.count (some (.upserted .inserted))
        updated := s.updated + noted.count (some (.upserted .updated))
        removed := s.removed + noted.count (some (.deleted .removed))
        absent := s.absent + noted.count (some (.deleted .alreadyAbsent))
        stale := s.stale + (noted.count (some (.upserted .staleWriteIgnored)) +
          noted.count (some (.deleted .staleWriteIgnored)))
        skipped := s.skipped + noted.count none } := by
  induction noted generalizing s with
  | nil => rfl
  | cons outcome rest ih =>
    have hone : ∀ a b : Nat, a + 1 + b = a + (b + 1) := by omega
    have hleft : ∀ a b c : Nat, a + 1 + (b + c) = a + (b + 1 + c) := by omega
    have hright : ∀ a b c : Nat, a + 1 + (b + c) = a + (b + (c + 1)) := by omega
    rw [List.foldl_cons, ih]
    cases outcome with
    | none => simp [note, skip, hone]
    | some outcome =>
      cases outcome with
      | upserted outcome =>
        cases outcome with
        | inserted => simp [note, record, hone]
        | updated => simp [note, record, hone]
        | staleWriteIgnored => simp [note, record, hleft]
      | deleted outcome =>
        cases outcome with
        | removed => simp [note, record, hone]
        | alreadyAbsent => simp [note, record, hone]
        | staleWriteIgnored => simp [note, record, hright]

/-- One more item is noted once. -/
theorem applied_note (s : IngestStats) (outcome : Option ApplyOutcome) :
    (s.note outcome).applied + (s.note outcome).skipped = s.applied + s.skipped + 1 := by
  cases outcome with
  | none => rfl
  | some outcome =>
    cases outcome with
    | upserted outcome =>
      cases outcome with
      | _ =>
        simp only [note, record, applied]
        omega
    | deleted outcome =>
      cases outcome with
      | _ =>
        simp only [note, record, applied]
        omega

theorem applied_foldl_note (s : IngestStats) (noted : List (Option ApplyOutcome)) :
    (noted.foldl note s).applied + (noted.foldl note s).skipped =
      s.applied + s.skipped + noted.length := by
  induction noted generalizing s with
  | nil => rfl
  | cons outcome rest ih =>
    rw [List.foldl_cons, ih, applied_note, List.length_cons]
    omega

end IngestStats

namespace Engine

variable {g : Engine} {e : ChangeEvent} {settings : IngestionSettings} {s : IngestStats}
  {feed : List FeedItem}

/-- What becomes of changes that are applied one after the other; nothing of one that is rejected. -/
def outcomes (g : Engine) : List ChangeEvent → List (Option ApplyOutcome)
  | [] => []
  | e :: rest => (g.apply e).1.toOption :: (g.after (.apply e)).outcomes rest

theorem length_outcomes (g : Engine) (changes : List ChangeEvent) :
    (g.outcomes changes).length = changes.length := by
  induction changes generalizing g with
  | nil => rfl
  | cons e rest ih => exact congrArg (· + 1) (ih _)

/-! ## Purging -/

theorem purgeIfDue_of_never (hnever : settings.purgeIntervalEvents = 0) (now : Instant)
    (dealt : Nat) : g.purgeIfDue settings now dealt s = (g, s) := by
  simp [purgeIfDue, IngestionSettings.purgeDue, hnever]

/-- Purging old deletions takes no document away. -/
theorem live?_purgeOlderThan (g : Engine) (now : Instant) (seconds : Nat) (key : DocumentKey) :
    (g.purgeOlderThan now seconds).2.store.live? key = g.store.live? key := by
  unfold purgeOlderThan
  cases now.secondsBefore? seconds with
  | none => rfl
  | some cutoff =>
    have hforgets : Store.Forgets [] g.store (g.store.purge cutoff).2 :=
      (Store.Forgets.refl g.store []).purge fun call hcall => absurd hcall List.not_mem_nil
    exact hforgets.live? key

/-! ## One item, the store being there -/

/-- A store that is there rejects a change for its document only. -/
theorem exists_fault_of_online (hon : g.store.available = true) {cause : SearchError}
    (h : (g.apply e).1 = .error cause) : ∃ fault, cause = .invalidDocument fault := by
  cases hoperation : e.operation with
  | upsert =>
    cases hd : e.toDocument g.schemas with
    | error fault =>
      rw [apply_of_fault hoperation hd] at h
      exact ⟨fault, (Except.error.inj h).symm⟩
    | ok d =>
      rw [apply_of_document hoperation hd] at h
      cases hindex : (g.index d).1 with
      | ok outcome =>
        rw [hindex] at h
        cases h
      | error rejection =>
        rw [hindex] at h
        cases h
        exact exists_fault_of_index hon hindex
  | delete =>
    rw [apply_of_delete hoperation, fst_remove, Store.delete_eq hon] at h
    cases h

/-- A change that is not worth trying again is tried once. -/
theorem applyTrying_of_final
    (hfinal : ∀ cause, (g.apply e).1 = .error cause → cause.isRetryable = false) (tries retries : Nat) :
    g.applyTrying e tries retries =
      ((g.apply e).1.mapError .rejected, tries, g.after (.apply e)) := by
  have hchanged : g.after (.apply e) = (g.apply e).2 := rfl
  rw [hchanged]
  cases hresult : g.apply e with
  | mk result changed =>
    cases result with
    | ok outcome =>
      cases retries with
      | zero => simp only [applyTrying, hresult, Except.mapError]
      | succ retries => simp only [applyTrying, hresult, Except.mapError]
    | error cause =>
      have hcause : cause.isRetryable = false := hfinal cause (by rw [hresult])
      cases retries with
      | zero => simp only [applyTrying, hresult, hcause, Except.mapError, Bool.false_eq_true, if_false]
      | succ retries =>
        simp only [applyTrying, hresult, hcause, Except.mapError, Bool.false_eq_true, if_false]

theorem replayItem_of_fault {fault : FeedError} (hfault : fault.isSkippable = true) :
    g.replayItem settings s (.error fault) = (.ok (s.note none), g) := by
  simp only [replayItem, hfault, if_true, IngestStats.note]

/-- A store that is there takes a change or rejects it, at once, and that is noted. -/
theorem replayItem_of_online (hon : g.store.available = true) :
    g.replayItem settings s (.ok e) =
      (.ok (s.note (g.apply e).1.toOption), g.after (.apply e)) := by
  have hfinal : ∀ cause, (g.apply e).1 = .error cause → cause.isRetryable = false := by
    intro cause hcause
    obtain ⟨fault, rfl⟩ := exists_fault_of_online hon hcause
    rfl
  simp only [replayItem, applyWithRetry, applyTrying_of_final hfinal]
  cases hresult : (g.apply e).1 with
  | ok outcome => rfl
  | error cause =>
    have hskippable : (FeedError.rejected cause).isSkippable = true := by
      simp only [FeedError.isSkippable, SearchError.isClientError, hfinal cause hresult, Bool.not_false]
    simp only [Except.mapError, hskippable, if_true]
    rfl

/-! ## One item without the store -/

/-- Without the store a change fails for its record, or because it could not be written. -/
theorem apply_eq_of_offline (hoff : g.store.available = false) (e : ChangeEvent) :
    if e.failsNormalization g.schemas then
      ∃ fault, g.apply e = (.error (.invalidDocument fault), g)
    else g.apply e = (.error .offline, g) := by
  unfold ChangeEvent.failsNormalization
  cases hoperation : e.operation with
  | upsert =>
    cases hd : e.toDocument g.schemas with
    | error fault => exact ⟨fault, apply_of_fault hoperation hd⟩
    | ok d =>
      simp only [apply_of_document hoperation hd, index_eq_of_offline hoff]
      rfl
  | delete =>
    have hremove : g.remove e.key e.updatedAt = (.error .offline, g) := by
      simp only [remove, Store.delete_of_offline hoff]
    simp only [apply_of_delete hoperation, hremove]
    rfl

/-- A change that cannot be written is tried to the last. -/
theorem applyTrying_of_offline (happly : g.apply e = (.error .offline, g)) (tries retries : Nat) :
    g.applyTrying e tries retries =
      (.error (.retriesExhausted e.eventId.text (tries + retries + 1) SearchError.offline.message),
        tries + retries, g) := by
  have hretryable : SearchError.offline.isRetryable = true := rfl
  induction retries generalizing tries with
  | zero => simp only [applyTrying, happly, hretryable, if_true, Nat.add_zero]
  | succ retries ih =>
    have htries : tries + 1 + retries = tries + (retries + 1) := by omega
    simp only [applyTrying, happly, hretryable, if_true, ih, htries]

/-- Without the store a record of which no document can be made is passed over, and any other change
ends the run. -/
theorem replayItem_of_offline (hoff : g.store.available = false) :
    g.replayItem settings s (.ok e) =
      (if e.failsNormalization g.schemas then .ok (s.note none)
        else .error (.retriesExhausted e.eventId.text (settings.maxRetries + 1)
          SearchError.offline.message), g) := by
  have happly := apply_eq_of_offline hoff e
  split at happly
  · rename_i hfails
    obtain ⟨fault, happly⟩ := happly
    have hfinal : ∀ cause, (g.apply e).1 = .error cause → cause.isRetryable = false := by
      intro cause hcause
      rw [happly] at hcause
      cases hcause
      rfl
    have hskippable : (FeedError.rejected (.invalidDocument fault)).isSkippable = true := rfl
    simp only [replayItem, applyWithRetry, applyTrying_of_final hfinal, after, happly, hfails, if_true,
      Except.mapError, hskippable]
    rfl
  · rename_i hfails
    have hskippable : ∀ event attempts reason,
        (FeedError.retriesExhausted event attempts reason).isSkippable = false := fun _ _ _ => rfl
    simp only [replayItem, applyWithRetry, applyTrying_of_offline happly, hfails, hskippable,
      Bool.false_eq_true, if_false, Nat.zero_add]

/-! ## A run -/

/-- With the store a run to the end of a feed applies its changes and notes what became of each, and of
each fault that there is none. -/
theorem replayFrom_of_online (hnever : settings.purgeIntervalEvents = 0)
    (hfeed : ∀ fault, .error fault ∈ feed → fault.isSkippable = true)
    (hon : g.store.available = true) (now : Instant) (dealt : Nat) (s : IngestStats) :
    ∃ noted : List (Option ApplyOutcome),
      noted.Perm
        (List.replicate (Feed.faults feed).length none ++ g.outcomes (Feed.changes feed)) ∧
      let last := g.run ((Feed.changes feed).map .apply)
      replayFrom settings now dealt g s feed =
        (.ok (last.purgeRecorded settings now (noted.foldl .note s)).2,
          (last.purgeRecorded settings now (noted.foldl .note s)).1) := by
  -- the engine and the figures change from item to item; that the store is there carries over
  induction feed generalizing dealt g s with
  | nil =>
    refine ⟨[], .refl _, ?_⟩
    simp only [replayFrom, purgeIfDue_of_never hnever]
    rfl
  | cons item rest ih =>
    have hrest : ∀ fault, .error fault ∈ rest → fault.isSkippable = true :=
      fun fault hfault => hfeed fault (List.mem_cons_of_mem _ hfault)
    simp only [replayFrom, purgeIfDue_of_never hnever]
    cases item with
    | error fault =>
      obtain ⟨noted, hperm, hrun⟩ := ih hrest hon (dealt + 1) (s.note none)
      rw [replayItem_of_fault (hfeed fault List.mem_cons_self)]
      exact ⟨none :: noted, hperm.cons none, hrun⟩
    | ok e =>
      obtain ⟨noted, hperm, hrun⟩ := ih hrest ((available_after_apply g e).trans hon) (dealt + 1)
        (s.note (g.apply e).1.toOption)
      rw [replayItem_of_online hon]
      exact ⟨(g.apply e).1.toOption :: noted,
        (hperm.cons _).trans List.perm_middle.symm, hrun⟩

/-- Without the store a run ends at the first change of which a document can be made or that deletes;
if there is none it notes every item as passed over. -/
theorem replayFrom_of_offline (hnever : settings.purgeIntervalEvents = 0)
    (hfeed : ∀ fault, .error fault ∈ feed → fault.isSkippable = true)
    (hoff : g.store.available = false) (now : Instant) (dealt : Nat) (s : IngestStats) :
    replayFrom settings now dealt g s feed =
      match (Feed.changes feed).find? fun e => !e.failsNormalization g.schemas with
      | some e =>
        (.error (.retriesExhausted e.eventId.text (settings.maxRetries + 1)
          SearchError.offline.message), g)
      | none =>
        (.ok (g.purgeRecorded settings now ((feed.map fun _ => none).foldl .note s)).2,
          (g.purgeRecorded settings now ((feed.map fun _ => none).foldl .note s)).1) := by
  -- no item changes the engine, so the first change that could be taken is the same in what is left
  induction feed generalizing dealt s with
  | nil =>
    simp only [replayFrom, purgeIfDue_of_never hnever]
    rfl
  | cons item rest ih =>
    have hrest : ∀ fault, .error fault ∈ rest → fault.isSkippable = true :=
      fun fault hfault => hfeed fault (List.mem_cons_of_mem _ hfault)
    simp only [replayFrom, purgeIfDue_of_never hnever]
    cases item with
    | error fault =>
      rw [replayItem_of_fault (hfeed fault List.mem_cons_self)]
      exact ih hrest (dealt + 1) (s.note none)
    | ok e =>
      have hchanges : Feed.changes (.ok e :: rest) = e :: Feed.changes rest := rfl
      rw [replayItem_of_offline hoff, hchanges, List.find?_cons]
      cases hfails : e.failsNormalization g.schemas with
      | true => exact ih hrest (dealt + 1) (s.note none)
      | false => rfl

/-- Let a feed deliver changes and malformed entries, and old deletions be purged only at its end.  With
the store a run over the feed comes to that end.  The live documents are then those of the changes
applied one after the other, whether they are taken or rejected, and the figures say how often each
outcome was the answer; every fault and every rejected change is skipped, nothing is tried again, and
every item of the feed is in one of the figures.  Without the store no live document changes, and the run
ends at the first change that is not a record of which no document can be made, after it has been tried
once and then as often as the settings say; if there is no such change it skips the whole feed. -/
theorem replay_folds_changes (g : Engine) (settings : IngestionSettings) (now : Instant)
    (feed : List FeedItem)
    (hfeed : ∀ fault, .error fault ∈ feed → ∃ source line reason, fault = .malformed source line reason)
    (hnever : settings.purgeIntervalEvents = 0) :
    let run := g.replay settings now feed
    let changes := Feed.changes feed
    (g.store.available = true →
      let outcomes := g.outcomes changes
      let folded := g.run (changes.map .apply)
      ∃ stats, run.1 = .ok stats ∧
        run.2 = (folded.purgeOlderThan now settings.tombstoneRetentionSecs).2 ∧
        (∀ key, run.2.store.live? key = folded.store.live? key) ∧
        stats.inserted = outcomes.count (some (.upserted .inserted)) ∧
        stats.updated = outcomes.count (some (.upserted .updated)) ∧
        stats.removed = outcomes.count (some (.deleted .removed)) ∧
        stats.absent = outcomes.count (some (.deleted .alreadyAbsent)) ∧
        stats.stale = outcomes.count (some (.upserted .staleWriteIgnored)) +
          outcomes.count (some (.deleted .staleWriteIgnored)) ∧
        stats.skipped = (Feed.faults feed).length + outcomes.count none ∧
        stats.retries = 0 ∧
        stats.inserted + stats.updated + stats.removed + stats.absent + stats.stale + stats.skipped =
          feed.length) ∧
    (g.store.available = false →
      (∀ key, run.2.store.live? key = g.store.live? key) ∧
      match changes.find? fun e => !e.failsNormalization g.schemas with
      | some e =>
        run.1 = .error (.retriesExhausted e.eventId.text (settings.maxRetries + 1)
          SearchError.offline.message)
      | none =>
        ∃ stats, run.1 = .ok stats ∧ stats.skipped = feed.length ∧ stats.applied = 0 ∧
          stats.retries = 0) := by
  intro run changes
  have hskippable : ∀ fault, .error fault ∈ feed → fault.isSkippable = true := by
    intro fault hfault
    obtain ⟨source, line, reason, rfl⟩ := hfeed fault hfault
    rfl
  constructor
  · intro hon outcomes folded
    obtain ⟨noted, hperm, hrun⟩ := replayFrom_of_online hnever hskippable hon now 0 {}
    have hrun : run = _ := hrun
    have hcount : ∀ outcome : ApplyOutcome, noted.count (some outcome) = outcomes.count (some outcome) := by
      intro outcome
      rw [hperm.count_eq, List.count_append, List.count_replicate]
      exact Nat.zero_add _
    have hskipped : noted.count none = (Feed.faults feed).length + outcomes.count none := by
      rw [hperm.count_eq, List.count_append, List.count_replicate_self]
    have hlength : noted.length = feed.length := by
      rw [hperm.length_eq, List.length_append, List.length_replicate, length_outcomes,
        Feed.length_faults_add_changes]
    have hall := IngestStats.applied_foldl_note {} noted
    rw [hlength] at hall
    rw [hrun]
    refine ⟨_, rfl, rfl, live?_purgeOlderThan folded now _, ?_⟩
    rw [IngestStats.foldl_note] at hall ⊢
    simpa only [purgeRecorded, IngestStats.applied, hcount, hskipped, Nat.zero_add, true_and] using hall
  · intro hoff
    have hrun : run = _ := replayFrom_of_offline hnever hskippable hoff now 0 {}
    rw [hrun]
    cases changes.find? fun e => !e.failsNormalization g.schemas with
    | some e => exact ⟨fun _ => rfl, rfl⟩
    | none =>
      refine ⟨live?_purgeOlderThan g now _, _, rfl, ?_⟩
      rw [IngestStats.foldl_note]
      simp [purgeRecorded, IngestStats.applied, List.count_replicate]

/-- A record is written, listed, deleted, and written as before; the first change is of a blank id, and
the second entry is malformed. -/
theorem replay_folds_changes_of_listing :
    let record : List (String × Json) := [("name", .string "Pump")]
    let written := ChangeEvent.write .part (some "acme") "p1" (.object record) ⟨1, 0⟩
    let listed := ChangeEvent.write .part (some "acme") "p1"
      (.object (("visibility", .string "public") :: record)) ⟨2, 0⟩
    let deleted := ChangeEvent.deletion .part (some "acme") "p1" ⟨3, 0⟩
    let blank := ChangeEvent.write .part (some "acme") " " (.object record) ⟨1, 0⟩
    let malformed : FeedItem := .error (.malformed "feed" 2 "not a change event")
    let feed : List FeedItem :=
      [.ok blank, malformed, .ok written, .ok listed, .ok deleted, .ok written]
    let settings : IngestionSettings := { purgeIntervalEvents := 0 }
    let g := start {} .standard .standard
    let offline := g.after (.onStore (.setAvailable false))
    (∃ stats, (g.replay settings ⟨9, 0⟩ feed).1 = .ok stats ∧ stats.inserted = 1 ∧ stats.updated = 1 ∧
      stats.removed = 1 ∧ stats.absent = 0 ∧ stats.stale = 1 ∧ stats.skipped = 2) ∧
    (offline.replay settings ⟨9, 0⟩ feed).1 =
      .error (.retriesExhausted written.eventId.text 4 SearchError.offline.message) ∧
    ∃ stats, (offline.replay settings ⟨9, 0⟩ (feed.take 2)).1 = .ok stats ∧ stats.skipped = 2 := by
  intro record written listed deleted blank malformed feed settings g offline
  have hfeed : ∀ fault, .error fault ∈ feed →
      ∃ source line reason, fault = .malformed source line reason := by
    intro fault hfault
    simp only [feed, malformed, List.mem_cons, reduceCtorEq, Except.error.injEq, List.not_mem_nil,
      or_false, false_or] at hfault
    exact ⟨_, _, _, hfault⟩
  refine ⟨?_, ?_, ?_⟩
  · obtain ⟨stats, hstats, _, _, hinserted, hupdated, hremoved, habsent, hstale, hskipped, _⟩ :=
      (replay_folds_changes g settings ⟨9, 0⟩ feed hfeed rfl).1 rfl
    refine ⟨stats, hstats, ?_⟩
    rw [hinserted, hupdated, hremoved, habsent, hstale, hskipped]
    decide
  · have hfirst : (Feed.changes feed).find? (fun e => !e.failsNormalization offline.schemas) =
        some written := by
      have hblank : blank.failsNormalization offline.schemas = true := by decide
      have hwritten : written.failsNormalization offline.schemas = false := by decide
      have hchanges : Feed.changes feed = [blank, written, listed, deleted, written] := rfl
      rw [hchanges, List.find?_cons_of_neg (by simp [hblank]), List.find?_cons_of_pos (by simp [hwritten])]
    have hstop := ((replay_folds_changes offline settings ⟨9, 0⟩ feed hfeed rfl).2 rfl).2
    rw [hfirst] at hstop
    exact hstop
  · have hnone : (Feed.changes (feed.take 2)).find? (fun e => !e.failsNormalization offline.schemas) =
        none := by
      have hblank : blank.failsNormalization offline.schemas = true := by decide
      have hchanges : Feed.changes (feed.take 2) = [blank] := rfl
      rw [hchanges, List.find?_cons_of_neg (by simp [hblank]), List.find?_nil]
    have hskip := ((replay_folds_changes offline settings ⟨9, 0⟩ (feed.take 2)
      (fun fault hfault => hfeed fault (List.mem_of_mem_take hfault)) rfl).2 rfl).2
    rw [hnone] at hskip
    obtain ⟨stats, hstats, hskipped, _⟩ := hskip
    exact ⟨stats, hstats, hskipped⟩

end Engine

end CatalogSearch
