import CatalogSearch.Engine.Basic
import CatalogSearch.Feed.JsonLines

/-!
# Replaying feeds

A feed is applied change by change in the order delivered.  What is malformed or refused is skipped;
a change that finds the catalog unavailable is tried again, and the run stops when that is of no use
or the feed cannot be read on.  Old deletions are purged now and then and at the end.
-/

set_option autoImplicit false

namespace CatalogSearch

open CatalogSearch.Time

/-- What became of the items of a feed. -/
structure IngestStats where
  inserted : Nat := 0
  updated : Nat := 0
  removed : Nat := 0
  /-- Deletions of what was not there. -/
  absent : Nat := 0
  stale : Nat := 0
  /-- Items that were malformed or refused. -/
  skipped : Nat := 0
  retries : Nat := 0
  /-- Old deletions that were forgotten. -/
  purged : Nat := 0
  deriving DecidableEq, Repr, Inhabited

namespace IngestStats

/-- The figures with one more outcome. -/
def record (s : IngestStats) : ApplyOutcome → IngestStats
  | .upserted .inserted => { s with inserted := s.inserted + 1 }
  | .upserted .updated => { s with updated := s.updated + 1 }
  | .deleted .removed => { s with removed := s.removed + 1 }
  | .deleted .alreadyAbsent => { s with absent := s.absent + 1 }
  | .upserted .staleWriteIgnored | .deleted .staleWriteIgnored => { s with stale := s.stale + 1 }

/-- The figures with one more item skipped. -/
def skip (s : IngestStats) : IngestStats := { s with skipped := s.skipped + 1 }

/-- The number of changes that had an outcome. -/
def applied (s : IngestStats) : Nat := s.inserted + s.updated + s.removed + s.absent + s.stale

/-- The figures inside data. -/
def toJson (s : IngestStats) : Json :=
  .object
    [("inserted", .nat s.inserted), ("updated", .nat s.updated), ("removed", .nat s.removed),
      ("absent", .nat s.absent), ("stale", .nat s.stale), ("skipped", .nat s.skipped),
      ("retries", .nat s.retries), ("purged", .nat s.purged)]

end IngestStats

namespace Engine

/-- Apply a change, trying again up to a number of times while the catalog is unavailable; `tries` is
the number of tries so far.  The number of retries comes with the outcome. -/
def applyTrying (g : Engine) (e : ChangeEvent) (tries : Nat) :
    (retries : Nat) → Except FeedError ApplyOutcome × Nat × Engine
  | 0 =>
    match g.apply e with
    | (.ok outcome, g) => (.ok outcome, tries, g)
    | (.error cause, g) =>
      if cause.isRetryable then
        (.error (.retriesExhausted e.eventId.text (tries + 1) cause.message), tries, g)
      else (.error (.rejected cause), tries, g)
  | retries + 1 =>
    match g.apply e with
    | (.ok outcome, g) => (.ok outcome, tries, g)
    | (.error cause, g) =>
      if cause.isRetryable then g.applyTrying e (tries + 1) retries
      else (.error (.rejected cause), tries, g)

/-- Apply a change, trying again as often as the settings say. -/
def applyWithRetry (g : Engine) (settings : IngestionSettings) (e : ChangeEvent) :
    Except FeedError ApplyOutcome × Nat × Engine :=
  g.applyTrying e 0 settings.maxRetries

/-- The engine and the figures after old deletions have been purged. -/
def purgeRecorded (g : Engine) (settings : IngestionSettings) (now : Instant) (s : IngestStats) :
    Engine × IngestStats :=
  let (purged, g) := g.purgeOlderThan now settings.tombstoneRetentionSecs
  (g, { s with purged := s.purged + purged })

/-- Old deletions are purged when the number of items dealt with says so. -/
def purgeIfDue (g : Engine) (settings : IngestionSettings) (now : Instant) (dealt : Nat)
    (s : IngestStats) : Engine × IngestStats :=
  if settings.purgeDue dealt then g.purgeRecorded settings now s else (g, s)

/-- Deal with one item of a feed: the figures with its outcome, or the fault that ends the run. -/
def replayItem (g : Engine) (settings : IngestionSettings) (s : IngestStats) :
    FeedItem → Except FeedError IngestStats × Engine
  | .error fault => (if fault.isSkippable then .ok s.skip else .error fault, g)
  | .ok e =>
    let (outcome, retries, g) := g.applyWithRetry settings e
    let s := { s with retries := s.retries + retries }
    match outcome with
    | .ok outcome => (.ok (s.record outcome), g)
    | .error fault => (if fault.isSkippable then .ok s.skip else .error fault, g)

/-- The rest of a run over a feed, of which a number of items have been dealt with. -/
def replayFrom (settings : IngestionSettings) (now : Instant) (dealt : Nat) (g : Engine)
    (s : IngestStats) : List FeedItem → Except FeedError IngestStats × Engine
  | [] =>
    let (g, s) := g.purgeIfDue settings now dealt s
    let (g, s) := g.purgeRecorded settings now s
    (.ok s, g)
  | item :: rest =>
    let (g, s) := g.purgeIfDue settings now dealt s
    match g.replayItem settings s item with
    | (.ok s, g) => replayFrom settings now (dealt + 1) g s rest
    | (.error fault, g) => (.error fault, g)

/-- Apply a feed to its end. -/
def replay (g : Engine) (settings : IngestionSettings) (now : Instant) (feed : List FeedItem) :
    Except FeedError IngestStats × Engine :=
  replayFrom settings now 0 g {} feed

/-! ## Bulk loads -/

/-- Index documents one after the other; a document that is not valid is skipped, any other failure
ends the load. -/
def indexAll (g : Engine) (s : IngestStats) : List Document → Except FeedError IngestStats × Engine
  | [] => (.ok s, g)
  | d :: rest =>
    match g.index d with
    | (.ok outcome, g) => g.indexAll (s.record (.upserted outcome)) rest
    | (.error (.invalidDocument _), g) => g.indexAll s.skip rest
    | (.error cause, g) => (.error (.rejected cause), g)

/-- A list cut into batches of `size + 1` items; the last one may be shorter. -/
def batches {α : Type} (size : Nat) : List α → List (List α)
  | [] => []
  | x :: rest => (x :: rest.take size) :: batches size (rest.drop size)
termination_by items => items.length
decreasing_by simp only [List.length_drop, List.length_cons]; omega

/-- Index batches of documents one after the other. -/
def indexBatches (g : Engine) (s : IngestStats) :
    List (List Document) → Except FeedError IngestStats × Engine
  | [] => (.ok s, g)
  | batch :: rest =>
    match g.indexAll s batch with
    | (.ok s, g) => g.indexBatches s rest
    | (.error fault, g) => (.error fault, g)

/-- Index documents in batches. -/
def reindex (g : Engine) (settings : IngestionSettings) (documents : List Document) :
    Except FeedError IngestStats × Engine :=
  g.indexBatches {} (batches (settings.batchSize - 1) documents)

end Engine

end CatalogSearch
