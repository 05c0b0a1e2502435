import CatalogSearch.CommandLine.Arguments
import CatalogSearch.Engine.Data
import CatalogSearch.Feed.Replay
import CatalogSearch.Json.Printer
import CatalogSearch.Settings.Layers

/-!
# A run of the program

Settings are loaded and checked, the feeds are applied in order to an empty engine, and the command is
done.  A run depends on nothing but its arguments and what it is given of the files, the environment
and the time.
-/

set_option autoImplicit false

namespace CatalogSearch.CommandLine

open CatalogSearch.Text CatalogSearch.Time

/-- What a run finds under the name of a feed. -/
inductive FeedSource where
  /-- Nothing that can be opened. -/
  | missing
  /-- Something that can be opened and not be read, such as a directory. -/
  | unreadable (reason : String)
  | content (bytes : List UInt8)

/-- What a feed delivers, if it can be opened; a source that cannot be read delivers that fault. -/
def FeedSource.items? (name : String) : FeedSource → Option (List FeedItem)
  | .missing => none
  | .unreadable reason => some [.error (.unreadable reason)]
  | .content bytes => some (JsonLines.read name bytes)

/-- What a run finds around it. -/
structure Surroundings where
  /-- The bytes of the file of settings, if there is one. -/
  settings : Option (List UInt8) := none
  /-- The variables of the environment. -/
  environment : List (String × String) := []
  /-- The feeds by name. -/
  feeds : List (String × FeedSource) := []
  now : Instant

/-- Why a run failed: what was being done, and the causes of the failure, the nearest first. -/
structure Failure where
  message : String
  causes : List String := []

namespace Failure

/-- The causes of a failure, each on a line; they are numbered if there are several. -/
def causeLines (f : Failure) : List String :=
  match f.causes with
  | [cause] => ["    " ++ cause]
  | causes => causes.zipIdx.map fun (cause, i) =>
    let number := FieldValue.intText i
    String.ofList (List.replicate (5 - number.length) ' ') ++ number ++ ": " ++ cause

/-- A failure as the program reports it. -/
def render (f : Failure) : String :=
  let first := "Error: " ++ f.message
  if f.causes.isEmpty then first
  else "\n".intercalate ([first, "", "Caused by:"] ++ f.causeLines)

end Failure

/-- What a run tells. -/
inductive Report where
  | found (response : SearchResponse)
  | suggested (suggestions : List String)
  | ingested (feeds : List IngestStats)
  | figures (index : IndexStats) (health : Health)
  | counters (tally : Tally)

namespace Report

/-- A report inside data, if it is data; a search took some milliseconds. -/
def json? (tookMs : Nat) : Report → Option Json
  | .found response => some (response.toJson tookMs)
  | .suggested suggestions => some (.object [("suggestions", .strings suggestions)])
  | .ingested feeds => some (.array (feeds.map IngestStats.toJson))
  | .figures index health => some (.object [("index", index.toJson), ("health", health.toJson)])
  | .counters _ => none

/-- The lines of a report. -/
def lines (tookMs : Nat) (r : Report) : List String :=
  match r with
  | .counters tally => tally.publish
  | r => ((r.json? tookMs).map Json.pretty).toList

end Report

/-- Apply the feeds in order; the figures of each come with the engine. -/
def replayAll (settings : IngestionSettings) (now : Instant) (g : Engine) :
    List (String × FeedSource) → Except Failure (List IngestStats × Engine)
  | [] => .ok ([], g)
  | (name, source) :: rest =>
    match source.items? name with
    | none => .error { message := "failed to open feed " ++ name }
    | some items =>
      match g.replay settings now items with
      | (.error fault, _) => .error ⟨"failed to replay feed " ++ name, [fault.message]⟩
      | (.ok stats, g) => do
        let (others, g) ← replayAll settings now g rest
        return (stats :: others, g)

/-- Do the command. -/
def perform (g : Engine) (ingested : List IngestStats) (caller : Caller) :
    Command → Except Failure Report
  | .search request =>
    match (g.search request caller {}).1 with
    | .ok response => .ok (.found response)
    | .error e => .error { message := e.message }
  | .autocomplete request =>
    match (g.autocomplete request caller).1 with
    | .ok suggestions => .ok (.suggested suggestions)
    | .error e => .error { message := e.message }
  | .ingest => .ok (.ingested ingested)
  | .stats => .ok (.figures g.store.stats g.health)
  | .metrics => .ok (.counters g.tally)

/-- The settings of a run: a file of settings must be text. -/
def Surroundings.load (around : Surroundings) : Except LoadFault Settings :=
  match around.settings.map decodeUtf8 with
  | none => Settings.load none around.environment
  | some (.ok cs) => Settings.load (some (String.ofList cs)) around.environment
  | some (.error _) => .error .malformedFile

/-- What a run tells. -/
def run (around : Surroundings) (arguments : Arguments) : Except Failure Report := do
  let settings ←
    match around.load with
    | .ok settings => pure settings
    | .error fault => throw ⟨"failed to load configuration", [fault.message]⟩
  if let some fault := settings.fault? then throw { message := fault.message }
  let engine : Engine := { settings := settings.search, policy := settings.policy }
  let (ingested, engine) ← replayAll settings.ingestion around.now engine around.feeds
  perform engine ingested arguments.caller arguments.command

end CatalogSearch.CommandLine
