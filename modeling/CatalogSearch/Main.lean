import CatalogSearch.CommandLine.Run
import CatalogSearch.CommandLine.Usage
import Std.Time.DateTime.Timestamp

/-!
# The program

Reads what a run needs of the files, the environment and the clock, and prints what the run tells.
Refused arguments end with code 2, a run that fails with code 1.
-/

set_option autoImplicit false

namespace CatalogSearch

open CatalogSearch.CommandLine

/-- The bytes of a file, if it can be read. -/
def readBytes? (path : String) : IO (Option (List UInt8)) := do
  try return some (← IO.FS.readBinFile path).toList
  catch _ => return none

/-- The variables of the environment, as far as the system lists them. -/
def readEnvironment : IO (List (String × String)) := do
  let some bytes ← readBytes? "/proc/self/environ" | return []
  let text := (String.fromUTF8? ⟨bytes.toArray⟩).getD ""
  return (text.splitOn "\x00").filterMap fun entry =>
    match entry.splitOn "=" with
    | name :: value@(_ :: _) => some (name, "=".intercalate value)
    | _ => none

/-- The ending of the name of a file of settings. -/
def settingsEnding : String := ".toml"

/-- The file of settings: as named if the name tells its format, or with the ending added.  A file of
another format is passed over. -/
def readSettings? (path : String) : IO (Option (List UInt8)) := do
  match ← readBytes? path with
  | some bytes => return if path.endsWith settingsEnding then some bytes else none
  | none => readBytes? (path ++ settingsEnding)

/-- What is found under the name of a feed. -/
def openFeed (path : String) : IO FeedSource := do
  match ← (IO.FS.Handle.mk path .read).toBaseIO with
  | .error _ => return .missing
  | .ok handle =>
    match ← handle.readBinToEnd.toBaseIO with
    | .error fault => return .unreadable fault.toString
    | .ok bytes => return .content bytes.toList

/-- The present moment. -/
def present : IO Time.Instant := do
  let elapsed := (← Std.Time.Timestamp.now).val
  return ⟨elapsed.second.val, elapsed.nano.val.toNat⟩

/-- What a run with these arguments finds around it. -/
def survey (arguments : Arguments) : IO Surroundings := do
  let path ←
    match arguments.config with
    | some path => pure (some path)
    | none => IO.getEnv "CONFIG_PATH"
  let settings ←
    match path with
    | some path => readSettings? path
    | none => pure none
  let feeds ← arguments.feeds.mapM fun path => return (path, ← openFeed path)
  return { settings, environment := ← readEnvironment, feeds, now := ← present }

/-- Run the program. -/
def runProgram (arguments : Arguments) : IO UInt32 := do
  let started ← IO.monoMsNow
  match run (← survey arguments) arguments with
  | .error failure =>
    IO.eprintln failure.render
    return 1
  | .ok report =>
    for line in report.lines ((← IO.monoMsNow) - started) do
      IO.println line
    return 0

end CatalogSearch

/-- The command line. -/
def main (words : List String) : IO UInt32 := do
  match CatalogSearch.CommandLine.parse words with
  | .ok arguments => CatalogSearch.runProgram arguments
  | .error .help =>
    IO.println CatalogSearch.CommandLine.helpText
    return 0
  | .error .version =>
    IO.println CatalogSearch.CommandLine.versionText
    return 0
  | .error .refused =>
    IO.eprintln CatalogSearch.CommandLine.helpText
    return 2
