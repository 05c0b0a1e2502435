import CatalogSearch.CommandLine.Option
import CatalogSearch.Number.Integer
import CatalogSearch.Query.Request

/-!
# Arguments

What the program is asked to do: which settings and feeds to load, on whose behalf, and then one
command.  The caller may be named before or after the command; what is named after it counts.
-/

set_option autoImplicit false

namespace CatalogSearch.CommandLine

open CatalogSearch.Text

/-- What to do once the feeds are loaded. -/
inductive Command where
  | search (request : SearchRequest)
  | autocomplete (request : AutocompleteRequest)
  /-- Tell what became of the feeds. -/
  | ingest
  /-- Tell how the index is. -/
  | stats
  /-- Publish the counters. -/
  | metrics

/-- A command line that was understood. -/
structure Arguments where
  /-- The file of settings. -/
  config : Option String
  /-- The files of feeds, in order. -/
  feeds : List String
  caller : Caller
  command : Command

/-! ## Levels -/

/-- The option that asks for help. -/
def helpOption : OptionSpec := ⟨"help", some 'h', .help, fun _ => true⟩

/-- The options that name the caller, everywhere. -/
def callerOptions : List OptionSpec :=
  [⟨"user", some 'u', .single, fun _ => true⟩, ⟨"tenant", some 't', .single, fun _ => true⟩,
    ⟨"role", some 'r', .many, fun _ => true⟩, helpOption]

/-- The option of an entity type. -/
def typeOption : OptionSpec := ⟨"type", some 'T', .single, fun _ => true⟩

/-- A filter from a field and a value with an equals sign between them; the first one counts, and the
field must not be blank. -/
def parseFilter? (s : String) : Option (String × String) :=
  let cs := s.toList
  match cs.dropWhile (· != '=') with
  | _ :: value =>
    let field := trim (String.ofList (cs.takeWhile (· != '=')))
    if field.isEmpty then none else some (field, trim (String.ofList value))
  | [] => none

/-- A signed integer of 64 bits. -/
def parseInt64? (s : String) : Option Int :=
  (Number.readInt? s).filter Number.isInt64

/-- A natural number of 64 bits. -/
def parseNat64? (s : String) : Option Nat :=
  (Number.readNat? s).filter (decide <| · ≤ Number.nat64Most)

/-- The name of the command that explains the others. -/
def helpCommand : String := "help"

/-- The levels of the commands, by name. -/
def commandLevels : List (String × Level) :=
  let page (s : String) : Bool := (parseInt64? s).isSome
  [("search", {
      options :=
        [typeOption, ⟨"filter", some 'F', .many, fun s => (parseFilter? s).isSome⟩,
          ⟨"sort", some 's', .single, fun _ => true⟩, ⟨"any", none, .flag, fun _ => true⟩,
          ⟨"page", some 'p', .single, page⟩, ⟨"page-size", some 'n', .single, page⟩] ++ callerOptions
      operands := 1 }),
    ("autocomplete", {
      options :=
        [typeOption, ⟨"limit", some 'l', .single, fun s => (parseNat64? s).isSome⟩] ++ callerOptions
      operands := 1 }),
    ("ingest", { options := callerOptions }), ("stats", { options := callerOptions }),
    ("metrics", { options := callerOptions })]

/-- The level before the command. -/
def topLevel : Level where
  options :=
    [⟨"config", some 'c', .single, fun _ => true⟩, ⟨"feed", some 'f', .many, fun s => !s.isEmpty⟩,
      ⟨"version", some 'V', .version, fun _ => true⟩] ++ callerOptions
  commands := commandLevels.map (·.1) ++ [helpCommand]

/-! ## Understanding -/

/-- The command that was read at its level. -/
def command? (name : String) (r : Reading) : Option Command :=
  match name, r.operands with
  | "search", [query] =>
    some (.search {
      query
      entityType := r.value? "type"
      filters := ((r.values "filter").filterMap parseFilter?).foldl
        (fun m (field, value) => m.insert field value) ∅
      sort := r.value? "sort"
      matchMode := if r.has "any" then some .any else none
      page := (r.value? "page").bind parseInt64?
      pageSize := (r.value? "page-size").bind parseInt64? })
  | "autocomplete", [query] =>
    some (.autocomplete ⟨query, r.value? "type", (r.value? "limit").bind parseNat64?⟩)
  | "ingest", [] => some .ingest
  | "stats", [] => some .stats
  | "metrics", [] => some .metrics
  | _, _ => none

/-- The caller: for each option what is given after the command, else what is given before it. -/
def callerOf (before after : Reading) : Caller where
  user := (after.value? "user").or (before.value? "user")
  tenant := (after.value? "tenant").or (before.value? "tenant")
  roles := if after.has "role" then after.values "role" else before.values "role"

/-- Help on what the words name: nothing, or one command. -/
def explain : List String → Stop
  | [] => .help
  | [name] => if topLevel.commands.contains name then .help else .refused
  | _ => .refused

/-- What a command line asks for. -/
def parse (words : List String) : Except Stop Arguments := do
  let (before, following) ← topLevel.read {} words
  let some (name, rest) := following | throw .refused
  if name == helpCommand then throw (explain rest)
  let some (_, level) := commandLevels.find? (fun c => c.1 == name) | throw .refused
  let (after, _) ← level.read {} rest
  let after ← after.settle
  let some command := command? name after | throw .refused
  let before ← before.settle
  return ⟨before.value? "config", before.values "feed", callerOf before after, command⟩

end CatalogSearch.CommandLine
