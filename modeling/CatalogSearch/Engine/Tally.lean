import Std.Data.ExtTreeMap

/-!
# Counters

How often the engine did what, under a name and labels.
-/

set_option autoImplicit false

namespace CatalogSearch

/-- Something that is counted. -/
inductive Counter where
  /-- A search, by a guest or by an authenticated caller. -/
  | search (caller : String)
  /-- A search or request for suggestions that failed, by kind of error. -/
  | error (kind : String)
  /-- A write, by type and outcome. -/
  | mutation (entityType outcome : String)
  /-- A document kept from a caller at the last moment, by type. -/
  | violation (entityType : String)
  /-- A timed operation. -/
  | timing (operation : String)
  | autocomplete
  /-- Suggestions that were remembered. -/
  | cacheHit
  deriving DecidableEq, Repr

namespace Counter

/-- The name under which a counter is published. -/
def family : Counter → String
  | .search _ => "search_requests_total"
  | .error _ => "search_errors_total"
  | .mutation _ _ => "index_mutations_total"
  | .violation _ => "visibility_violations_total"
  | .timing _ => "search_latency_seconds"
  | .autocomplete => "autocomplete_requests_total"
  | .cacheHit => "autocomplete_cache_hits_total"

/-- The values of a counter's labels. -/
def labels : Counter → List String
  | .search caller => [caller]
  | .error kind => [kind]
  | .mutation entityType outcome => [entityType, outcome]
  | .violation entityType => [entityType]
  | .timing operation => [operation]
  | .autocomplete | .cacheHit => []

/-- The name and labels of a counter. -/
def path (c : Counter) : List String := c.family :: c.labels

end Counter

/-- Counts by name and labels. -/
structure Tally where
  counts : Std.ExtTreeMap (List String) Nat := ∅

namespace Tally

instance : Inhabited Tally := ⟨{}⟩

/-- One more of something. -/
def record (t : Tally) (c : Counter) : Tally :=
  ⟨t.counts.alter c.path fun n => some (n.getD 0 + 1)⟩

/-- The counts, in order of name and labels. -/
def toList (t : Tally) : List (List String × Nat) := t.counts.toList

/-! ## Published text -/

/-- A published family of counters. -/
structure Family where
  name : String
  help : String
  kind : String
  labels : List String

/-- The published families, in order of name. -/
def families : List Family :=
  [⟨"autocomplete_cache_hits_total", "Autocomplete responses served from cache", "counter", []⟩,
    ⟨"autocomplete_requests_total", "Total number of autocomplete requests", "counter", []⟩,
    ⟨"index_mutations_total", "Total number of index mutations", "counter",
      ["entity_type", "outcome"]⟩,
    ⟨"search_errors_total", "Total number of failed search and autocomplete requests", "counter",
      ["kind"]⟩,
    ⟨"search_latency_seconds", "Search and autocomplete latency in seconds", "histogram",
      ["operation"]⟩,
    ⟨"search_requests_total", "Total number of search requests", "counter", ["caller"]⟩,
    ⟨"visibility_violations_total",
      "Documents outside the caller scope that reached the visibility filter", "counter",
      ["entity_type"]⟩]

/-- The line that explains a family. -/
def Family.helpLine (f : Family) : String := "# HELP " ++ f.name ++ " " ++ f.help

/-- The line that gives the kind of a family. -/
def Family.kindLine (f : Family) : String := "# TYPE " ++ f.name ++ " " ++ f.kind

/-- The labels of a sample. -/
def labelText (names values : List String) : String :=
  if names.isEmpty then ""
  else
    "\x7b" ++ ",".intercalate ((names.zip values).map fun (n, v) => n ++ "=\"" ++ v ++ "\"") ++
      "\x7d"

/-- The samples of a family. -/
def samples (t : Tally) (f : Family) : List String :=
  let counted := t.toList.filterMap fun (path, n) =>
    match path with
    | name :: values =>
      if name == f.name then
        some (f.name ++ labelText f.labels values ++ " " ++ String.ofList (Nat.toDigits 10 n))
      else none
    | [] => none
  if counted.isEmpty && f.labels.isEmpty then [f.name ++ " 0"] else counted

/-- The counters in the text format of their publication: families with samples only, and no
timings. -/
def publish (t : Tally) : List String :=
  (families.filter fun f => f.kind == "counter").flatMap fun f =>
    let lines := t.samples f
    if lines.isEmpty then [] else f.helpLine :: f.kindLine :: lines

end Tally

end CatalogSearch
