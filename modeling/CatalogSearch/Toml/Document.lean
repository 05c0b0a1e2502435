import CatalogSearch.Toml.Value

/-!
# Documents of TOML

A document is a sequence of lines: a header says which table the pairs after it belong to, and a pair
puts a value under a key.  No name is given twice, and no table is written out twice.
-/

set_option autoImplicit false

namespace CatalogSearch.Toml

/-- A document so far: its tables, and the path of the table that is being written. -/
structure Draft where
  entries : Entries := []
  path : List String := []

namespace Draft

/-- Begin a table.  It may be there already as long as only headers of tables inside it have named
it. -/
def beginTable (d : Draft) (path : List String) : Option Draft := do
  let name ← path.getLast?
  let entries ← Entries.changeAt .implied
    (fun _ es =>
      match es.find? name with
      | none => some (es.put name (.table .written []))
      | some (.table .implied inner) => some (es.put name (.table .written inner))
      | some _ => none)
    path.dropLast .written d.entries
  some ⟨entries, path⟩

/-- Begin the next table of an array of tables. -/
def beginItem (d : Draft) (path : List String) : Option Draft := do
  let name ← path.getLast?
  let entries ← Entries.changeAt .implied
    (fun _ es =>
      match es.find? name with
      | none => some (es.put name (.tables [[]]))
      | some (.tables tables) => some (es.put name (.tables ([] :: tables)))
      | some _ => none)
    path.dropLast .written d.entries
  some ⟨entries, path⟩

/-- Put a value into the table that is being written. -/
def assign (d : Draft) (key : List String) (value : Json) : Option Draft :=
  (Entries.changeAt .implied (fun _ es => es.assign key value) d.path .written d.entries).map
    fun entries => { d with entries }

end Draft

/-- The draft with one more line, and the text after it. -/
def readLine (d : Draft) (cs : List Char) : Option (Draft × List Char) :=
  match cs.dropWhile isSpace with
  | '[' :: '[' :: rest => do
    let (path, rest) ← readKey (rest.dropWhile isSpace)
    match rest with
    | ']' :: ']' :: rest => some ((← d.beginItem path), (← endLine? rest))
    | _ => none
  | '[' :: rest => do
    let (path, rest) ← readKey (rest.dropWhile isSpace)
    match rest with
    | ']' :: rest => some ((← d.beginTable path), (← endLine? rest))
    | _ => none
  | cs =>
    match endLine? cs with
    | some rest => some (d, rest)
    | none => do
      let (key, rest) ← readKey cs
      match rest with
      | '=' :: rest =>
        let rest := rest.dropWhile isSpace
        let (value, rest) ← readValue (2 * rest.length + 2) (nestingLimit - 1) rest
        some ((← d.assign key value), (← endLine? rest))
      | _ => none

/-- The draft with all lines of a text; every line takes a character or more, so the length of the
text is fuel enough. -/
def readLines : Nat → Draft → List Char → Option Draft
  | _, d, [] => some d
  | 0, _, _ :: _ => none
  | fuel + 1, d, c :: cs => do
    let (d, rest) ← readLine d (c :: cs)
    readLines fuel d rest

/-- The table that a text describes.  A byte order mark in front of it is no part of it. -/
def parse? (s : String) : Option Json :=
  let cs :=
    match s.toList with
    | '\uFEFF' :: cs => cs
    | cs => cs
  (readLines cs.length {} cs).map fun d => .object (entriesToJson d.entries)

end CatalogSearch.Toml
