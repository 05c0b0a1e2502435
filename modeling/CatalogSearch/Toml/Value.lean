import CatalogSearch.Toml.Scalar

/-!
# Values and keys of TOML

A key is one name or several with dots between them.  A value is a scalar, a string, an array, which
may run over several lines, or an inline table, which may not.
-/

set_option autoImplicit false

namespace CatalogSearch.Toml

/-! ## Tables by dotted keys -/

/-- How a table came to be, which decides what may still be put into it. -/
inductive Origin where
  /-- It was written out, with a header or in braces. -/
  | written
  /-- A header named something inside it. -/
  | implied
  /-- A dotted key named something inside it. -/
  | dotted
  deriving DecidableEq, Repr

/-- What stands under a name while a document is read. -/
inductive Node where
  /-- A finished value. -/
  | value (value : Json)
  /-- A table that may grow. -/
  | table (origin : Origin) (entries : List (String × Node))
  /-- An array of tables, the last of which may grow: it is the first of the list. -/
  | tables (tables : List (List (String × Node)))

/-- The entries of a table that may grow. -/
abbrev Entries := List (String × Node)

namespace Entries

/-- What stands under a name. -/
def find? (es : Entries) (name : String) : Option Node :=
  (List.find? (fun e => e.1 == name) es).map (·.2)

/-- The entries with something put under a name, in place of what was there. -/
def put (es : Entries) (name : String) (node : Node) : Entries :=
  if es.any (fun e => e.1 == name) then es.map fun e => if e.1 == name then (name, node) else e
  else es ++ [(name, node)]

/-- The entries with the table at the end of a path changed.  Tables on the way that are not there
are made, with the given origin.  A dotted key does not lead through a table that was written out. -/
def changeAt (made : Origin) (change : Origin → Entries → Option Entries) :
    List String → Origin → Entries → Option Entries
  | [], origin, es => change origin es
  | name :: path, _, es =>
    match es.find? name with
    | none => (changeAt made change path made []).map fun inner => es.put name (.table made inner)
    | some (.table origin inner) =>
      if made = .dotted ∧ origin = .written then none
      else (changeAt made change path origin inner).map fun inner => es.put name (.table origin inner)
    | some (.tables (last :: before)) =>
      (changeAt made change path .written last).map fun last => es.put name (.tables (last :: before))
    | some (.tables []) | some (.value _) => none

/-- A value put under a name that is not taken.  A dotted key may only add to a table that dotted keys
have made. -/
def addValue (isDotted : Bool) (name : String) (value : Json) (origin : Origin) (es : Entries) :
    Option Entries :=
  if isDotted && origin != .dotted then none
  else
    match es.find? name with
    | none => some (es.put name (.value value))
    | some _ => none

/-- The entries with a value under a dotted key. -/
def assign (key : List String) (value : Json) (es : Entries) : Option Entries :=
  match key.getLast? with
  | none => none
  | some name =>
    let path := key.dropLast
    changeAt .dotted (addValue (!path.isEmpty) name value) path .written es

end Entries

mutual

/-- What stands under a name, once the document is read. -/
def Node.toJson : Node → Json
  | .value v => v
  | .table _ entries => .object (entriesToJson entries)
  | .tables tables => .array (tablesToJson tables).reverse

/-- The entries of a table, once the document is read. -/
def entriesToJson : List (String × Node) → List (String × Json)
  | [] => []
  | (name, node) :: rest => (name, node.toJson) :: entriesToJson rest

/-- The tables of an array, once the document is read. -/
def tablesToJson : List (List (String × Node)) → List Json
  | [] => []
  | entries :: rest => .object (entriesToJson entries) :: tablesToJson rest

end

/-! ## Keys -/

/-- Arrays, inline tables and keys may be nested less deep than this. -/
def nestingLimit : Nat := 80

/-- Whether a character may be part of a name without quotes. -/
def isBareChar (c : Char) : Bool := c.isAlphanum || c == '_' || c == '-'

/-- A name at the front. -/
def readName (cs : List Char) : Option (String × List Char) :=
  match cs with
  | '"' :: rest => readLineString '"' rest
  | '\'' :: rest => readLineString '\'' rest
  | cs =>
    let name := cs.takeWhile isBareChar
    if name.isEmpty then none else some (String.ofList name, cs.dropWhile isBareChar)

/-- Names with dots between them; there is less fuel for each further name. -/
def readNames : Nat → List Char → Option (List String × List Char)
  | 0, _ => none
  | fuel + 1, cs => do
    let (name, rest) ← readName cs
    match rest.dropWhile isSpace with
    | '.' :: more =>
      let (names, rest) ← readNames fuel (more.dropWhile isSpace)
      some (name :: names, rest)
    | rest => some ([name], rest)

/-- A key at the front, with the blanks after it. -/
def readKey (cs : List Char) : Option (List String × List Char) := readNames (nestingLimit - 1) cs

/-! ## Arrays and inline tables -/

/-- The end of a line at the front, with a comment before it, or the end of the text. -/
def endLine? (cs : List Char) : Option (List Char) :=
  let rest :=
    match cs.dropWhile isSpace with
    | '#' :: comment => comment.dropWhile isPlain
    | rest => rest
  if rest.isEmpty then some [] else dropNewline? rest

/-- The characters after blanks, comments and ends of lines; each line takes fuel. -/
def skipLines : Nat → List Char → List Char
  | 0, cs => cs
  | fuel + 1, cs =>
    match endLine? cs with
    | some rest => if rest.isEmpty then [] else skipLines fuel rest
    | none => cs.dropWhile isSpace

/-- The characters after all blanks, comments and ends of lines at the front. -/
def skipBlank (cs : List Char) : List Char := skipLines (cs.length + 1) cs

mutual

/-- A value at the front.  Each call has less fuel than the one before it. -/
def readValue : (fuel depth : Nat) → List Char → Option (Json × List Char)
  | 0, _, _ => none
  | fuel + 1, depth, cs =>
    match cs with
    | '"' :: rest => (readString '"' rest).map fun (s, rest) => (.string s, rest)
    | '\'' :: rest => (readString '\'' rest).map fun (s, rest) => (.string s, rest)
    | '[' :: rest =>
      match depth with
      | 0 => none
      | depth + 1 => readItems fuel depth [] (skipBlank rest)
    | '\x7b' :: rest =>
      match depth with
      | 0 => none
      | depth + 1 =>
        match rest.dropWhile isSpace with
        | '\x7d' :: rest => some (.object [], rest)
        | rest => readPairs fuel depth [] rest
    | cs => readScalar cs

/-- The items of an array from the next one on, if there is one; `done` holds those read, last
first. -/
def readItems : (fuel depth : Nat) → List Json → List Char → Option (Json × List Char)
  | 0, _, _, _ => none
  | fuel + 1, depth, done, cs =>
    match cs with
    | ']' :: rest => some (.array done.reverse, rest)
    | cs => do
      let (item, rest) ← readValue fuel depth cs
      match skipBlank rest with
      | ',' :: rest => readItems fuel depth (item :: done) (skipBlank rest)
      | ']' :: rest => some (.array (item :: done).reverse, rest)
      | _ => none

/-- The pairs of an inline table from the next one on. -/
def readPairs : (fuel depth : Nat) → Entries → List Char → Option (Json × List Char)
  | 0, _, _, _ => none
  | fuel + 1, depth, entries, cs => do
    let (key, rest) ← readKey cs
    match rest with
    | '=' :: rest =>
      let (value, rest) ← readValue fuel depth (rest.dropWhile isSpace)
      let entries ← entries.assign key value
      match rest.dropWhile isSpace with
      | ',' :: rest => readPairs fuel depth entries (rest.dropWhile isSpace)
      | '\x7d' :: rest => some (.object (entriesToJson entries), rest)
      | _ => none
    | _ => none

end

end CatalogSearch.Toml
