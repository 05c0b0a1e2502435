import CatalogSearch.Number.Integer
import CatalogSearch.Settings.Data
import CatalogSearch.Text.Lowercase
import CatalogSearch.Toml.Document

/-!
# Layers of settings

Settings come from three layers: the defaults, a file, and the variables of the environment.  A later
layer is laid over an earlier one: tables are merged name by name, anything else replaces what it
covers.  Names are in lower case once they are set.  Values are read leniently, since a variable has
no type of its own.
-/

set_option autoImplicit false

namespace CatalogSearch

open CatalogSearch.Text

namespace Layer

/-! ## Tables -/

/-- The entries of a table; anything else has none. -/
def entries (below : Option Json) : List (String × Json) := (below.bind Json.members?).getD []

/-- The value under a name. -/
def find? (table : List (String × Json)) (name : String) : Option Json :=
  (table.find? (fun e => e.1 == name)).map (·.2)

/-- The table with a value under a name, in place of what was there. -/
def put (table : List (String × Json)) (name : String) (value : Json) : List (String × Json) :=
  if table.any (fun e => e.1 == name) then
    table.map fun e => if e.1 == name then (name, value) else e
  else table ++ [(name, value)]

mutual

/-- A value laid over what is below it.  An empty table changes nothing. -/
def overlay (below : Option Json) : Json → Json
  | .object [] => below.getD (.object [])
  | .object (member :: members) => .object (overlayMembers (entries below) (member :: members))
  | value => value

/-- Members laid over a table one after the other. -/
def overlayMembers (table : List (String × Json)) : List (String × Json) → List (String × Json)
  | [] => table
  | (name, value) :: rest =>
    let name := lower name
    overlayMembers (put table name (overlay (find? table name) value)) rest

end

/-! ## Paths -/

/-- A step of the path to a setting. -/
inductive Step where
  /-- Into a table; the name is in lower case. -/
  | name (name : String)
  /-- Into a list; a negative index counts from its end. -/
  | index (index : Int)
  deriving DecidableEq, Repr

/-- Whether a character may be part of a name in a path. -/
def isNameChar (c : Char) : Bool := c.isAlphanum || c == ' ' || c == '_' || c == '-'

/-- The step to a name, which is set in lower case. -/
def nameStep (cs : List Char) : Step := .name (lower (String.ofList cs))

/-- A name in a path; it is not empty. -/
def name? (cs : List Char) : Option Step :=
  if cs.isEmpty || !cs.all isNameChar then none else some (nameStep cs)

/-- Whether a character may stand around an index: a space or a tab. -/
def isGap (c : Char) : Bool := c == ' ' || c == '\t'

/-- Characters without the gaps at both ends. -/
def dropGaps (cs : List Char) : List Char :=
  ((cs.dropWhile isGap).reverse.dropWhile isGap).reverse

/-- An index in a path: an integer of 64 bits without a plus, with gaps around it. -/
def index? (cs : List Char) : Option Step :=
  let digits := dropGaps cs
  if digits.head? == some '+' then none
  else ((Number.readInt? (String.ofList digits)).filter Number.isInt64).map .index

/-- The steps that follow a name: brackets with an index in them. -/
def indices? : Nat → List Char → Option (List Step)
  | _, [] => some []
  | 0, _ :: _ => none
  | fuel + 1, '[' :: rest =>
    match rest.dropWhile (· != ']') with
    | ']' :: more => do some ((← index? (rest.takeWhile (· != ']'))) :: (← indices? fuel more))
    | _ => none
  | _ + 1, _ :: _ => none

/-- The steps of a part of a path between two dots. -/
def partSteps? (cs : List Char) : Option (List Step) := do
  let first ← name? (cs.takeWhile (· != '['))
  let rest ← indices? cs.length (cs.dropWhile (· != '['))
  some (first :: rest)

/-- A text cut at every dot; `part` holds the part read so far, last character first. -/
def cutAtDots (part : List Char) : List Char → List (List Char)
  | [] => [part.reverse]
  | c :: rest => if c = '.' then part.reverse :: cutAtDots [] rest else cutAtDots (c :: part) rest

/-- The path that a text describes: names with dots between them, each possibly with indices.  A text
that describes none is a name as a whole. -/
def path (s : String) : List Step :=
  match (cutAtDots [] s.toList).mapM partSteps? with
  | some parts => parts.flatten
  | none => [nameStep s.toList]

/-- The place of an index in a list. -/
def place (index : Int) (length : Nat) : Nat :=
  if 0 ≤ index then index.toNat else length - index.natAbs

/-- What is below with a value set at the end of a path: laid over what is there under a name, in place
of what is there at an index.  Tables and lists on the way that are not there are made. -/
def putAt (value : Json) : List Step → Option Json → Json
  | [], below => overlay below value
  | .name name :: rest, below =>
    let table := entries below
    .object (put table name (putAt value rest (find? table name)))
  | .index index :: rest, below =>
    let items := (below.bind Json.items?).getD []
    let at_ := place index items.length
    let items := items ++ List.replicate (at_ + 1 - items.length) .null
    .array (items.set at_ (if rest.isEmpty then value else putAt value rest items[at_]?))

/-- Settings with a layer of named values over them. -/
def apply (below : Json) (layer : List (String × Json)) : Json :=
  layer.foldl (fun j (name, value) => putAt value (path name) (some j)) below

/-! ## The environment -/

/-- The beginning of the names of variables that are settings, in lower case. -/
def variableStart : String := "unified_search__"

/-- The rest of the name of a variable as a path: two underscores stand for a dot. -/
def dotted : List Char → List Char
  | '_' :: '_' :: rest => '.' :: dotted rest
  | c :: rest => c :: dotted rest
  | [] => []

/-- The value of a variable: a truth value, an integer, a number or a text, whichever it can be
first. -/
def variableValue (s : String) : Json :=
  if lower s == "true" then .bool true
  else if lower s == "false" then .bool false
  else
    match (Number.readInt? s).filter Number.isInt64 with
    | some n => .int n
    | none =>
      match Number.read? s with
      | some x => .number (.decimal x)
      | none => .string s

/-- The setting of a variable, if it is one. -/
def ofVariable? (name value : String) : Option (String × Json) :=
  let name := (lower name).toList
  let start := variableStart.toList
  if start.isPrefixOf name then
    some (String.ofList (dotted (name.drop start.length)), variableValue value)
  else none

/-! ## Lenient reading -/

/-- The truth value that a word stands for. -/
def switch? (s : String) : Option Bool :=
  let word := lower s
  if ["true", "on", "yes"].contains word then some true
  else if ["false", "off", "no"].contains word then some false
  else none

/-- A truth value from any scalar. -/
def bool? : Json → Option Bool
  | .bool b => some b
  | .number (.integer n) => some (n != 0)
  | .number (.decimal x) => some (x != 0)
  | .string s => if s == "1" then some true else if s == "0" then some false else switch? s
  | _ => none

/-- A natural number from any scalar; a number with a fraction is rounded. -/
def nat? : Json → Option Nat
  | .bool b => some b.toNat
  | .number (.integer n) => if 0 ≤ n then some n.toNat else none
  | .number (.decimal x) => some (Number.nearestNat Number.nat64Most x)
  | .string s =>
    match switch? s with
    | some b => some b.toNat
    | none => (Number.readNat? s).filter (decide <| · ≤ Number.nat64Most)
  | _ => none

/-- A number from any scalar. -/
def float? : Json → Option Float
  | .bool b => some (if b then 1 else 0)
  | .number n => some n.toFloat
  | .string s =>
    match switch? s with
    | some b => some (if b then 1 else 0)
    | none => Number.read? s
  | _ => none

/-- A text from any scalar. -/
def text? : Json → Option String
  | .bool b => some (FieldValue.boolText b)
  | .number (.integer n) => some (FieldValue.intText n)
  | .number (.decimal x) => some (Number.plainText x)
  | .string s => some s
  | _ => none

/-- The settings of a group: a table, or a list of the first of them in order. -/
def group? (names : List String) : Json → Option (List (String × Json))
  | .array items => some (names.zip items)
  | j => j.members?

end Layer

/-- Layers, in which a setting may have any type that can be understood. -/
def SettingSource.layered : SettingSource Json where
  bool? := Layer.bool?
  nat? := Layer.nat?
  nat32? j := (Layer.nat? j).filter (decide <| · ≤ Number.nat32Most)
  float? := Layer.float?
  text? := Layer.text?
  items? := Json.items?
  table? := Json.members?
  group? := Layer.group?

/-! ## Loading -/

/-- Why settings cannot be loaded. -/
inductive LoadFault where
  /-- The file is no TOML. -/
  | malformedFile
  /-- A setting has a value that cannot be understood. -/
  | wrongValue
  deriving DecidableEq, Repr

/-- The fault in words. -/
def LoadFault.message : LoadFault → String
  | .malformedFile => "the configuration file is not valid TOML"
  | .wrongValue => "a setting has a value of the wrong type"

namespace Settings

/-- The settings of a file, if there is one, and of variables of the environment, over the defaults. -/
def load (file : Option String) (environment : List (String × String)) : Except LoadFault Settings := do
  let defaults := ({} : Settings).toJson
  let below ←
    match file with
    | none => pure defaults
    | some text =>
      match Toml.parse? text with
      | some table => pure (Layer.apply defaults (Layer.entries (some table)))
      | none => throw .malformedFile
  let layers := Layer.apply below (environment.filterMap fun (name, value) => Layer.ofVariable? name value)
  match SettingSource.layered.settings? layers with
  | some settings => return settings
  | none => throw .wrongValue

end Settings

end CatalogSearch
