import CatalogSearch.Number.Integer

/-!
# JSON values

Feeds, payloads and answers are JSON.  An object keeps its members in the order written and may, as
read, name one twice; `settled` keeps the last of them.
-/

set_option autoImplicit false

namespace CatalogSearch

namespace Json

/-- A number as data holds it: an integer of 64 bits, signed or unsigned, or a binary number. -/
inductive Number where
  | integer (value : Int)
  | decimal (value : Float)

/-- The nearest binary number. -/
def Number.toFloat : Number → Float
  | .integer value =>
    if value < 0 then -(Float.ofScientific value.natAbs false 0)
    else Float.ofScientific value.natAbs false 0
  | .decimal value => value

end Json

/-- A JSON value. -/
inductive Json where
  | null
  | bool (value : Bool)
  | number (value : Json.Number)
  | string (value : String)
  | array (items : List Json)
  | object (members : List (String × Json))
  deriving Inhabited

namespace Json

/-- An integer. -/
def int (n : Int) : Json := .number (.integer n)

/-- A natural number. -/
def nat (n : Nat) : Json := .int n

/-- A list of texts. -/
def strings (texts : List String) : Json := .array (texts.map .string)

/-- A text or nothing. -/
def ofText? : Option String → Json
  | none => .null
  | some s => .string s

/-- The members of an object, each name once with its last value, in order of first appearance. -/
def lastMembers (members : List (String × Json)) : List (String × Json) :=
  members.foldl
    (fun kept (name, value) =>
      if kept.any (fun m => m.1 == name) then
        kept.map fun m => if m.1 == name then (name, value) else m
      else kept ++ [(name, value)])
    []

mutual

/-- The value with each member named once: the last one written. -/
def settled : Json → Json
  | .array items => .array (settledItems items)
  | .object members => .object (lastMembers (settledMembers members))
  | value => value

/-- The values of a list, each with its members named once. -/
def settledItems : List Json → List Json
  | [] => []
  | item :: rest => settled item :: settledItems rest

/-- Members whose values have their own members named once. -/
def settledMembers : List (String × Json) → List (String × Json)
  | [] => []
  | (name, value) :: rest => (name, settled value) :: settledMembers rest

end

/-- The last member of an object with the given name. -/
def member? : Json → String → Option Json
  | .object members, name => (members.reverse.find? (fun m => m.1 == name)).map (·.2)
  | _, _ => none

/-- The members of an object. -/
def members? : Json → Option (List (String × Json))
  | .object members => some members
  | _ => none

/-- The items of an array. -/
def items? : Json → Option (List Json)
  | .array items => some items
  | _ => none

/-- The text of a string. -/
def text? : Json → Option String
  | .string s => some s
  | _ => none

/-- A word that names one of several cases: a string, or the name of the only member of an object
whose value is null. -/
def word? : Json → Option String
  | .string s => some s
  | .object [(name, .null)] => some name
  | _ => none

/-- The truth value of a boolean. -/
def bool? : Json → Option Bool
  | .bool b => some b
  | _ => none

/-- The integer of a number that is one. -/
def int? : Json → Option Int
  | .number (.integer n) => some n
  | _ => none

/-- The integer of a number that is one and lies within the bounds. -/
def intWithin? (least most : Int) (j : Json) : Option Int :=
  j.int?.filter fun n => decide (least ≤ n) && decide (n ≤ most)

/-- The natural number of a number that is one of at most 64 bits. -/
def nat? (j : Json) : Option Nat := (j.intWithin? 0 Number.nat64Most).map Int.toNat

/-- The binary number nearest to a number. -/
def float? : Json → Option Float
  | .number n => some n.toFloat
  | _ => none

end Json

end CatalogSearch
