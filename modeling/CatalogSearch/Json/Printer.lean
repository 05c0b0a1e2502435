import CatalogSearch.Json.Basic
import CatalogSearch.Number.Decimal

/-!
# Writing JSON

Compact text for lines of data and text with a member or item to a line for people.  Characters
other than quotes, backslashes and controls stand for themselves.
-/

set_option autoImplicit false

namespace CatalogSearch.Json

/-- A lower-case hexadecimal digit. -/
def hexDigit (n : Nat) : Char :=
  if n < 10 then Char.ofNat ('0'.toNat + n) else Char.ofNat ('a'.toNat + n - 10)

/-- A character inside a string. -/
def escapeChar (c : Char) : List Char :=
  match c with
  | '"' => ['\\', '"']
  | '\\' => ['\\', '\\']
  | '\x08' => ['\\', 'b']
  | '\x0c' => ['\\', 'f']
  | '\n' => ['\\', 'n']
  | '\r' => ['\\', 'r']
  | '\t' => ['\\', 't']
  | c =>
    if c.toNat < 0x20 then
      ['\\', 'u', '0', '0', hexDigit (c.toNat / 16), hexDigit (c.toNat % 16)]
    else [c]

/-- A text in quotes. -/
def quoted (s : String) : String :=
  String.ofList ('"' :: s.toList.flatMap escapeChar ++ ['"'])

/-- A number; what is no finite number is written as null. -/
def Number.render : Number → String
  | .integer n => if n < 0 then String.ofList ('-' :: Nat.toDigits 10 n.natAbs)
      else String.ofList (Nat.toDigits 10 n.natAbs)
  | .decimal x => if x.isFinite then CatalogSearch.Number.dataText x else "null"

mutual

/-- A value on one line. -/
def compact : Json → String
  | .null => "null"
  | .bool b => if b then "true" else "false"
  | .number n => n.render
  | .string s => quoted s
  | .array items => "[" ++ ",".intercalate (compactItems items) ++ "]"
  | .object members => "\x7b" ++ ",".intercalate (compactMembers members) ++ "\x7d"

/-- The items of an array, each on one line. -/
def compactItems : List Json → List String
  | [] => []
  | item :: rest => compact item :: compactItems rest

/-- The members of an object, each on one line. -/
def compactMembers : List (String × Json) → List String
  | [] => []
  | (name, value) :: rest => (quoted name ++ ":" ++ compact value) :: compactMembers rest

end

/-- The beginning of a line at a depth of nesting. -/
def lineStart (depth : Nat) : String := String.ofList ('\n' :: List.replicate (2 * depth) ' ')

mutual

/-- A value with a line for each item and member, indented by two spaces a level. -/
def indented (depth : Nat) : Json → String
  | .array [] => "[]"
  | .object [] => "\x7b\x7d"
  | .array items =>
    "[" ++ ",".intercalate (indentedItems (depth + 1) items) ++ lineStart depth ++ "]"
  | .object members =>
    "\x7b" ++ ",".intercalate (indentedMembers (depth + 1) members) ++ lineStart depth ++ "\x7d"
  | value => compact value

/-- The items of an array, each on a line of its own. -/
def indentedItems (depth : Nat) : List Json → List String
  | [] => []
  | item :: rest => (lineStart depth ++ indented depth item) :: indentedItems depth rest

/-- The members of an object, each on a line of its own. -/
def indentedMembers (depth : Nat) : List (String × Json) → List String
  | [] => []
  | (name, value) :: rest =>
    (lineStart depth ++ quoted name ++ ": " ++ indented depth value) :: indentedMembers depth rest

end

/-- A value as people read it. -/
def pretty (j : Json) : String := indented 0 j

end CatalogSearch.Json
