import CatalogSearch.Number.Decimal

/-!
# Reading numbers

The number literals a person may type into a filter or an environment variable: an optional sign,
then digits with an optional point and exponent, or one of the words for infinity and for what is no
number.  A literal stands for the nearest number.
-/

set_option autoImplicit false

namespace CatalogSearch.Number

/-- Whether a character is an ASCII digit. -/
def isDigit (c : Char) : Bool := c.isDigit

/-- The value of ASCII digits. -/
def digitsValue (cs : List Char) : Nat :=
  cs.foldl (fun n c => n * 10 + (c.toNat - '0'.toNat)) 0

/-- A sign in front, if there is one: whether it is a minus, and the rest. -/
def takeSign : List Char → Bool × List Char
  | '+' :: rest => (false, rest)
  | '-' :: rest => (true, rest)
  | cs => (false, cs)

/-- An exponent that fills the rest of the literal: nothing, or a mark and a signed integer. -/
def readExponent : List Char → Option Int
  | [] => some 0
  | c :: rest =>
    if c = 'e' || c = 'E' then
      let (negative, digits) := takeSign rest
      if digits.isEmpty || !digits.all isDigit then none
      else some (if negative then -(digitsValue digits : Int) else digitsValue digits)
    else none

/-- An unsigned decimal literal: digits, point and exponent, with a digit on at least one side of
the point. -/
def readDecimal (cs : List Char) : Option Decimal :=
  let before := cs.takeWhile isDigit
  let (after, rest) :=
    match cs.dropWhile isDigit with
    | '.' :: more => (more.takeWhile isDigit, more.dropWhile isDigit)
    | more => ([], more)
  if before.isEmpty && after.isEmpty then none
  else
    (readExponent rest).map fun power =>
      ⟨digitsValue (before ++ after), power - after.length⟩

/-- A number literal. -/
def readChars (cs : List Char) : Option Float :=
  let (negative, size) := takeSign cs
  let word := size.map Char.toLower
  let value :=
    if word == "inf".toList || word == "infinity".toList then some (Float.ofBits 0x7FF0000000000000)
    else if word == "nan".toList then some (Float.ofBits 0x7FF8000000000000)
    else (readDecimal size).map Decimal.toFloat
  value.map fun x => if negative then -x else x

/-- A number literal. -/
def read? (s : String) : Option Float := readChars s.toList

/-- A literal of an integer: digits after an optional sign. -/
def readInt? (s : String) : Option Int :=
  let (negative, digits) := takeSign s.toList
  if digits.isEmpty || !digits.all isDigit then none
  else
    let size : Int := digitsValue digits
    some (if negative then -size else size)

/-- A literal of a natural number: digits after an optional plus. -/
def readNat? (s : String) : Option Nat :=
  let digits :=
    match s.toList with
    | '+' :: rest => rest
    | cs => cs
  if digits.isEmpty || !digits.all isDigit then none else some (digitsValue digits)

end CatalogSearch.Number
