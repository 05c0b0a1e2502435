import CatalogSearch.Number.Binary64

/-!
# Decimal text of a number

A number is written with the fewest decimal digits that read back as the same number, and of these
the nearest to it.  Digits and place are one thing, the layout another: plain texts never use an
exponent, data texts do so for large and small numbers, and computed figures have six places.
-/

set_option autoImplicit false

namespace CatalogSearch.Number

/-- The value `digits · 10 ^ exponent`. -/
structure Decimal where
  digits : Nat
  exponent : Int
  deriving DecidableEq, Repr

/-- The number nearest to a decimal; a tie goes to the even mantissa. -/
def Decimal.toFloat (d : Decimal) : Float :=
  if 0 ≤ d.exponent then Float.ofScientific d.digits false d.exponent.toNat
  else Float.ofScientific d.digits true (-d.exponent).toNat

/-- The same value with no zero at the end of its digits. -/
def Decimal.trimZeros (d : Decimal) : Decimal :=
  let rec go (digits : Nat) (exponent : Int) : Nat → Decimal
    | 0 => ⟨digits, exponent⟩
    | fuel + 1 =>
      if digits % 10 = 0 then go (digits / 10) (exponent + 1) fuel else ⟨digits, exponent⟩
  if d.digits = 0 then ⟨0, 0⟩ else go d.digits d.exponent (Nat.log2 d.digits)

/-- The exponents `k` with `10 ^ (k - 1) ≤ mantissa · 2 ^ exponent < 10 ^ k` lie near this one. -/
def decimalLengthGuess (mantissa : Nat) (exponent : Int) : Int :=
  ((Nat.log2 mantissa : Int) + exponent) * 30103 / 100000 + 1

/-- The value `mantissa · 2 ^ exponent · 10 ^ shift` as a fraction. -/
def scaled (mantissa : Nat) (exponent shift : Int) : Nat × Nat :=
  (mantissa * Nat.pow 2 exponent.toNat * Nat.pow 10 shift.toNat,
    Nat.pow 2 (-exponent).toNat * Nat.pow 10 (-shift).toNat)

/-- The number of decimal digits before the point; at most zero for values below one. -/
def decimalLength (mantissa : Nat) (exponent : Int) : Int :=
  let guess := decimalLengthGuess mantissa exponent
  let (num, den) := scaled mantissa exponent (-guess)
  if den ≤ num then guess + 1 else if num * 10 < den then guess - 1 else guess

/-- The decimals of `count` digits next to a positive number, the nearer first. -/
def neighbours (mantissa : Nat) (exponent : Int) (count : Nat) : List Decimal :=
  let place := decimalLength mantissa exponent - count
  let (num, den) := scaled mantissa exponent (-place)
  let below := num / den
  let rest := num % den
  if rest = 0 then [⟨below, place⟩]
  else if 2 * rest < den || (2 * rest == den && below % 2 == 0) then
    [⟨below, place⟩, ⟨below + 1, place⟩]
  else [⟨below + 1, place⟩, ⟨below, place⟩]

/-- Every digit of a positive number. -/
def exactDecimal (mantissa : Nat) (exponent : Int) : Decimal :=
  if 0 ≤ exponent then ⟨mantissa * Nat.pow 2 exponent.toNat, 0⟩
  else ⟨mantissa * Nat.pow 5 (-exponent).toNat, exponent⟩

/-- The decimal with the fewest digits that reads back as the positive number `x`, which is
`mantissa · 2 ^ exponent`. -/
def shortestOf (x : Float) (mantissa : Nat) (exponent : Int) : Decimal :=
  let readsBack (count : Nat) : Option Decimal :=
    (neighbours mantissa exponent count).find? (fun d => d.toFloat == x)
  ((List.range' 1 17).findSome? readsBack).getD (exactDecimal mantissa exponent)

/-- The digits of a natural number. -/
def digitsText (n : Nat) : List Char := Nat.toDigits 10 n

/-- Digits with the decimal point where it belongs and never an exponent; a whole number has no
point. -/
def positional (d : Decimal) : List Char :=
  let digits := digitsText d.digits
  let length := digits.length
  if 0 ≤ d.exponent then digits ++ List.replicate d.exponent.toNat '0'
  else
    let places := (-d.exponent).toNat
    if places < length then digits.take (length - places) ++ '.' :: digits.drop (length - places)
    else '0' :: '.' :: (List.replicate (places - length) '0' ++ digits)

/-- How numbers are written inside data. -/
structure DataLayout where
  /-- A number with more digits than this before the point is written with an exponent. -/
  wholeDigits : Int
  /-- A number below one with this many zeros or more after the point is written with an exponent. -/
  leadingZeros : Int

/-- Numbers in data have a point up to sixteen digits before it and four zeros after it. -/
def dataLayout : DataLayout := ⟨16, 5⟩

/-- Digits the way they are written inside data: always with a point or an exponent. -/
def DataLayout.render (layout : DataLayout) (d : Decimal) : List Char :=
  let digits := digitsText d.digits
  let before : Int := (digits.length : Int) + d.exponent
  if before ≤ layout.wholeDigits && -layout.leadingZeros < before then
    if 0 ≤ d.exponent then positional d ++ ['.', '0'] else positional d
  else
    let mark := if before ≤ 0 then ['e', '-'] else ['e', '+']
    let power := digitsText (before - 1).natAbs
    digits.take 1 ++ (if digits.length ≤ 1 then [] else '.' :: digits.drop 1) ++ mark ++ power

/-- A number as text: words for what has no digits, else a sign and the digits laid out. -/
def textWith (layout : Decimal → List Char) (x : Float) : String :=
  match parts x with
  | .nan => "NaN"
  | .infinite negative => if negative then "-inf" else "inf"
  | .finite negative mantissa exponent =>
    let size := if negative then -x else x
    let d := if mantissa = 0 then ⟨0, 0⟩ else (shortestOf size mantissa exponent).trimZeros
    String.ofList ((if negative then ['-'] else []) ++ layout d)

/-- A number as plain text: the fewest digits that read back, without an exponent, and without a
point when it is whole. -/
def plainText (x : Float) : String := textWith positional x

/-- A finite number as it is written inside data. -/
def dataText (x : Float) : String := textWith dataLayout.render x

/-- The quotient rounded to the nearest integer; a tie goes to the even one. -/
def roundDiv (num den : Nat) : Nat :=
  let below := num / den
  let rest := num % den
  if 2 * rest < den || (2 * rest == den && below % 2 == 0) then below else below + 1

/-- A computed figure: six places after the point, correctly rounded. -/
def sixPlaces (x : Float) : String :=
  match parts x with
  | .nan => "NaN"
  | .infinite negative => if negative then "-inf" else "inf"
  | .finite negative mantissa exponent =>
    let (num, den) := scaled mantissa exponent 6
    let millionths := roundDiv num den
    let places := digitsText (millionths % 1000000)
    String.ofList ((if negative then ['-'] else []) ++ digitsText (millionths / 1000000) ++
      '.' :: (List.replicate (6 - places.length) '0' ++ places))

end CatalogSearch.Number
