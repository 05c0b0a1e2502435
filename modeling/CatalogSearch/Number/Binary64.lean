/-!
# Binary floating-point numbers

A number is taken apart into sign, mantissa and exponent, so that its text and its place in the
order can be worked out in exact arithmetic.
-/

set_option autoImplicit false

namespace CatalogSearch.Number

theorem eq_of_toBits_eq {x y : Float} (h : x.toBits = y.toBits) : x = y := by
  obtain ⟨⟨bx, hx⟩⟩ := x
  obtain ⟨⟨by', hy⟩⟩ := y
  have same : bx = by' := h
  subst same
  rfl

/-- Two numbers are the same when their bits are: zeros of different sign differ, a NaN is itself. -/
instance decidableEqFloat : DecidableEq Float := fun x y =>
  if h : x.toBits = y.toBits then isTrue (eq_of_toBits_eq h)
  else isFalse fun e => h (e ▸ rfl)

/-- What a number stands for. -/
inductive Parts where
  /-- No number. -/
  | nan
  | infinite (negative : Bool)
  /-- The number `± mantissa · 2 ^ exponent`. -/
  | finite (negative : Bool) (mantissa : Nat) (exponent : Int)
  deriving DecidableEq, Repr

/-- The weight of the bit that holds the sign. -/
def signBit : Nat := 9223372036854775808

/-- The weight of the leading mantissa bit, which is not stored. -/
def hiddenBit : Nat := 4503599627370496

/-- The parts of a number. -/
def parts (x : Float) : Parts :=
  let bits := x.toBits.toNat
  let negative := bits / signBit == 1
  let biased : Nat := bits / hiddenBit % 2048
  let fraction : Nat := bits % hiddenBit
  if biased = 2047 then
    if fraction = 0 then .infinite negative else .nan
  else if biased = 0 then .finite negative fraction (-1074)
  else .finite negative (hiddenBit + fraction) ((biased : Int) - 1075)

/-- The integer that a number is, if it is one. -/
def whole? (x : Float) : Option Int :=
  match parts x with
  | .nan | .infinite _ => none
  | .finite negative mantissa exponent =>
    let size : Option Nat :=
      if 0 ≤ exponent then some (mantissa * Nat.pow 2 exponent.toNat)
      else
        let unit := Nat.pow 2 (-exponent).toNat
        if mantissa % unit = 0 then some (mantissa / unit) else none
    size.map fun n => if negative then -(n : Int) else n

/-- The natural number nearest to a number, a half counting as one, within a limit; zero for what is
below zero or no number. -/
def nearestNat (most : Nat) (x : Float) : Nat :=
  match parts x with
  | .nan | .infinite true | .finite true _ _ => 0
  | .infinite false => most
  | .finite false mantissa exponent =>
    let unit := Nat.pow 2 (-exponent).toNat
    min ((2 * mantissa * Nat.pow 2 exponent.toNat + unit) / (2 * unit)) most

/-- The place of a number in the total order of all numbers: numbers by value, negative zero before
zero, infinities at the ends and what is no number before everything. -/
def orderKey (x : Float) : Int :=
  if x.isNaN then -2 * signBit
  else
    let bits := x.toBits.toNat
    if bits < signBit then bits else -1 - ((bits - signBit : Nat) : Int)

/-- Numbers in their total order. -/
def totalCompare (x y : Float) : Ordering := compare (orderKey x) (orderKey y)

/-- Whether two numbers count as the same when a filter asks: closer than the distance from 1 to
the next number.  An infinity is not even close to itself, nor is what is no number. -/
def close (x y : Float) : Bool := decide ((x - y).abs < Float.ofBits 0x3CB0000000000000)

end CatalogSearch.Number
