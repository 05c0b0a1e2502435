/-!
# Integers

The ranges of the integers that a request, a setting or a file may hold, and the sum of counts.
-/

set_option autoImplicit false

namespace CatalogSearch.Number

/-- The least signed integer of 64 bits. -/
def int64Least : Int := -9223372036854775808

/-- The largest signed integer of 64 bits. -/
def int64Most : Int := 9223372036854775807

/-- The largest natural number of 64 bits. -/
def nat64Most : Nat := 18446744073709551615

/-- The largest natural number of 32 bits. -/
def nat32Most : Nat := 4294967295

/-- Whether an integer has 64 bits with its sign. -/
def isInt64 (n : Int) : Bool := decide (int64Least ≤ n) && decide (n ≤ int64Most)

/-- The nearest signed integer of 64 bits. -/
def clampInt64 (n : Int) : Int := max int64Least (min n int64Most)

/-- The sum of counts. -/
def total : List Nat → Nat
  | [] => 0
  | n :: ns => n + total ns

end CatalogSearch.Number
