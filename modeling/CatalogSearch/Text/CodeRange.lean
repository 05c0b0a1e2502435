/-!
# Ranges of code points

A character class of the Unicode standard is stored as a sorted list of disjoint inclusive ranges.
-/

set_option autoImplicit false

namespace CatalogSearch.Text

/-- An inclusive range of code points: the first and the last. -/
abbrev CodeRange := Nat × Nat

/-- Whether a code point lies in one of the ranges.  The list is sorted, so the first range that
ends at or after the code point decides. -/
def CodeRange.contains : List CodeRange → Nat → Bool
  | [], _ => false
  | (first, last) :: rest, code =>
    if code ≤ last then decide (first ≤ code) else CodeRange.contains rest code

end CatalogSearch.Text
