import CatalogSearch.Catalog.FieldValue
import CatalogSearch.Proofs.Number.ReadBack

/-!
# Texts of integers and numbers

The text of an integer reads back, as an integer and as a number.  What a facet shows for a finite number
reads as a number of the same value.
-/

set_option autoImplicit false

namespace CatalogSearch

open CatalogSearch.Number

namespace FieldValue

/-! ## Integers -/

/-- The text of an integer is its digits, with a minus in front of them if it is negative. -/
theorem toList_intText (n : Int) :
    (intText n).toList = (if decide (n < 0) then ['-'] else []) ++ digitsText n.natAbs := by
  simp only [decide_eq_true_eq]
  exact String.toList_ofList

/-- The text of an integer reads as that integer. -/
theorem readInt?_intText (n : Int) : readInt? (intText n) = some n := by
  obtain ⟨c, rest, hdigits, hc⟩ := digitsText_head n.natAbs
  have hall : (digitsText n.natAbs).all isDigit = true :=
    List.all_eq_true.mpr (digits_digitsText n.natAbs)
  have hempty : (digitsText n.natAbs).isEmpty = false := by rw [hdigits]; rfl
  have hsign : takeSign (intText n).toList = (decide (n < 0), digitsText n.natAbs) := by
    rw [toList_intText, hdigits, takeSign_signed hc]
  unfold readInt?
  rw [hsign]
  dsimp only
  rw [hempty, hall, digitsValue_digitsText]
  by_cases hneg : n < 0
  · have hvalue : -(n.natAbs : Int) = n := by omega
    rw [decide_eq_true hneg]
    exact congrArg some hvalue
  · have hvalue : (n.natAbs : Int) = n := by omega
    rw [decide_eq_false hneg]
    exact congrArg some hvalue

theorem intText_inj {n m : Int} (h : intText n = intText m) : n = m :=
  Option.some_inj.mp ((readInt?_intText n).symm.trans ((congrArg readInt? h).trans (readInt?_intText m)))

/-- The text of an integer reads as the number nearest to it. -/
theorem read?_intText (n : Int) :
    read? (intText n) =
      some (if decide (n < 0) then -nearestFloat n.natAbs else nearestFloat n.natAbs) := by
  have hread := readDecimal_digits (digits_digitsText n.natAbs) Nat.toDigits_ne_nil
  rw [digitsValue_digitsText] at hread
  rw [read?, toList_intText, readChars_signed hread (digitsText_head _), Decimal.value, zpow_zero, mul_one]

/-- The text of the integer that a number is reads as a number of the same value. -/
theorem read?_intText_of_whole {x : Float} {n : Int} (h : whole? x = some n) :
    ∃ y, read? (intText n) = some y ∧ y.isFinite = true ∧ value y = value x := by
  obtain ⟨hx, hvalue⟩ := whole?_eq_some_iff.mp h
  obtain ⟨negative, mantissa, exponent, hparts⟩ := isFinite_iff.mp hx
  have hcanonical := (parts_eq_finite_iff.mp hparts).1
  -- the number without its sign is nearest to the integer without its sign
  have hsize : (n.natAbs : ℚ) = dyadic mantissa exponent := by
    rw [← abs_value negative, ← hparts, ← value, hvalue, Nat.cast_natAbs]
    push_cast
    rfl
  have hnearest : nearestFloat n.natAbs = ofParts (.finite false mantissa exponent) := by
    rw [hsize, nearestFloat_value (parts_ofParts hcanonical)]
  have hpositive := @parts_ofParts false _ _ hcanonical
  rw [read?_intText, hnearest]
  refine ⟨_, rfl, ?_⟩
  by_cases hneg : n < 0
  · have hparts' := parts_neg hpositive
    rw [if_pos (decide_eq_true hneg)]
    refine ⟨isFinite_iff.mpr ⟨_, _, _, hparts'⟩, ?_⟩
    rw [value, hparts', hvalue]
    change -dyadic mantissa exponent = n
    rw [← hsize]
    have hint : -(n.natAbs : Int) = n := by omega
    rw [← Int.cast_natCast, ← Int.cast_neg, hint]
  · rw [if_neg (by simpa using hneg)]
    refine ⟨isFinite_iff.mpr ⟨_, _, _, hpositive⟩, ?_⟩
    rw [value, hpositive, hvalue]
    change dyadic mantissa exponent = n
    rw [← hsize]
    have hint : (n.natAbs : Int) = n := by omega
    rw [← Int.cast_natCast, hint]

theorem point_not_mem_intText (n : Int) : '.' ∉ (intText n).toList := by
  rw [toList_intText, List.mem_append, not_or]
  refine ⟨?_, fun hpoint => ?_⟩
  · cases decide (n < 0) with
    | false => exact List.not_mem_nil
    | true => decide
  · exact absurd (digits_digitsText _ _ hpoint) (by decide)

end FieldValue

/-- What a facet shows for a finite number reads as a number of the same value. -/
theorem FieldValue.read?_numberText {x : Float} (hx : x.isFinite = true) :
    ∃ y, read? (numberText x) = some y ∧ y.isFinite = true ∧ value y = value x := by
  unfold numberText
  split
  · rename_i n hwhole
    split
    · exact read?_intText_of_whole hwhole
    · exact ⟨x, read?_plainText hx, hx, rfl⟩
  · exact ⟨x, read?_plainText hx, hx, rfl⟩

end CatalogSearch
