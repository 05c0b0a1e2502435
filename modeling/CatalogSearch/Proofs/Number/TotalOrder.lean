import CatalogSearch.Number.Binary64

/-!
# The total order of numbers

Every number has one place in the total order, what is no number included, which is one number and comes
first.  So numbers that do not differ in the order are the same.
-/

set_option autoImplicit false

namespace CatalogSearch.Number

open Float.Model in
/-- What is no number has one pattern of bits. -/
theorem toBits_of_isNaN {x : Float} (h : x.isNaN = true) :
    x.toBits.toBitVec = UnpackedFloat.packedNaN .binary64 := by
  have hparts : @UnpackedFloat.unpackExponent .binary64 x.toBits.toBitVec = -1#_ ∧
      @UnpackedFloat.unpackMantissa .binary64 x.toBits.toBitVec ≠ 0#_ := by
    have hnan : (UnpackedFloat.unpack .binary64 x.toBits.toBitVec).isNaN = true := h
    unfold UnpackedFloat.unpack at hnan
    dsimp only at hnan
    by_cases hexponent : @UnpackedFloat.unpackExponent .binary64 x.toBits.toBitVec = -1#_
    · rw [if_pos hexponent] at hnan
      by_cases hmantissa : @UnpackedFloat.unpackMantissa .binary64 x.toBits.toBitVec = 0#_
      · rw [if_pos hmantissa] at hnan
        cases hnan
      · exact ⟨hexponent, hmantissa⟩
    · rw [if_neg hexponent] at hnan
      by_cases hsmall : @UnpackedFloat.unpackExponent .binary64 x.toBits.toBitVec = 0#_
      · rw [if_pos hsmall] at hnan
        by_cases hmantissa : @UnpackedFloat.unpackMantissa .binary64 x.toBits.toBitVec = 0#_
        · rw [dif_pos hmantissa] at hnan
          cases hnan
        · rw [dif_neg hmantissa] at hnan
          cases hnan
      · rw [if_neg hsmall] at hnan
        cases hnan
  exact x.toModel.valid.eq_packedNaN hparts.1 hparts.2

theorem eq_of_isNaN {x y : Float} (hx : x.isNaN = true) (hy : y.isNaN = true) : x = y := by
  refine eq_of_toBits_eq (UInt64.toBitVec_inj.mp ?_)
  rw [toBits_of_isNaN hx, toBits_of_isNaN hy]

theorem orderKey_of_isNaN {x : Float} (h : x.isNaN = true) : orderKey x = -2 * signBit := by
  rw [orderKey, if_pos h]

/-- The bits of a number can be read off its place: those without a sign count upwards from zero, those
with one downwards from below it. -/
theorem orderKey_of_number {x : Float} (h : ¬ x.isNaN = true) :
    -2 * (signBit : Int) < orderKey x ∧
      (x.toBits.toNat : Int) =
        if 0 ≤ orderKey x then orderKey x else (signBit : Int) - 1 - orderKey x := by
  have hbits : x.toBits.toNat < 2 * signBit := x.toBits.toNat_lt
  rw [orderKey, if_neg h]
  by_cases hsign : x.toBits.toNat < signBit
  · rw [if_pos hsign]
    omega
  · rw [if_neg hsign]
    omega

/-- Numbers of one place are one number. -/
theorem orderKey_inj {x y : Float} (h : orderKey x = orderKey y) : x = y := by
  by_cases hx : x.isNaN = true
  · by_cases hy : y.isNaN = true
    · exact eq_of_isNaN hx hy
    · have hlast := (orderKey_of_number hy).1
      rw [← h, orderKey_of_isNaN hx] at hlast
      exact absurd hlast (Int.lt_irrefl _)
  · by_cases hy : y.isNaN = true
    · have hlast := (orderKey_of_number hx).1
      rw [h, orderKey_of_isNaN hy] at hlast
      exact absurd hlast (Int.lt_irrefl _)
    · have hbits := (orderKey_of_number hx).2
      rw [h, ← (orderKey_of_number hy).2] at hbits
      exact eq_of_toBits_eq (UInt64.toNat_inj.mp (Int.ofNat.inj hbits))

instance lawfulEqCmp_totalCompare : Std.LawfulEqCmp totalCompare where
  compare_self := Int.compare_eq_eq.mpr rfl
  eq_of_compare h := orderKey_inj (Std.LawfulEqOrd.eq_of_compare (α := Int) h)

end CatalogSearch.Number
