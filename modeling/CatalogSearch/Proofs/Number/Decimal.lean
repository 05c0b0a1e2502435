import CatalogSearch.Number.Decimal
import CatalogSearch.Proofs.Number.Rounding
import Mathlib.Data.Nat.Cast.Field

/-!
# Decimals as numbers

The number of a decimal is the one nearest to its value, whether it is found by one operation on small
numbers or by exact arithmetic.  So two decimals of one value are the same number, and the shortest
decimal of a number is that number.
-/

set_option autoImplicit false

namespace CatalogSearch.Number

open Float.Model Float.Model.UnpackedFloat

/-- The rational that a decimal stands for. -/
def Decimal.value (d : Decimal) : ℚ := d.digits * 10 ^ d.exponent

/-- The number nearest to a rational that is not negative. -/
def nearestFloat (q : ℚ) : Float := Float.ofModel (.pack (nearest .positive q))

theorem ten_zpow_pos (exponent : Int) : (0 : ℚ) < 10 ^ exponent := zpow_pos (by norm_num) exponent

theorem nearest_zero : nearest .positive 0 = .zero .positive := by
  have hround : roundEven (0 / 2 ^ place 0) = 0 := by
    rw [zero_div]
    exact_mod_cast roundEven_natCast 0
  rw [nearest, hround]
  rfl

/-- The number nearest to the value of a number is that number. -/
theorem nearestFloat_value {x : Float} {mantissa : Nat} {exponent : Int}
    (h : parts x = .finite false mantissa exponent) :
    nearestFloat (dyadic mantissa exponent) = x := by
  rcases mantissa.eq_zero_or_pos with rfl | hpos
  · rw [nearestFloat, dyadic_zero, nearest_zero]
    exact ofParts_parts h
  · rw [nearestFloat, nearest_dyadic (parts_eq_finite_iff.mp h).1 hpos, ← ofParts_parts h, ofParts,
      unpacked_of_pos hpos]
    rfl

/-- Numbers that are stored alike are the same. -/
theorem ofModel_pack_congr {u u' : UnpackedFloat}
    (h : UnpackedFloat.pack .binary64 u = UnpackedFloat.pack .binary64 u') :
    Float.ofModel (.pack u) = Float.ofModel (.pack u') :=
  congrArg Float.ofModel ((Float.Model.mk.injEq ..).mpr (congrArg UInt64.ofBitVec h))

theorem value_nearestFloat_zero : value (nearestFloat 0) = 0 := by
  have hparts : parts (Float.ofModel (.pack (.zero .positive))) = .finite false 0 (-1074) := by decide
  rw [nearestFloat, nearest_zero, value, hparts, value_zero]

/-- The value of the number nearest to a positive rational, if there is one. -/
theorem value_nearestFloat {q : ℚ} (hq : 0 < q) (hfinite : (nearestFloat q).isFinite = true) :
    value (nearestFloat q) = dyadic (roundEven (q / 2 ^ place q)) (place q) := by
  rcases nearest_cases hq .positive with ⟨hzero, hround⟩ | ⟨mantissa, exponent, hpos, hnearest, hform, hvalue⟩
  · rw [hround, dyadic_zero, nearestFloat, hzero, ← nearest_zero, ← nearestFloat,
      value_nearestFloat_zero]
  · rw [← hvalue]
    rcases hform with hcanonical | hlarge
    · have hnumber : nearestFloat q = ofParts (.finite false mantissa exponent) := by
        rw [nearestFloat, hnearest, ofParts, unpacked_of_pos hpos]
        rfl
      rw [hnumber, value, parts_ofParts hcanonical]
      rfl
    · have hinfinite : nearestFloat q = Float.ofModel (.pack (.infinity .positive)) := by
        rw [nearestFloat, hnearest]
        exact ofModel_pack_congr (pack_of_large hlarge hpos .positive)
      rw [hinfinite] at hfinite
      exact absurd hfinite (by decide)

/-- The number nearest to a natural number is an integer. -/
theorem exists_whole_nearestFloat {n : Nat} (hfinite : (nearestFloat n).isFinite = true) :
    ∃ k, whole? (nearestFloat n) = some k := by
  have hvalue : ∃ k : Nat, value (nearestFloat n) = k := by
    rcases n.eq_zero_or_pos with rfl | hpos
    · rw [Nat.cast_zero, value_nearestFloat_zero]
      exact ⟨0, Nat.cast_zero.symm⟩
    · rw [value_nearestFloat (Nat.cast_pos.mpr hpos) hfinite]
      generalize place (n : ℚ) = exponent
      by_cases hnonneg : 0 ≤ exponent
      · obtain ⟨k, rfl⟩ := Int.eq_ofNat_of_zero_le hnonneg
        rw [dyadic, zpow_natCast]
        exact ⟨_ * 2 ^ k, by push_cast; rfl⟩
      · -- below the last place of an integer there is nothing to round
        obtain ⟨k, rfl⟩ : ∃ k : Nat, exponent = -k := ⟨exponent.natAbs, by omega⟩
        have hscaled : (n : ℚ) / 2 ^ (-k : Int) = (n * 2 ^ k : Nat) := by
          rw [zpow_neg, div_inv_eq_mul, zpow_natCast]
          push_cast
          rfl
        rw [hscaled, roundEven_natCast, dyadic_shift, Int.add_left_neg, dyadic, zpow_zero, mul_one]
        exact ⟨n, rfl⟩
  obtain ⟨k, hk⟩ := hvalue
  exact ⟨k, whole?_eq_some_iff.mpr ⟨hfinite, by exact_mod_cast hk⟩⟩

/-! ## Operations on full mantissas -/

/-- A number of a positive value with a full mantissa. -/
def IsFull (x : Float) (q : ℚ) : Prop :=
  ∃ mantissa exponent, parts x = .finite false mantissa exponent ∧ hiddenBit ≤ mantissa ∧
    dyadic mantissa exponent = q

theorem IsFull.mul {x y : Float} {q r : ℚ} (hx : IsFull x q) (hy : IsFull y r) :
    x * y = nearestFloat (q * r) := by
  obtain ⟨mantissa, exponent, hpx, hfull, rfl⟩ := hx
  obtain ⟨mantissa', exponent', hpy, hfull', rfl⟩ := hy
  have hpos : 0 < mantissa := Nat.lt_of_lt_of_le (by decide) hfull
  have hpos' : 0 < mantissa' := Nat.lt_of_lt_of_le (by decide) hfull'
  have hproduct : hiddenBit ≤ mantissa * mantissa' := hfull.trans (Nat.le_mul_of_pos_right _ hpos')
  change Float.ofModel (.pack (UnpackedFloat.mul .binary64 x.toModel.unpack y.toModel.unpack)) = _
  rw [unpack_eq, unpack_eq, hpx, hpy, unpacked_of_pos hpos, unpacked_of_pos hpos']
  exact congrArg (fun u => Float.ofModel (.pack u)) (mul_eq hpos hpos' hproduct)

theorem IsFull.div {x y : Float} {q r : ℚ} (hx : IsFull x q) (hy : IsFull y r) :
    x / y = nearestFloat (q / r) := by
  obtain ⟨mantissa, exponent, hpx, hfull, rfl⟩ := hx
  obtain ⟨mantissa', exponent', hpy, hfull', rfl⟩ := hy
  have hpos : 0 < mantissa := Nat.lt_of_lt_of_le (by decide) hfull
  have hpos' : 0 < mantissa' := Nat.lt_of_lt_of_le (by decide) hfull'
  change Float.ofModel (.pack (UnpackedFloat.div .binary64 x.toModel.unpack y.toModel.unpack)) = _
  rw [unpack_eq, unpack_eq, hpx, hpy, unpacked_of_pos hpos, unpacked_of_pos hpos']
  exact congrArg (fun u => Float.ofModel (.pack u)) (div_eq hpos hpos')

/-- Zero stays zero when it is multiplied or divided by a number with a full mantissa. -/
theorem IsFull.zero_mul_div {x y : Float} {r : ℚ} (hx : x.toModel.unpack = .zero .positive)
    (hy : IsFull y r) : x * y = nearestFloat 0 ∧ x / y = nearestFloat 0 := by
  obtain ⟨mantissa, exponent, hparts, hfull, -⟩ := hy
  have hpos : 0 < mantissa := Nat.lt_of_lt_of_le (by decide) hfull
  have hzero : nearestFloat 0 = Float.ofModel (.pack (.zero .positive)) := by
    rw [nearestFloat, nearest_zero]
  constructor
  · change Float.ofModel (.pack (UnpackedFloat.mul .binary64 x.toModel.unpack y.toModel.unpack)) = _
    rw [unpack_eq y, hx, hparts, unpacked_of_pos hpos, hzero]
    rfl
  · change Float.ofModel (.pack (UnpackedFloat.div .binary64 x.toModel.unpack y.toModel.unpack)) = _
    rw [unpack_eq y, hx, hparts, unpacked_of_pos hpos, hzero]
    rfl

/-- A small positive integer is a number with a full mantissa. -/
theorem isFull_toFloat {n : Nat} (hpos : 0 < n) (hsmall : n < 2 * hiddenBit) :
    IsFull n.toUInt64.toFloat n := by
  have hlog : n.log2 ≤ 52 := Nat.le_of_lt_succ ((Nat.log2_lt hpos.ne').mpr hsmall)
  have hvalue : dyadic (n * 2 ^ (52 - n.log2)) ((n.log2 : Int) - 52) = n := by
    have hexponent : (n.log2 : Int) - 52 + (52 - n.log2 : Nat) = 0 := by omega
    rw [dyadic_shift, hexponent, dyadic, zpow_zero, mul_one]
  have hfull : hiddenBit ≤ n * 2 ^ (52 - n.log2) := by
    calc hiddenBit
      _ = 2 ^ n.log2 * 2 ^ (52 - n.log2) := by
          rw [← Nat.pow_add, Nat.add_sub_cancel' hlog]
          rfl
      _ ≤ n * 2 ^ (52 - n.log2) := Nat.mul_le_mul_right _ (Nat.log2_self_le hpos.ne')
  have hfits : n * 2 ^ (52 - n.log2) < 2 * hiddenBit := by
    calc n * 2 ^ (52 - n.log2)
      _ < 2 ^ (n.log2 + 1) * 2 ^ (52 - n.log2) :=
          Nat.mul_lt_mul_of_pos_right Nat.lt_log2_self (Nat.two_pow_pos _)
      _ = 2 * hiddenBit := by
          rw [← Nat.pow_add, Nat.add_right_comm, Nat.add_sub_cancel' hlog]
          rfl
  have hcanonical : Canonical (n * 2 ^ (52 - n.log2)) ((n.log2 : Int) - 52) :=
    ⟨hfits, by omega, by omega, Or.inl hfull⟩
  have hbits : n.toUInt64.toNat = n := Nat.mod_eq_of_lt (hsmall.trans (by decide))
  have hround : UnpackedFloat.ofUInt64 .binary64 n.toUInt64 =
      UnpackedFloat.round .binary64 .positive n 0 := by
    unfold UnpackedFloat.ofUInt64 UnpackedFloat.ofNat UnpackedFloat.ofInt UnpackedFloat.normalize
    rw [hbits, compare_gt_iff_gt.mpr (Int.natCast_pos.mpr hpos)]
    rfl
  have hnumber : n.toUInt64.toFloat =
      ofParts (.finite false (n * 2 ^ (52 - n.log2)) ((n.log2 : Int) - 52)) := by
    change Float.ofModel (.pack (UnpackedFloat.ofUInt64 .binary64 n.toUInt64)) = _
    rw [hround, round_eq hpos, ← nearestFloat, dyadic, zpow_zero, mul_one, ← hvalue,
      nearestFloat_value (parts_ofParts hcanonical)]
  exact ⟨_, _, hnumber ▸ parts_ofParts hcanonical, hfull, hvalue⟩

/-- The stored powers of ten are exact. -/
theorem isFull_powerOfTen (e : Fin 23) :
    IsFull (getElem Float.exactlyRepresentablePowersOfTen e.val e.isLt) (10 ^ e.val) := by
  have htable : ∀ e : Fin 23,
      parts (getElem Float.exactlyRepresentablePowersOfTen e.val e.isLt) =
        .finite false (10 ^ e.val * hiddenBit / 2 ^ (10 ^ e.val).log2)
          (((10 ^ e.val).log2 : Int) - 52) ∧
      hiddenBit ≤ 10 ^ e.val * hiddenBit / 2 ^ (10 ^ e.val).log2 ∧
      2 ^ (10 ^ e.val).log2 ∣ 10 ^ e.val * hiddenBit := by
    decide
  obtain ⟨hparts, hfull, hexact⟩ := htable e
  refine ⟨_, _, hparts, hfull, ?_⟩
  have hhidden : (hiddenBit : ℚ) = 2 ^ (52 : Int) := by norm_num [hiddenBit]
  rw [dyadic, Nat.cast_div hexact (by positivity), Nat.cast_mul, Nat.cast_pow, Nat.cast_pow, hhidden,
    zpow_sub₀ two_ne_zero, zpow_natCast, Nat.cast_ofNat, Nat.cast_ofNat]
  field_simp

/-! ## Decimals -/

/-- Powers of ten with huge exponents are above all numbers. -/
theorem ten_zpow_large {exponent : Int} (h : exponent > 2 ^ 11) :
    (2 : ℚ) ^ (1024 : Int) ≤ 10 ^ exponent := by
  calc (2 : ℚ) ^ (1024 : Int)
    _ ≤ 2 ^ exponent := zpow_le_zpow_right₀ one_le_two (by omega)
    _ ≤ 10 ^ exponent := zpow_le_zpow_left₀ (by omega) zero_le_two (by norm_num)

/-- Digits with a power of ten too small for them are below all numbers. -/
theorem digits_mul_ten_zpow_small {digits : Nat} {exponent : Int}
    (h : exponent < -((2 ^ 11 : Int) + digits.log2)) :
    (digits * 10 ^ exponent : ℚ) < 2 ^ (-1075 : Int) := by
  have hdigits : (digits : ℚ) < 2 ^ (digits.log2 + 1 : Int) := by exact_mod_cast Nat.lt_log2_self
  have hpower : (10 : ℚ) ^ exponent ≤ 2 ^ exponent := by
    have hinverse : (2 : ℚ) ^ (-exponent) ≤ 10 ^ (-exponent) :=
      zpow_le_zpow_left₀ (by omega) zero_le_two (by norm_num)
    have hflip := inv_anti₀ (two_zpow_pos _) hinverse
    rwa [← zpow_neg, ← zpow_neg, neg_neg] at hflip
  calc (digits * 10 ^ exponent : ℚ)
    _ ≤ digits * 2 ^ exponent := mul_le_mul_of_nonneg_left hpower (Nat.cast_nonneg _)
    _ < 2 ^ (digits.log2 + 1 : Int) * 2 ^ exponent :=
        mul_lt_mul_of_pos_right hdigits (two_zpow_pos _)
    _ = 2 ^ (digits.log2 + 1 + exponent : Int) := (zpow_add₀ two_ne_zero _ _).symm
    _ ≤ 2 ^ (-1075 : Int) := zpow_le_zpow_right₀ one_le_two (by omega)

/-- Exact arithmetic gives the number nearest to the value. -/
theorem ofModel_ofScientific (digits : Nat) (exponent : Int) :
    Float.ofModel (Float.Model.ofScientific digits exponent) =
      nearestFloat (digits * 10 ^ exponent) := by
  change Float.ofModel (.pack (UnpackedFloat.ofScientific .binary64 digits exponent)) = _
  unfold UnpackedFloat.ofScientific
  by_cases hzero : digits = 0
  · rw [dif_pos hzero, hzero, Nat.cast_zero, zero_mul, nearestFloat, nearest_zero]
  rw [dif_neg hzero]
  have hpos : 0 < digits := Nat.pos_of_ne_zero hzero
  have hten := ten_zpow_pos exponent
  by_cases hlarge : exponent > 2 ^ 11
  · have hbound : (2 : ℚ) ^ (1024 : Int) ≤ digits * 10 ^ exponent :=
      (ten_zpow_large hlarge).trans (le_mul_of_one_le_left hten.le (Nat.one_le_cast.mpr hpos))
    rw [if_pos hlarge, nearestFloat]
    exact ofModel_pack_congr (pack_nearest_of_large hbound .positive).symm
  rw [if_neg hlarge]
  by_cases hsmall : exponent < -((2 ^ 11 : Int) + digits.log2)
  · have hvalue : (0 : ℚ) < digits * 10 ^ exponent := mul_pos (Nat.cast_pos.mpr hpos) hten
    rw [if_pos hsmall, nearestFloat, nearest_of_small hvalue (digits_mul_ten_zpow_small hsmall)]
  rw [if_neg hsmall]
  have hpower : ∀ n : Nat, dyadic (10 ^ n) 0 = 10 ^ n := fun n => by
    rw [dyadic, zpow_zero, mul_one, Nat.cast_pow, Nat.cast_ofNat]
  by_cases hnonneg : 0 ≤ exponent
  · obtain ⟨n, rfl⟩ := Int.eq_ofNat_of_zero_le hnonneg
    have hshifted : 0 < digits <<< 53 := by
      rw [Nat.shiftLeft_eq]
      exact Nat.mul_pos hpos (by decide)
    have hvalue : dyadic (digits <<< 53) (-53) = digits := by
      rw [Nat.shiftLeft_eq, dyadic_shift, dyadic]
      norm_num
    have hfull : hiddenBit ≤ digits <<< 53 * 10 ^ n := by
      refine Nat.le_trans ?_ (Nat.le_mul_of_pos_right _ (Nat.pow_pos (by decide)))
      rw [Nat.shiftLeft_eq, hiddenBit]
      omega
    have hmul := @mul_eq _ _ (-53) 0 hshifted (Nat.pow_pos (by decide)) hfull
    rw [hvalue, hpower, ← zpow_natCast] at hmul
    rw [if_pos hnonneg]
    exact congrArg (fun u => Float.ofModel (.pack u)) hmul
  · have hexponent : -((-exponent).toNat : Int) = exponent := by omega
    have hdiv := @div_eq _ _ 0 0 hpos (Nat.pow_pos (n := (-exponent).toNat) (by decide : 0 < 10))
    rw [hpower, dyadic, zpow_zero, mul_one, ← zpow_natCast, div_eq_mul_inv, ← zpow_neg,
      hexponent] at hdiv
    rw [if_neg hnonneg]
    exact congrArg (fun u => Float.ofModel (.pack u)) hdiv

/-- Digits with a power of ten are the number nearest to their value, whether they are few or many. -/
theorem ofScientific_eq (digits : Nat) (small : Bool) (places : Nat) :
    Float.ofScientific digits small places =
      nearestFloat (digits * 10 ^ (if small then -(places : Int) else places)) := by
  unfold Float.ofScientific
  by_cases hfast : digits < 2 ^ 53 ∧ places ≤ 22
  · rw [dif_pos hfast]
    have hpower := isFull_powerOfTen ⟨places, Nat.lt_succ_of_le hfast.2⟩
    rcases digits.eq_zero_or_pos with rfl | hpos
    · obtain ⟨hmul, hdiv⟩ :=
        IsFull.zero_mul_div (x := (Nat.toUInt64 0).toFloat) rfl hpower
      rw [Nat.cast_zero, zero_mul]
      cases small with
      | false => exact hmul
      | true => exact hdiv
    · have hdigits := isFull_toFloat hpos hfast.1
      cases small with
      | false => exact hdigits.mul hpower
      | true =>
        rw [if_pos rfl, if_pos rfl, zpow_neg, ← div_eq_mul_inv]
        exact hdigits.div hpower
  · rw [dif_neg hfast]
    cases small with
    | false => exact ofModel_ofScientific digits places
    | true =>
      have hexponent : Int.negOfNat places = -(places : Int) := Int.negOfNat_eq
      rw [if_pos rfl, if_pos rfl, ← ofModel_ofScientific, ← hexponent]

/-- The number of a decimal is the one nearest to its value. -/
theorem Decimal.toFloat_eq (d : Decimal) : d.toFloat = nearestFloat d.value := by
  obtain ⟨digits, exponent⟩ := d
  unfold Decimal.toFloat Decimal.value
  split
  · rename_i hnonneg
    rw [ofScientific_eq, if_neg Bool.false_ne_true, Int.toNat_of_nonneg hnonneg]
  · rename_i hneg
    have hplaces : 0 ≤ -exponent := Int.neg_nonneg_of_nonpos (Int.le_of_lt (Int.not_le.mp hneg))
    rw [ofScientific_eq, if_pos rfl, Int.toNat_of_nonneg hplaces, neg_neg]

/-! ## The shortest decimal -/

/-- Dropping zeros at the end of the digits keeps the value. -/
theorem value_trimZeros (d : Decimal) : d.trimZeros.value = d.value := by
  have hgo : ∀ (fuel digits : Nat) (exponent : Int),
      (Decimal.trimZeros.go digits exponent fuel).value = Decimal.value ⟨digits, exponent⟩ := by
    intro fuel
    induction fuel with
    | zero => exact fun digits exponent => rfl
    | succ fuel ih =>
      intro digits exponent
      rw [Decimal.trimZeros.go]
      split
      · rename_i hzero
        have hdigits : (digits : ℚ) = 10 * (digits / 10 : Nat) := by
          exact_mod_cast (Nat.mul_div_cancel' (Nat.dvd_of_mod_eq_zero hzero)).symm
        rw [ih, Decimal.value, Decimal.value, hdigits, zpow_add_one₀ (by norm_num)]
        ring
      · rfl
  unfold Decimal.trimZeros
  split
  · rename_i hzero
    rw [Decimal.value, Decimal.value, hzero, Nat.cast_zero, zero_mul, zero_mul]
  · exact hgo _ _ _

/-- Every digit of a number together is its value. -/
theorem value_exactDecimal (mantissa : Nat) (exponent : Int) :
    (exactDecimal mantissa exponent).value = dyadic mantissa exponent := by
  have hpow : ∀ b n : Nat, ((Nat.pow b n : Nat) : ℚ) = b ^ n := Nat.cast_pow
  unfold exactDecimal
  split
  · rename_i hnonneg
    obtain ⟨n, rfl⟩ := Int.eq_ofNat_of_zero_le hnonneg
    rw [Decimal.value, dyadic, zpow_zero, mul_one, Nat.cast_mul, hpow, Int.toNat_natCast, zpow_natCast,
      Nat.cast_ofNat]
  · obtain ⟨n, rfl⟩ : ∃ n : Nat, exponent = -n := ⟨exponent.natAbs, by omega⟩
    have hexponent : (- -(n : Int)).toNat = n := by omega
    have hten : (10 : ℚ) ^ n = 5 ^ n * 2 ^ n := by
      rw [← mul_pow]
      norm_num
    rw [Decimal.value, dyadic, hexponent, zpow_neg, zpow_neg, zpow_natCast, zpow_natCast, Nat.cast_mul,
      hpow, Nat.cast_ofNat, hten]
    field_simp

/-- The shortest decimal of a positive number reads back. -/
theorem toFloat_shortestOf {x : Float} {mantissa : Nat} {exponent : Int}
    (h : parts x = .finite false mantissa exponent) (hpos : 0 < mantissa) :
    (shortestOf x mantissa exponent).toFloat = x := by
  have hfinite : x.isFinite = true := isFinite_iff.mpr ⟨_, _, _, h⟩
  have hne : value x ≠ 0 := by
    rw [value, h]
    exact (dyadic_pos hpos exponent).ne'
  unfold shortestOf
  dsimp only
  cases hfound : (List.range' 1 17).findSome? fun count =>
      (neighbours mantissa exponent count).find? fun d => d.toFloat == x with
  | none =>
    -- no decimal of few digits is this number, so all its digits are written
    rw [Option.getD_none, Decimal.toFloat_eq, value_exactDecimal, nearestFloat_value h]
  | some d =>
    obtain ⟨count, -, hcount⟩ := List.exists_of_findSome?_eq_some hfound
    have hbeq := List.find?_some hcount
    exact eq_of_beq hfinite hne hbeq

end CatalogSearch.Number
