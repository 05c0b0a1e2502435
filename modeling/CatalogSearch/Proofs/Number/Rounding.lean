import CatalogSearch.Proofs.Number.Value
import Mathlib.Data.Int.Log
import Mathlib.Data.Rat.Floor
import Mathlib.Tactic.FieldSimp
import Mathlib.Tactic.Linarith
import Mathlib.Tactic.NormNum

/-!
# Rounding

Arithmetic keeps a mantissa with a round bit and a sticky bit, and rounds once.  What it gives depends
on the rational alone that these stand for: the rational is rounded at its last place to the nearest
mantissa, a tie to the even one.  A rational that is the value of a number is rounded to it.
-/

set_option autoImplicit false

namespace CatalogSearch.Number

open Float.Model Float.Model.UnpackedFloat

/-! ## Residual bits -/

/-- What a mantissa with its residual bits stands for. -/
def Stands (em : ExtendedMantissa) (t : ℚ) : Prop :=
  match em.roundBit, em.stickyBit with
  | false, false => t = em.mantissa
  | false, true => em.mantissa < t ∧ t < em.mantissa + 1 / 2
  | true, false => t = em.mantissa + 1 / 2
  | true, true => em.mantissa + 1 / 2 < t ∧ t < em.mantissa + 1

/-- The nearest natural number; a tie goes to the even one. -/
def roundEven (t : ℚ) : Nat :=
  if t < ⌊t⌋₊ + 1 / 2 then ⌊t⌋₊
  else if t = ⌊t⌋₊ + 1 / 2 then ⌊t⌋₊ + ⌊t⌋₊ % 2
  else ⌊t⌋₊ + 1

theorem Stands.bounds {em : ExtendedMantissa} {t : ℚ} (h : Stands em t) :
    (em.mantissa : ℚ) ≤ t ∧ t < em.mantissa + 1 := by
  obtain ⟨mantissa, roundBit, stickyBit⟩ := em
  cases roundBit with
  | false =>
    cases stickyBit with
    | false => exact ⟨h.ge, by linarith [show t = mantissa from h]⟩
    | true => exact ⟨h.1.le, by linarith [h.2]⟩
  | true =>
    cases stickyBit with
    | false => constructor <;> linarith [show t = mantissa + 1 / 2 from h]
    | true => exact ⟨by linarith [h.1], h.2⟩

theorem Stands.floor {em : ExtendedMantissa} {t : ℚ} (h : Stands em t) : ⌊t⌋₊ = em.mantissa := by
  obtain ⟨hlow, hhigh⟩ := h.bounds
  exact (Nat.floor_eq_iff ((Nat.cast_nonneg _).trans hlow)).mpr ⟨hlow, hhigh⟩

/-- The residual bits say how to round. -/
theorem Stands.roundedMantissa {em : ExtendedMantissa} {t : ℚ} (h : Stands em t) :
    em.roundedMantissa = roundEven t := by
  have hfloor := h.floor
  obtain ⟨mantissa, roundBit, stickyBit⟩ := em
  rw [roundEven, hfloor]
  cases roundBit with
  | false =>
    have hlt : t < mantissa + 1 / 2 := by
      cases stickyBit with
      | false => linarith [show t = mantissa from h]
      | true => exact h.2
    rw [if_pos hlt]
    cases stickyBit with
    | false => rfl
    | true => rfl
  | true =>
    cases stickyBit with
    | false =>
      have heq : t = mantissa + 1 / 2 := h
      rw [if_neg heq.not_lt, if_pos heq]
      rfl
    | true =>
      rw [if_neg h.1.not_gt, if_neg h.1.ne']
      rfl

/-- Shifting out a bit halves. -/
theorem Stands.shiftRightOne {em : ExtendedMantissa} {t : ℚ} (h : Stands em t) :
    Stands em.shiftRightOne (t / 2) := by
  obtain ⟨mantissa, roundBit, stickyBit⟩ := em
  obtain ⟨half, heven | hodd⟩ := mantissa.even_or_odd'
  · have hquotient : mantissa / 2 = half := by omega
    have hbit : (mantissa % 2 != 0) = false := by rw [heven, Nat.mul_mod_right]; rfl
    have hcast : (mantissa : ℚ) = 2 * half := by rw [heven]; push_cast; rfl
    rw [ExtendedMantissa.shiftRightOne]
    simp only [hquotient, hbit]
    cases roundBit with
    | false =>
      cases stickyBit with
      | false =>
        have heq : t = mantissa := h
        change t / 2 = half
        linarith
      | true => exact ⟨by linarith [h.1], by linarith [h.2]⟩
    | true =>
      cases stickyBit with
      | false =>
        have heq : t = mantissa + 1 / 2 := h
        exact ⟨by linarith, by linarith⟩
      | true => exact ⟨by linarith [h.1], by linarith [h.2]⟩
  · have hquotient : mantissa / 2 = half := by omega
    have hbit : (mantissa % 2 != 0) = true := by
      rw [hodd, bne_iff_ne]
      omega
    have hcast : (mantissa : ℚ) = 2 * half + 1 := by rw [hodd]; push_cast; rfl
    rw [ExtendedMantissa.shiftRightOne]
    simp only [hquotient, hbit]
    cases roundBit with
    | false =>
      cases stickyBit with
      | false =>
        have heq : t = mantissa := h
        change t / 2 = half + 1 / 2
        linarith
      | true => exact ⟨by linarith [h.1], by linarith [h.2]⟩
    | true =>
      cases stickyBit with
      | false =>
        have heq : t = mantissa + 1 / 2 := h
        exact ⟨by linarith, by linarith⟩
      | true => exact ⟨by linarith [h.1], by linarith [h.2]⟩

/-- Shifting out bits divides by a power of two. -/
theorem Stands.shiftRight {em : ExtendedMantissa} {t : ℚ} (h : Stands em t) (n : Nat) :
    Stands (em >>> n) (t / 2 ^ n) := by
  change Stands (n.repeat ExtendedMantissa.shiftRightOne em) _
  induction n with
  | zero =>
    rw [pow_zero, div_one]
    exact h
  | succ n ih =>
    rw [pow_succ, ← div_div]
    exact ih.shiftRightOne

/-! ## Rounding at the last place -/

/-- The exponent that a number next to a positive rational has. -/
def place (q : ℚ) : Int := max (Int.log 2 q - 52) (-1074)

/-- A mantissa that rounding may have carried over, with its exponent. -/
def carried (sign : Sign) (mantissa : Nat) (exponent : Int) : UnpackedFloat :=
  if mantissa = 2 * hiddenBit then .finite sign hiddenBit (exponent + 1) (by decide)
  else if h : mantissa = 0 then .zero sign
  else .finite sign mantissa exponent (Nat.pos_of_ne_zero h)

/-- A positive rational rounded at its last place. -/
def nearest (sign : Sign) (q : ℚ) : UnpackedFloat :=
  carried sign (roundEven (q / 2 ^ place q)) (place q)

theorem targetExponent_eq (mantissa : Nat) (exponent : Int) :
    Format.binary64.targetExponent (totalExponent mantissa exponent) =
      max (mantissa.log2 + exponent - 52) (-1074) := by
  unfold Format.targetExponent totalExponent
  change max ((mantissa.log2 : Int) + 1 + exponent - 53) (-1074) = _
  omega

/-- The logarithm of a rational with this mantissa in front. -/
theorem log_eq {mantissa : Nat} {exponent : Int} {q : ℚ} (hpos : 0 < mantissa)
    (hlow : dyadic mantissa exponent ≤ q) (hhigh : q < dyadic (mantissa + 1) exponent) :
    Int.log 2 q = mantissa.log2 + exponent := by
  have hq : 0 < q := (dyadic_pos hpos exponent).trans_le hlow
  have hbelow : ((2 : ℕ) : ℚ) ^ (mantissa.log2 + exponent : Int) ≤ q := by
    refine le_trans ?_ hlow
    rw [Nat.cast_ofNat, zpow_add₀ two_ne_zero, zpow_natCast]
    refine mul_le_mul_of_nonneg_right ?_ (two_zpow_pos exponent).le
    exact_mod_cast Nat.log2_self_le hpos.ne'
  have habove : q < ((2 : ℕ) : ℚ) ^ (mantissa.log2 + exponent + 1 : Int) := by
    refine hhigh.trans_le ?_
    have hexp : (mantissa.log2 + exponent + 1 : Int) = (mantissa.log2 + 1 : Nat) + exponent := by
      push_cast
      ring
    rw [hexp, Nat.cast_ofNat, zpow_add₀ two_ne_zero, zpow_natCast]
    refine mul_le_mul_of_nonneg_right ?_ (two_zpow_pos exponent).le
    exact_mod_cast Nat.lt_log2_self
  have hle := (Int.zpow_le_iff_le_log (by decide) hq).mp hbelow
  have hlt := (Int.lt_zpow_iff_log_lt (by decide) hq).mp habove
  omega

/-- A rational below its last place, in units of that place. -/
theorem scaled_lt (q : ℚ) : q / 2 ^ place q < 2 * hiddenBit := by
  have hlog : q < ((2 : ℕ) : ℚ) ^ (Int.log 2 q + 1) := Int.lt_zpow_succ_log_self (by decide) q
  have hplace : (2 : ℚ) ^ (Int.log 2 q + 1) ≤ 2 ^ (53 + place q) :=
    zpow_le_zpow_right₀ one_le_two (by unfold place; omega)
  rw [div_lt_iff₀ (two_zpow_pos _)]
  calc q
    _ < 2 ^ (Int.log 2 q + 1) := hlog
    _ ≤ 2 ^ (53 + place q) := hplace
    _ = 2 * hiddenBit * 2 ^ place q := by
        rw [zpow_add₀ two_ne_zero]
        norm_num [hiddenBit]

/-- A mantissa and an exponent, with what is known of the rest, read a rational. -/
def Reads (mantissa : Nat) (exponent : Int) (accuracy : Accuracy) (q : ℚ) : Prop :=
  Stands (.ofMantissaAndAccuracy mantissa accuracy) (q / 2 ^ exponent)

theorem mantissa_ofMantissaAndAccuracy (mantissa : Nat) (accuracy : Accuracy) :
    (ExtendedMantissa.ofMantissaAndAccuracy mantissa accuracy).mantissa = mantissa := by
  cases accuracy with
  | exact => rfl
  | inexact relative => cases relative <;> rfl

theorem Reads.bounds {mantissa : Nat} {exponent : Int} {accuracy : Accuracy} {q : ℚ}
    (h : Reads mantissa exponent accuracy q) :
    dyadic mantissa exponent ≤ q ∧ q < dyadic (mantissa + 1) exponent := by
  obtain ⟨hlow, hhigh⟩ := Stands.bounds h
  rw [mantissa_ofMantissaAndAccuracy] at hlow hhigh
  refine ⟨(le_div_iff₀ (two_zpow_pos exponent)).mp hlow, ?_⟩
  rw [dyadic, Nat.cast_add, Nat.cast_one]
  exact (div_lt_iff₀ (two_zpow_pos exponent)).mp hhigh

/-- The exponent that arithmetic chooses is that of the last place. -/
theorem Reads.targetExponent {mantissa : Nat} {exponent : Int} {accuracy : Accuracy} {q : ℚ}
    (h : Reads mantissa exponent accuracy q) (hq : 0 < q) (hplace : exponent ≤ place q) :
    Format.binary64.targetExponent (totalExponent mantissa exponent) = place q := by
  obtain ⟨hlow, hhigh⟩ := h.bounds
  rw [targetExponent_eq]
  rcases mantissa.eq_zero_or_pos with rfl | hpos
  · -- nothing is known but that the rational is below the unit, which is then the least one
    rw [zero_add, dyadic, Nat.cast_one, one_mul] at hhigh
    have hlog : Int.log 2 q < exponent :=
      (Int.lt_zpow_iff_log_lt (by decide) hq).mp (by exact_mod_cast hhigh)
    have hzero : Nat.log2 0 = 0 := by decide
    unfold place at hplace ⊢
    rw [hzero]
    omega
  · rw [place, log_eq hpos hlow hhigh]

/-- Bits are shifted out up to the exponent that arithmetic chooses. -/
theorem shiftToTargetExponent_eq (mantissa n : Nat) (exponent : Int) (accuracy : Accuracy)
    (h : (Format.binary64.targetExponent (totalExponent mantissa exponent) - exponent).toNat = n) :
    shiftToTargetExponent .binary64 mantissa exponent accuracy =
      (ExtendedMantissa.ofMantissaAndAccuracy mantissa accuracy >>> n, exponent + n) := by
  rw [← h]
  rfl

/-- A mantissa that was carried over has one bit shifted out. -/
theorem shiftToTargetExponent_of_carry {exponent : Int} (hlow : -1074 ≤ exponent) :
    shiftToTargetExponent .binary64 (2 * hiddenBit) exponent .exact =
      (⟨hiddenBit, false, false⟩, exponent + 1) := by
  have hlog : (2 * hiddenBit).log2 = 53 := by decide
  refine shiftToTargetExponent_eq _ 1 exponent .exact ?_
  rw [targetExponent_eq, hlog]
  omega

/-- A mantissa that fits stays as it is. -/
theorem shiftToTargetExponent_of_fits {mantissa : Nat} {exponent : Int}
    (hfits : mantissa < 2 * hiddenBit) (hlow : -1074 ≤ exponent) :
    shiftToTargetExponent .binary64 mantissa exponent .exact =
      (⟨mantissa, false, false⟩, exponent) := by
  have hlog : mantissa.log2 ≤ 52 := by
    rcases mantissa.eq_zero_or_pos with rfl | hpos
    · decide
    · exact Nat.le_of_lt_succ ((Nat.log2_lt hpos.ne').mpr hfits)
  have hshift := shiftToTargetExponent_eq mantissa 0 exponent .exact
    (by rw [targetExponent_eq]; omega)
  rw [hshift]
  exact congrArg (Prod.mk _) (Int.add_zero exponent)

theorem roundEven_le {t : ℚ} {bound : Nat} (hpos : 0 < bound) (h : t < bound) :
    roundEven t ≤ bound := by
  have hfloor : ⌊t⌋₊ < bound := (Nat.floor_lt' hpos.ne').mpr h
  unfold roundEven
  split
  · exact hfloor.le
  · split
    · omega
    · omega

/-- Rounding depends on the rational alone that is read, if the exponent is not above its last place. -/
theorem roundWithAccuracy_eq {mantissa : Nat} {exponent : Int} {accuracy : Accuracy} {q : ℚ}
    (h : Reads mantissa exponent accuracy q) (hq : 0 < q) (hplace : exponent ≤ place q) (sign : Sign) :
    roundWithAccuracy .binary64 sign mantissa exponent accuracy = nearest sign q := by
  have htarget := h.targetExponent hq hplace
  obtain ⟨n, hn⟩ : ∃ n : Nat, place q = exponent + n :=
    ⟨(place q - exponent).toNat, by omega⟩
  have hshift := shiftToTargetExponent_eq mantissa n exponent accuracy (by rw [htarget, hn]; omega)
  have hrounded : (ExtendedMantissa.ofMantissaAndAccuracy mantissa accuracy >>> n).roundedMantissa =
      roundEven (q / 2 ^ place q) := by
    rw [(Stands.shiftRight h n).roundedMantissa, hn, zpow_add₀ two_ne_zero, zpow_natCast, div_div]
  have hle : roundEven (q / 2 ^ place q) ≤ 2 * hiddenBit :=
    roundEven_le (by decide) (by exact_mod_cast scaled_lt q)
  have hlow : -1074 ≤ place q := le_max_right _ _
  unfold roundWithAccuracy nearest
  rw [hshift]
  dsimp only
  rw [hrounded, ← hn]
  rcases hle.lt_or_eq with hfits | hcarry
  · rw [shiftToTargetExponent_of_fits hfits hlow, carried, if_neg hfits.ne]
  · rw [hcarry, shiftToTargetExponent_of_carry hlow, carried, if_pos rfl]
    rfl

/-! ## Values of numbers, and values beyond them -/

theorem log_dyadic {mantissa : Nat} (hpos : 0 < mantissa) (exponent : Int) :
    Int.log 2 (dyadic mantissa exponent) = mantissa.log2 + exponent := by
  have hlt : dyadic mantissa exponent < dyadic (mantissa + 1) exponent :=
    mul_lt_mul_of_pos_right (Nat.cast_lt.mpr mantissa.lt_succ_self) (two_zpow_pos exponent)
  exact log_eq hpos le_rfl hlt

/-- A full mantissa reaches down to the last place. -/
theorem le_place_of_full {mantissa : Nat} (hfull : hiddenBit ≤ mantissa) (exponent : Int) :
    exponent ≤ place (dyadic mantissa exponent) := by
  have hpos : 0 < mantissa := Nat.lt_of_lt_of_le (by decide) hfull
  have hlog : 52 ≤ mantissa.log2 := (Nat.le_log2 hpos.ne').mpr hfull
  rw [place, log_dyadic hpos]
  omega

/-- The last place of the value of a number is its exponent. -/
theorem place_dyadic {mantissa : Nat} {exponent : Int} (h : Canonical mantissa exponent)
    (hpos : 0 < mantissa) : place (dyadic mantissa exponent) = exponent := by
  have hlog : mantissa.log2 ≤ 52 := Nat.le_of_lt_succ ((Nat.log2_lt hpos.ne').mpr h.small)
  have hlow := h.low
  rcases h.full with hfull | hleast
  · have hlog' : 52 ≤ mantissa.log2 := (Nat.le_log2 hpos.ne').mpr hfull
    rw [place, log_dyadic hpos]
    omega
  · rw [place, log_dyadic hpos]
    omega

theorem roundEven_natCast (n : Nat) : roundEven n = n := by
  have hlt : (n : ℚ) < n + 1 / 2 := by linarith
  rw [roundEven, Nat.floor_natCast, if_pos hlt]

/-- The value of a number is rounded to it. -/
theorem nearest_dyadic {mantissa : Nat} {exponent : Int} (h : Canonical mantissa exponent)
    (hpos : 0 < mantissa) (sign : Sign) :
    nearest sign (dyadic mantissa exponent) = .finite sign mantissa exponent hpos := by
  rw [nearest, place_dyadic h hpos, dyadic, mul_div_cancel_right₀ _ (two_zpow_pos exponent).ne',
    roundEven_natCast, carried, if_neg h.small.ne, dif_neg hpos.ne']

/-- What is below half of the least number is rounded to zero. -/
theorem nearest_of_small {q : ℚ} (hq : 0 < q) (hsmall : q < 2 ^ (-1075 : Int)) (sign : Sign) :
    nearest sign q = .zero sign := by
  have hlog : Int.log 2 q < -1075 :=
    (Int.lt_zpow_iff_log_lt (by decide) hq).mp (by exact_mod_cast hsmall)
  have hplace : place q = -1074 := by
    unfold place
    omega
  have hhalf : q / 2 ^ (-1074 : Int) < 1 / 2 := by
    rw [div_lt_iff₀ (two_zpow_pos _)]
    have hpower : (1 / 2 : ℚ) * 2 ^ (-1074 : Int) = 2 ^ (-1075 : Int) := by
      rw [show (-1074 : Int) = -1075 + 1 from rfl, zpow_add_one₀ two_ne_zero]
      ring
    rw [hpower]
    exact hsmall
  have hfloor : ⌊q / 2 ^ (-1074 : Int)⌋₊ = 0 := Nat.floor_eq_zero.mpr (by linarith)
  have hround : roundEven (q / 2 ^ (-1074 : Int)) = 0 := by
    rw [roundEven, hfloor, if_pos (by rw [Nat.cast_zero, zero_add]; exact hhalf)]
  rw [nearest, hplace, hround]
  rfl

theorem floor_le_roundEven (t : ℚ) : ⌊t⌋₊ ≤ roundEven t := by
  unfold roundEven
  split
  · exact le_rfl
  · split
    · omega
    · omega

/-- A rational has a full mantissa, unless its last place is the least one. -/
theorem full_roundEven {q : ℚ} (hq : 0 < q) :
    hiddenBit ≤ roundEven (q / 2 ^ place q) ∨ place q = -1074 := by
  by_cases hleast : place q = -1074
  · exact Or.inr hleast
  · have hlog : Int.log 2 q = 52 + place q := by
      unfold place at hleast ⊢
      omega
    have hlow : ((2 : ℕ) : ℚ) ^ Int.log 2 q ≤ q := Int.zpow_log_le_self (by decide) hq
    have hscaled : (hiddenBit : ℚ) ≤ q / 2 ^ place q := by
      rw [le_div_iff₀ (two_zpow_pos _)]
      refine le_trans (le_of_eq ?_) hlow
      rw [hlog, Nat.cast_ofNat, zpow_add₀ two_ne_zero]
      norm_num [hiddenBit]
    exact Or.inl ((Nat.le_floor hscaled).trans (floor_le_roundEven _))

/-- A rounded rational is zero, or it is in canonical form or too large. -/
theorem nearest_cases {q : ℚ} (hq : 0 < q) (sign : Sign) :
    (nearest sign q = .zero sign ∧ roundEven (q / 2 ^ place q) = 0) ∨
      ∃ mantissa exponent, ∃ hpos : 0 < mantissa,
        nearest sign q = .finite sign mantissa exponent hpos ∧
          (Canonical mantissa exponent ∨ 972 ≤ exponent) ∧
          dyadic mantissa exponent = dyadic (roundEven (q / 2 ^ place q)) (place q) := by
  have hle : roundEven (q / 2 ^ place q) ≤ 2 * hiddenBit :=
    roundEven_le (by decide) (by exact_mod_cast scaled_lt q)
  have hlow : -1074 ≤ place q := le_max_right _ _
  have hfull := full_roundEven hq
  rw [nearest, carried]
  by_cases hcarry : roundEven (q / 2 ^ place q) = 2 * hiddenBit
  · rw [if_pos hcarry, hcarry]
    refine Or.inr ⟨hiddenBit, place q + 1, by decide, rfl, ?_, ?_⟩
    · by_cases hlarge : 972 ≤ place q + 1
      · exact Or.inr hlarge
      · exact Or.inl ⟨by decide, by omega, by omega, Or.inl le_rfl⟩
    · rw [Nat.mul_comm, ← pow_one 2, dyadic_shift]
      rfl
  · rw [if_neg hcarry]
    by_cases hzero : roundEven (q / 2 ^ place q) = 0
    · rw [dif_pos hzero]
      exact Or.inl ⟨rfl, hzero⟩
    · rw [dif_neg hzero]
      refine Or.inr ⟨_, _, Nat.pos_of_ne_zero hzero, rfl, ?_, rfl⟩
      by_cases hlarge : 972 ≤ place q
      · exact Or.inr hlarge
      · exact Or.inl ⟨lt_of_le_of_ne hle hcarry, hlow, by omega, hfull⟩

theorem pack_of_large {mantissa : Nat} {exponent : Int} (h : 972 ≤ exponent) (hpos : 0 < mantissa)
    (sign : Sign) :
    UnpackedFloat.pack .binary64 (.finite sign mantissa exponent hpos) =
      UnpackedFloat.pack .binary64 (.infinity sign) := by
  have hbiased : 2 ^ 11 ≤ (exponent + 1023 + (52 : Nat)).toNat + 1 := by omega
  exact if_pos hbiased

/-- What is above all numbers is stored as infinity. -/
theorem pack_nearest_of_large {q : ℚ} (hlarge : 2 ^ (1024 : Int) ≤ q) (sign : Sign) :
    UnpackedFloat.pack .binary64 (nearest sign q) =
      UnpackedFloat.pack .binary64 (.infinity sign) := by
  have hq : 0 < q := (two_zpow_pos 1024).trans_le hlarge
  have hlog : 1024 ≤ Int.log 2 q :=
    (Int.zpow_le_iff_le_log (by decide) hq).mp (by exact_mod_cast hlarge)
  have hplace : 972 ≤ place q := by
    unfold place
    omega
  have hround : roundEven (q / 2 ^ place q) ≠ 0 := by
    have hone : 1 ≤ q / 2 ^ place q := by
      rw [one_le_div (two_zpow_pos _)]
      have hlow : ((2 : ℕ) : ℚ) ^ Int.log 2 q ≤ q := Int.zpow_log_le_self (by decide) hq
      refine le_trans (zpow_le_zpow_right₀ one_le_two ?_) hlow
      unfold place
      omega
    have hfloor : 1 ≤ ⌊q / 2 ^ place q⌋₊ := (Nat.one_le_floor_iff _).mpr hone
    exact Nat.ne_of_gt (hfloor.trans (floor_le_roundEven _))
  rw [nearest, carried]
  by_cases hcarry : roundEven (q / 2 ^ place q) = 2 * hiddenBit
  · rw [if_pos hcarry]
    exact pack_of_large (by omega) _ sign
  · rw [if_neg hcarry, dif_neg hround]
    exact pack_of_large hplace _ sign

/-! ## Operations -/

theorem reads_exact (mantissa : Nat) (exponent : Int) :
    Reads mantissa exponent .exact (dyadic mantissa exponent) :=
  mul_div_cancel_right₀ _ (two_zpow_pos exponent).ne'

/-- Rounding a mantissa at an exponent. -/
theorem round_eq {mantissa : Nat} (hpos : 0 < mantissa) (exponent : Int) (sign : Sign) :
    UnpackedFloat.round .binary64 sign mantissa exponent = nearest sign (dyadic mantissa exponent) := by
  have htarget : Format.binary64.targetExponent (totalExponent mantissa exponent) =
      place (dyadic mantissa exponent) := by
    rw [targetExponent_eq, place, log_dyadic hpos]
  unfold UnpackedFloat.round decreaseExponent
  rw [htarget]
  dsimp only
  generalize hn : (exponent - place (dyadic mantissa exponent)).toNat = n
  have hvalue : dyadic (mantissa <<< n) (exponent - n) = dyadic mantissa exponent := by
    rw [Nat.shiftLeft_eq, dyadic_shift, Int.sub_add_cancel]
  have hreads := reads_exact (mantissa <<< n) (exponent - n)
  rw [hvalue] at hreads
  exact roundWithAccuracy_eq hreads (dyadic_pos hpos exponent) (by omega) sign

/-- A product is the rounded product of the values, if the mantissas are long enough. -/
theorem mul_eq {mantissa mantissa' : Nat} {exponent exponent' : Int} (hpos : 0 < mantissa)
    (hpos' : 0 < mantissa') (hfull : hiddenBit ≤ mantissa * mantissa') :
    UnpackedFloat.mul .binary64 (.finite .positive mantissa exponent hpos)
        (.finite .positive mantissa' exponent' hpos') =
      nearest .positive (dyadic mantissa exponent * dyadic mantissa' exponent') := by
  have hproduct : dyadic mantissa exponent * dyadic mantissa' exponent' =
      dyadic (mantissa * mantissa') (exponent + exponent') := by
    rw [dyadic, dyadic, dyadic, Nat.cast_mul, zpow_add₀ two_ne_zero]
    ring
  rw [hproduct]
  exact roundWithAccuracy_eq (reads_exact _ _) (dyadic_pos (Nat.mul_pos hpos hpos') _)
    (le_place_of_full hfull _) _

/-- A fraction as its quotient and what is known of the rest. -/
theorem stands_div (n : Nat) {d : Nat} (hd : 0 < d) :
    Stands (.ofMantissaAndAccuracy (n / d) (accuracyOfFraction (n % d) d)) ((n : ℚ) / d) := by
  have hcast : (0 : ℚ) < d := Nat.cast_pos.mpr hd
  have hsplit : (n : ℚ) / d = (n / d : Nat) + (n % d : Nat) / d := by
    rw [eq_comm, ← mul_right_cancel_iff_of_pos hcast, add_mul, div_mul_cancel₀ _ hcast.ne',
      div_mul_cancel₀ _ hcast.ne']
    exact_mod_cast Nat.div_add_mod' n d
  have hrest : ((n % d : Nat) : ℚ) / d < 1 :=
    (div_lt_one hcast).mpr (Nat.cast_lt.mpr (Nat.mod_lt n hd))
  rw [hsplit, accuracyOfFraction]
  split
  · rename_i hzero
    rw [hzero, Nat.cast_zero, zero_div, add_zero]
    rfl
  · rename_i hrest'
    have hpos : (0 : ℚ) < (n % d : Nat) / d :=
      div_pos (Nat.cast_pos.mpr (Nat.pos_of_ne_zero hrest')) hcast
    rcases lt_trichotomy (2 * (n % d)) d with hlt | heq | hgt
    · rw [compare_lt_iff_lt.mpr hlt]
      have hhalf : ((n % d : Nat) : ℚ) / d < 1 / 2 := by
        rw [div_lt_iff₀ hcast]
        have : (2 : ℚ) * (n % d : Nat) < d := by exact_mod_cast hlt
        linarith
      exact ⟨lt_add_of_pos_right _ hpos, (add_lt_add_iff_left _).mpr hhalf⟩
    · rw [compare_eq_iff_eq.mpr heq]
      have hhalf : ((n % d : Nat) : ℚ) / d = 1 / 2 := by
        rw [div_eq_iff hcast.ne']
        have : (2 : ℚ) * (n % d : Nat) = d := by exact_mod_cast heq
        linarith
      exact congrArg _ hhalf
    · rw [compare_gt_iff_gt.mpr hgt]
      have hhalf : 1 / 2 < ((n % d : Nat) : ℚ) / d := by
        rw [lt_div_iff₀ hcast]
        have : (d : ℚ) < 2 * (n % d : Nat) := by exact_mod_cast hgt
        linarith
      exact ⟨(add_lt_add_iff_left _).mpr hhalf, (add_lt_add_iff_left _).mpr hrest⟩

/-- The logarithm of a quotient is not far below the difference of the logarithms. -/
theorem le_log_div {q r : ℚ} (hq : 0 < q) (hr : 0 < r) :
    Int.log 2 q - Int.log 2 r - 1 ≤ Int.log 2 (q / r) := by
  have hlow : ((2 : ℕ) : ℚ) ^ Int.log 2 q ≤ q := Int.zpow_log_le_self (by decide) hq
  have hhigh : r < ((2 : ℕ) : ℚ) ^ (Int.log 2 r + 1) := Int.lt_zpow_succ_log_self (by decide) r
  refine (Int.zpow_le_iff_le_log (by decide) (div_pos hq hr)).mp ?_
  rw [Nat.cast_ofNat] at hlow hhigh ⊢
  rw [le_div_iff₀ hr]
  calc (2 : ℚ) ^ (Int.log 2 q - Int.log 2 r - 1) * r
    _ ≤ 2 ^ (Int.log 2 q - Int.log 2 r - 1) * 2 ^ (Int.log 2 r + 1) :=
        mul_le_mul_of_nonneg_left hhigh.le (two_zpow_pos _).le
    _ = 2 ^ Int.log 2 q := by
        rw [← zpow_add₀ two_ne_zero]
        congr 1
        ring
    _ ≤ q := hlow

/-- A quotient is the rounded quotient of the values. -/
theorem div_eq {mantissa mantissa' : Nat} {exponent exponent' : Int} (hpos : 0 < mantissa)
    (hpos' : 0 < mantissa') :
    UnpackedFloat.div .binary64 (.finite .positive mantissa exponent hpos)
        (.finite .positive mantissa' exponent' hpos') =
      nearest .positive (dyadic mantissa exponent / dyadic mantissa' exponent') := by
  have hlog := le_log_div (dyadic_pos hpos exponent) (dyadic_pos hpos' exponent')
  rw [log_dyadic hpos, log_dyadic hpos'] at hlog
  have htarget : Format.binary64.targetExponent
      (totalExponent mantissa exponent - totalExponent mantissa' exponent') ≤
        place (dyadic mantissa exponent / dyadic mantissa' exponent') := by
    change max ((mantissa.log2 + 1 + exponent - (mantissa'.log2 + 1 + exponent') : Int) - 53)
      (-1074) ≤ _
    unfold place
    omega
  delta UnpackedFloat.div divCore
  dsimp only
  generalize hunit : min (exponent - exponent') (Format.binary64.targetExponent
    (totalExponent mantissa exponent - totalExponent mantissa' exponent')) = unit
  generalize hn : (exponent - exponent' - unit).toNat = n
  have hexponent : exponent = exponent' + unit + n := by omega
  have hvalue : dyadic mantissa exponent / dyadic mantissa' exponent' / 2 ^ unit =
      ((mantissa <<< n : Nat) : ℚ) / mantissa' := by
    have hne : (mantissa' : ℚ) ≠ 0 := Nat.cast_ne_zero.mpr hpos'.ne'
    rw [Nat.shiftLeft_eq, hexponent, dyadic, dyadic, Nat.cast_mul, Nat.cast_pow, Nat.cast_ofNat,
      zpow_add₀ two_ne_zero, zpow_add₀ two_ne_zero, zpow_natCast]
    have h2 := (two_zpow_pos exponent').ne'
    have h3 := (two_zpow_pos unit).ne'
    field_simp
  have hreads : Reads (mantissa <<< n / mantissa') unit
      (accuracyOfFraction (mantissa <<< n % mantissa') mantissa')
      (dyadic mantissa exponent / dyadic mantissa' exponent') := by
    rw [Reads, hvalue]
    exact stands_div _ hpos'
  exact roundWithAccuracy_eq hreads
    (div_pos (dyadic_pos hpos exponent) (dyadic_pos hpos' exponent')) (by omega) _

end CatalogSearch.Number
