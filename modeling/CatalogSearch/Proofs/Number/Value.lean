import CatalogSearch.Proofs.Number.Unpacked
import Mathlib.Algebra.Order.Field.Power
import Mathlib.Data.Rat.Cast.Order
import Mathlib.Tactic.Ring

/-!
# Values of numbers

A finite number stands for a rational, its mantissa times a power of two.  Finite numbers are compared
by their values, and two of one value differ in the sign of a zero at most.
-/

set_option autoImplicit false

namespace CatalogSearch.Number

open Float.Model Float.Model.UnpackedFloat

/-! ## Mantissas and exponents -/

/-- The rational `mantissa · 2 ^ exponent`. -/
def dyadic (mantissa : Nat) (exponent : Int) : ℚ := mantissa * 2 ^ exponent

theorem two_zpow_pos (exponent : Int) : (0 : ℚ) < 2 ^ exponent := zpow_pos two_pos exponent

theorem dyadic_zero (exponent : Int) : dyadic 0 exponent = 0 := by
  rw [dyadic, Nat.cast_zero, zero_mul]

theorem dyadic_pos {mantissa : Nat} (h : 0 < mantissa) (exponent : Int) :
    0 < dyadic mantissa exponent :=
  mul_pos (Nat.cast_pos.mpr h) (two_zpow_pos exponent)

theorem dyadic_nonneg (mantissa : Nat) (exponent : Int) : 0 ≤ dyadic mantissa exponent :=
  mul_nonneg (Nat.cast_nonneg mantissa) (two_zpow_pos exponent).le

/-- Moving a power of two into the mantissa leaves the value. -/
theorem dyadic_shift (mantissa n : Nat) (exponent : Int) :
    dyadic (mantissa * 2 ^ n) exponent = dyadic mantissa (exponent + n) := by
  rw [dyadic, dyadic, Nat.cast_mul, Nat.cast_pow, Nat.cast_ofNat, zpow_add₀ two_ne_zero, zpow_natCast]
  ring

section Canonical

variable {mantissa mantissa' : Nat} {exponent exponent' : Int}

/-- In canonical form, the larger exponent has the larger value. -/
theorem dyadic_lt_of_exponent_lt (h : Canonical mantissa exponent)
    (h' : Canonical mantissa' exponent') (hlt : exponent < exponent') :
    dyadic mantissa exponent < dyadic mantissa' exponent' := by
  have hfull : hiddenBit ≤ mantissa' := h'.full.resolve_right fun hleast => by
    have := h.low
    omega
  have hsmall : (mantissa : ℚ) < 2 * hiddenBit := by exact_mod_cast h.small
  have hstep : (2 : ℚ) ^ (exponent + 1) ≤ 2 ^ exponent' :=
    zpow_le_zpow_right₀ one_le_two (Int.add_one_le_iff.mpr hlt)
  calc dyadic mantissa exponent
    _ < 2 * hiddenBit * 2 ^ exponent := mul_lt_mul_of_pos_right hsmall (two_zpow_pos exponent)
    _ = hiddenBit * 2 ^ (exponent + 1) := by rw [zpow_add_one₀ two_ne_zero]; ring
    _ ≤ hiddenBit * 2 ^ exponent' := mul_le_mul_of_nonneg_left hstep (Nat.cast_nonneg _)
    _ ≤ dyadic mantissa' exponent' :=
        mul_le_mul_of_nonneg_right (Nat.cast_le.mpr hfull) (two_zpow_pos exponent').le

/-- In canonical form, values are compared by exponent and then by mantissa. -/
theorem compare_dyadic (h : Canonical mantissa exponent) (h' : Canonical mantissa' exponent') :
    (compare exponent exponent').then (compare mantissa mantissa') =
      compare (dyadic mantissa exponent) (dyadic mantissa' exponent') := by
  rcases lt_trichotomy exponent exponent' with hlt | rfl | hgt
  · rw [compare_lt_iff_lt.mpr hlt, compare_lt_iff_lt.mpr (dyadic_lt_of_exponent_lt h h' hlt)]
    rfl
  · rw [compare_eq_iff_eq.mpr rfl, Ordering.eq_then]
    have hlt : ∀ m n : Nat, m < n → dyadic m exponent < dyadic n exponent := fun m n hmn =>
      mul_lt_mul_of_pos_right (Nat.cast_lt.mpr hmn) (two_zpow_pos exponent)
    rcases lt_trichotomy mantissa mantissa' with hm | rfl | hm
    · rw [compare_lt_iff_lt.mpr hm, compare_lt_iff_lt.mpr (hlt _ _ hm)]
    · rw [compare_eq_iff_eq.mpr rfl, compare_eq_iff_eq.mpr rfl]
    · rw [compare_gt_iff_gt.mpr hm, compare_gt_iff_gt.mpr (hlt _ _ hm)]
  · rw [compare_gt_iff_gt.mpr hgt, compare_gt_iff_gt.mpr (dyadic_lt_of_exponent_lt h' h hgt)]
    rfl

/-- In canonical form, a value has one mantissa and one exponent. -/
theorem dyadic_inj (h : Canonical mantissa exponent) (h' : Canonical mantissa' exponent')
    (heq : dyadic mantissa exponent = dyadic mantissa' exponent') :
    mantissa = mantissa' ∧ exponent = exponent' := by
  have hcompare := compare_dyadic h h'
  rw [compare_eq_iff_eq.mpr heq, Ordering.then_eq_eq] at hcompare
  exact ⟨compare_eq_iff_eq.mp hcompare.2, compare_eq_iff_eq.mp hcompare.1⟩

end Canonical

theorem compare_neg (a b : ℚ) : compare (-a) (-b) = (compare a b).swap := by
  rcases lt_trichotomy a b with h | rfl | h
  · rw [compare_lt_iff_lt.mpr h, compare_gt_iff_gt.mpr (neg_lt_neg h)]
    rfl
  · rw [compare_eq_iff_eq.mpr rfl, compare_eq_iff_eq.mpr rfl]
    rfl
  · rw [compare_gt_iff_gt.mpr h, compare_lt_iff_lt.mpr (neg_lt_neg h)]
    rfl

/-! ## Values -/

/-- The rational that a finite number stands for. -/
def Parts.value : Parts → ℚ
  | .finite negative mantissa exponent =>
    if negative then -dyadic mantissa exponent else dyadic mantissa exponent
  | _ => 0

/-- The rational that a finite number stands for. -/
def value (x : Float) : ℚ := (parts x).value

/-- A number is finite when it has a mantissa and an exponent. -/
theorem isFinite_iff {x : Float} :
    x.isFinite = true ↔ ∃ negative mantissa exponent, parts x = .finite negative mantissa exponent := by
  have hunpack : x.isFinite = (parts x).unpacked.isFinite := by rw [← unpack_eq]; rfl
  rw [hunpack]
  cases hparts : parts x with
  | nan => exact ⟨fun h => Bool.noConfusion h, fun ⟨_, _, _, h⟩ => Parts.noConfusion h⟩
  | infinite negative => exact ⟨fun h => Bool.noConfusion h, fun ⟨_, _, _, h⟩ => Parts.noConfusion h⟩
  | finite negative mantissa exponent =>
    refine ⟨fun _ => ⟨negative, mantissa, exponent, rfl⟩, fun _ => ?_⟩
    rw [Parts.unpacked]
    by_cases hzero : mantissa = 0
    · rw [dif_pos hzero]
      rfl
    · rw [dif_neg hzero]
      rfl

theorem unpacked_zero (negative : Bool) (exponent : Int) :
    (Parts.finite negative 0 exponent).unpacked = .zero (signOf negative) := rfl

theorem unpacked_of_pos {mantissa : Nat} (h : 0 < mantissa) (negative : Bool) (exponent : Int) :
    (Parts.finite negative mantissa exponent).unpacked =
      .finite (signOf negative) mantissa exponent h :=
  dif_neg h.ne'

theorem value_zero (negative : Bool) (exponent : Int) :
    (Parts.finite negative 0 exponent).value = 0 := by
  cases negative with
  | false => exact dyadic_zero exponent
  | true => exact neg_eq_zero.mpr (dyadic_zero exponent)

/-- Arithmetic compares finite numbers by value. -/
theorem compare_unpacked {negative negative' : Bool} {mantissa mantissa' : Nat}
    {exponent exponent' : Int} (h : Canonical mantissa exponent)
    (h' : Canonical mantissa' exponent') :
    (Parts.finite negative mantissa exponent).unpacked.compare
        (Parts.finite negative' mantissa' exponent').unpacked =
      some (compare (Parts.finite negative mantissa exponent).value
        (Parts.finite negative' mantissa' exponent').value) := by
  rcases mantissa.eq_zero_or_pos with rfl | hm
  · rw [unpacked_zero, value_zero]
    rcases mantissa'.eq_zero_or_pos with rfl | hm'
    · rw [unpacked_zero, value_zero, compare_eq_iff_eq.mpr rfl]
      rfl
    · rw [unpacked_of_pos hm']
      have hpos := dyadic_pos hm' exponent'
      cases negative' with
      | false => exact congrArg some (compare_lt_iff_lt.mpr hpos).symm
      | true => exact congrArg some (compare_gt_iff_gt.mpr (neg_neg_of_pos hpos)).symm
  · have hpos := dyadic_pos hm exponent
    rw [unpacked_of_pos hm]
    rcases mantissa'.eq_zero_or_pos with rfl | hm'
    · rw [unpacked_zero, value_zero]
      cases negative with
      | false => exact congrArg some (compare_gt_iff_gt.mpr hpos).symm
      | true => exact congrArg some (compare_lt_iff_lt.mpr (neg_neg_of_pos hpos)).symm
    · have hpos' := dyadic_pos hm' exponent'
      rw [unpacked_of_pos hm']
      cases negative with
      | false =>
        cases negative' with
        | false => exact congrArg some (compare_dyadic h h')
        | true => exact congrArg some (compare_gt_iff_gt.mpr ((neg_neg_of_pos hpos').trans hpos)).symm
      | true =>
        cases negative' with
        | false => exact congrArg some (compare_lt_iff_lt.mpr ((neg_neg_of_pos hpos).trans hpos')).symm
        | true =>
          refine congrArg some ?_
          rw [compare_dyadic h h']
          exact (compare_neg _ _).symm

/-! ## Comparison -/

variable {x y : Float}

/-- Finite numbers are compared by their values. -/
theorem compare_eq (hx : x.isFinite = true) (hy : y.isFinite = true) :
    x.toModel.unpack.compare y.toModel.unpack = some (compare (value x) (value y)) := by
  obtain ⟨negative, mantissa, exponent, hpx⟩ := isFinite_iff.mp hx
  obtain ⟨negative', mantissa', exponent', hpy⟩ := isFinite_iff.mp hy
  rw [unpack_eq, unpack_eq, value, value, hpx, hpy]
  exact compare_unpacked (parts_eq_finite_iff.mp hpx).1 (parts_eq_finite_iff.mp hpy).1

theorem le_iff_value (hx : x.isFinite = true) (hy : y.isFinite = true) :
    x ≤ y ↔ value x ≤ value y := by
  have hle : x ≤ y ↔ (x.toModel.unpack.compare y.toModel.unpack).any (·.isLE) = true :=
    decide_eq_true_iff
  rw [hle, compare_eq hx hy]
  exact Ordering.ne_gt_iff_isLE.symm.trans compare_le_iff_le

theorem lt_iff_value (hx : x.isFinite = true) (hy : y.isFinite = true) :
    x < y ↔ value x < value y := by
  have hlt : x < y ↔ (x.toModel.unpack.compare y.toModel.unpack == some .lt) = true :=
    decide_eq_true_iff
  rw [hlt, compare_eq hx hy, beq_iff_eq, Option.some_inj]
  exact compare_lt_iff_lt

theorem beq_iff_value (hx : x.isFinite = true) (hy : y.isFinite = true) :
    (x == y) = true ↔ value x = value y := by
  have hbeq : (x == y) = (x.toModel.unpack.compare y.toModel.unpack == some .eq) := rfl
  rw [hbeq, compare_eq hx hy, beq_iff_eq, Option.some_inj]
  exact compare_eq_iff_eq

/-- What equals a finite number is finite. -/
theorem isFinite_of_beq (hy : y.isFinite = true) (h : (x == y) = true) : x.isFinite = true := by
  have hcompare : x.toModel.unpack.compare y.toModel.unpack = some .eq := beq_iff_eq.mp h
  have hunpack : y.toModel.unpack.isFinite = true := hy
  change x.toModel.unpack.isFinite = true
  cases hx : x.toModel.unpack with
  | notANumber =>
    rw [hx] at hcompare
    cases hcompare
  | infinity sign =>
    rw [hx] at hcompare
    cases hy' : y.toModel.unpack with
    | notANumber => rw [hy'] at hunpack; cases hunpack
    | infinity sign' => rw [hy'] at hunpack; cases hunpack
    | zero sign' => rw [hy'] at hcompare; cases sign <;> cases hcompare
    | finite sign' mantissa exponent hpos => rw [hy'] at hcompare; cases sign <;> cases hcompare
  | zero sign => rfl
  | finite sign mantissa exponent hpos => rfl

theorem abs_value (negative : Bool) (mantissa : Nat) (exponent : Int) :
    |(Parts.finite negative mantissa exponent).value| = dyadic mantissa exponent := by
  cases negative with
  | false => exact abs_of_nonneg (dyadic_nonneg mantissa exponent)
  | true =>
    change |-dyadic mantissa exponent| = _
    rw [abs_neg]
    exact abs_of_nonneg (dyadic_nonneg mantissa exponent)

/-- Finite numbers of one value are the same, or both zero. -/
theorem eq_or_zero_of_value_eq (hx : x.isFinite = true) (hy : y.isFinite = true)
    (h : value x = value y) : x = y ∨ value x = 0 := by
  obtain ⟨negative, mantissa, exponent, hpx⟩ := isFinite_iff.mp hx
  obtain ⟨negative', mantissa', exponent', hpy⟩ := isFinite_iff.mp hy
  rw [value, value, hpx, hpy] at h
  have hsize := congrArg (fun q : ℚ => |q|) h
  rw [abs_value, abs_value] at hsize
  obtain ⟨rfl, rfl⟩ :=
    dyadic_inj (parts_eq_finite_iff.mp hpx).1 (parts_eq_finite_iff.mp hpy).1 hsize
  by_cases hsign : negative = negative'
  · exact Or.inl (eq_of_parts hpx (hsign ▸ hpy))
  · refine Or.inr ?_
    rw [value, hpx]
    cases negative with
    | false =>
      rw [(Bool.eq_true_of_not_eq_false (Ne.symm hsign))] at h
      exact self_eq_neg.mp h
    | true =>
      rw [(Bool.eq_false_of_not_eq_true (Ne.symm hsign))] at h
      exact neg_eq_zero.mpr (neg_eq_self.mp h)

/-- What equals a finite number other than zero is that number. -/
theorem eq_of_beq (hy : y.isFinite = true) (hne : value y ≠ 0) (h : (x == y) = true) : x = y := by
  have hx := isFinite_of_beq hy h
  have hvalue := (beq_iff_value hx hy).mp h
  exact (eq_or_zero_of_value_eq hx hy hvalue).resolve_right (hvalue ▸ hne)

/-! ## Negation -/

/-- A number with the other sign has the other sign. -/
theorem parts_neg {negative : Bool} {mantissa : Nat} {exponent : Int}
    (h : parts x = .finite negative mantissa exponent) :
    parts (-x) = .finite (!negative) mantissa exponent := by
  have hneg : -x = ofParts (.finite (!negative) mantissa exponent) := by
    change Float.ofModel (.pack x.toModel.unpack.neg) = _
    rw [unpack_eq, h, ofParts]
    rcases mantissa.eq_zero_or_pos with rfl | hpos
    · rw [unpacked_zero, unpacked_zero]
      cases negative <;> rfl
    · rw [unpacked_of_pos hpos, unpacked_of_pos hpos]
      cases negative <;> rfl
  rw [hneg]
  exact parts_ofParts (parts_eq_finite_iff.mp h).1

/-! ## Integers -/

/-- A power of two divides a mantissa when what is left of it is an integer. -/
theorem dyadic_neg_eq_iff {mantissa n k : Nat} :
    dyadic mantissa (-n) = k ↔ mantissa % 2 ^ n = 0 ∧ mantissa / 2 ^ n = k := by
  have hpos : 0 < 2 ^ n := Nat.two_pow_pos n
  have hproduct : dyadic mantissa (-n) = k ↔ mantissa = k * 2 ^ n := by
    rw [dyadic, zpow_neg, zpow_natCast, ← div_eq_mul_inv, div_eq_iff (pow_ne_zero n two_ne_zero)]
    exact_mod_cast Iff.rfl
  rw [hproduct]
  constructor
  · rintro rfl
    exact ⟨Nat.mul_mod_left k _, Nat.mul_div_cancel k hpos⟩
  · rintro ⟨hmod, rfl⟩
    exact (Nat.div_mul_cancel (Nat.dvd_of_mod_eq_zero hmod)).symm

/-- The natural number that a mantissa with its exponent is. -/
theorem size_eq_some_iff {mantissa k : Nat} {exponent : Int} :
    (if 0 ≤ exponent then some (mantissa * Nat.pow 2 exponent.toNat)
      else if mantissa % Nat.pow 2 (-exponent).toNat = 0 then
        some (mantissa / Nat.pow 2 (-exponent).toNat)
      else none) = some k ↔ dyadic mantissa exponent = k := by
  by_cases hnonneg : 0 ≤ exponent
  · obtain ⟨n, rfl⟩ := Int.eq_ofNat_of_zero_le hnonneg
    rw [if_pos hnonneg, Int.toNat_natCast, Option.some_inj, dyadic, zpow_natCast]
    exact_mod_cast Iff.rfl
  · obtain ⟨n, rfl⟩ : ∃ n : Nat, exponent = -n := ⟨exponent.natAbs, by omega⟩
    have hexponent : (- -(n : Int)).toNat = n := by omega
    rw [if_neg hnonneg, hexponent, dyadic_neg_eq_iff, Option.ite_none_right_eq_some, Option.some_inj]
    rfl

/-- A number is the integer that is its value. -/
theorem whole?_eq_some_iff {n : Int} : whole? x = some n ↔ x.isFinite = true ∧ value x = n := by
  have hfinite := isFinite_iff (x := x)
  unfold whole? value
  cases hparts : parts x with
  | nan =>
    refine ⟨fun h => (by cases h), fun h => ?_⟩
    obtain ⟨_, _, _, hother⟩ := hfinite.mp h.1
    cases hparts.symm.trans hother
  | infinite negative =>
    refine ⟨fun h => (by cases h), fun h => ?_⟩
    obtain ⟨_, _, _, hother⟩ := hfinite.mp h.1
    cases hparts.symm.trans hother
  | finite negative mantissa exponent =>
    have hx : x.isFinite = true := hfinite.mpr ⟨_, _, _, hparts⟩
    dsimp only
    rw [Option.map_eq_some_iff, and_iff_right hx]
    simp only [Option.bind_eq_bind, Option.bind_eq_some_iff, Option.pure_def, Option.some_inj,
      size_eq_some_iff]
    cases negative with
    | false =>
      change (∃ a, (∃ k : Nat, dyadic mantissa exponent = k ∧ (k : Int) = a) ∧ a = n) ↔
        dyadic mantissa exponent = n
      constructor
      · rintro ⟨_, ⟨k, hk, rfl⟩, rfl⟩
        exact_mod_cast hk
      · intro h
        have hnonneg : 0 ≤ n := by exact_mod_cast h ▸ dyadic_nonneg mantissa exponent
        obtain ⟨k, rfl⟩ := Int.eq_ofNat_of_zero_le hnonneg
        exact ⟨k, ⟨k, by exact_mod_cast h, rfl⟩, rfl⟩
    | true =>
      change (∃ a, (∃ k : Nat, dyadic mantissa exponent = k ∧ (k : Int) = a) ∧ -a = n) ↔
        -dyadic mantissa exponent = n
      constructor
      · rintro ⟨_, ⟨k, hk, rfl⟩, rfl⟩
        rw [hk, Int.cast_neg, Int.cast_natCast]
      · intro h
        have hsize : dyadic mantissa exponent = (-n : Int) := by
          rw [← neg_neg (dyadic mantissa exponent), h, Int.cast_neg]
        have hnonneg : 0 ≤ -n := by exact_mod_cast hsize ▸ dyadic_nonneg mantissa exponent
        obtain ⟨k, hk⟩ := Int.eq_ofNat_of_zero_le hnonneg
        rw [hk] at hsize
        exact ⟨k, ⟨k, by exact_mod_cast hsize, rfl⟩, by omega⟩

/-! ## Closeness -/

/-- Numbers without a difference are close. -/
theorem close_of_sub {sign : Sign}
    (h : UnpackedFloat.sub .binary64 x.toModel.unpack y.toModel.unpack = .zero sign) :
    close x y = true := by
  have hsub : x - y = Float.ofModel (.pack (.zero sign)) :=
    congrArg (fun u => Float.ofModel (.pack u)) h
  rw [close, hsub]
  cases sign with
  | positive => decide
  | negative => decide

/-- A finite number of the value zero is a zero. -/
theorem unpack_of_value_eq_zero (hx : x.isFinite = true) (h : value x = 0) :
    ∃ sign, x.toModel.unpack = .zero sign := by
  obtain ⟨negative, mantissa, exponent, hparts⟩ := isFinite_iff.mp hx
  have hsize := abs_value negative mantissa exponent
  rw [value, hparts] at h
  rw [h, abs_zero] at hsize
  rw [unpack_eq, hparts]
  rcases mantissa.eq_zero_or_pos with rfl | hpos
  · exact ⟨_, rfl⟩
  · exact absurd hsize (dyadic_pos hpos exponent).ne

/-- Finite numbers of one value are close. -/
theorem close_of_value_eq (hx : x.isFinite = true) (hy : y.isFinite = true)
    (h : value x = value y) : close x y = true := by
  rcases eq_or_zero_of_value_eq hx hy h with rfl | hzero
  · have hunpack : x.toModel.unpack.isFinite = true := hx
    cases hu : x.toModel.unpack with
    | notANumber => rw [hu] at hunpack; cases hunpack
    | infinity sign => rw [hu] at hunpack; cases hunpack
    | zero sign =>
      refine @close_of_sub _ _ .positive ?_
      rw [hu]
      cases sign with
      | positive => rfl
      | negative => rfl
    | finite sign mantissa exponent hpos =>
      refine @close_of_sub _ _ .positive ?_
      rw [hu]
      delta UnpackedFloat.sub
      dsimp only
      rw [Int.sub_self]
      rfl
  · obtain ⟨sign, hux⟩ := unpack_of_value_eq_zero hx hzero
    obtain ⟨sign', huy⟩ := unpack_of_value_eq_zero hy (h ▸ hzero)
    have hsub : ∃ sign'', UnpackedFloat.sub .binary64 (.zero sign) (.zero sign') = .zero sign'' := by
      delta UnpackedFloat.sub
      dsimp only
      split
      · exact ⟨_, rfl⟩
      · exact ⟨_, rfl⟩
    obtain ⟨sign'', hsub⟩ := hsub
    exact close_of_sub (hux ▸ huy ▸ hsub)

/-- Nothing is close to what is not finite. -/
theorem close_eq_false_of_not_finite (h : y.isFinite = false) : close x y = false := by
  have hsub : UnpackedFloat.sub .binary64 x.toModel.unpack y.toModel.unpack = .notANumber ∨
      ∃ sign, UnpackedFloat.sub .binary64 x.toModel.unpack y.toModel.unpack = .infinity sign := by
    have hunpack : y.toModel.unpack.isFinite = false := h
    cases hy : y.toModel.unpack with
    | notANumber =>
      left
      cases x.toModel.unpack <;> rfl
    | infinity sign =>
      cases x.toModel.unpack with
      | notANumber => exact Or.inl rfl
      | infinity sign' =>
        delta UnpackedFloat.sub
        dsimp only
        split
        · exact Or.inr ⟨_, rfl⟩
        · exact Or.inl rfl
      | zero sign' => exact Or.inr ⟨_, rfl⟩
      | finite sign' mantissa exponent hpos => exact Or.inr ⟨_, rfl⟩
    | zero sign => rw [hy] at hunpack; cases hunpack
    | finite sign mantissa exponent hpos => rw [hy] at hunpack; cases hunpack
  rcases hsub with hnan | ⟨sign, hinfinite⟩
  · have hsub : x - y = Float.ofModel (.pack .notANumber) :=
      congrArg (fun u => Float.ofModel (.pack u)) hnan
    rw [close, hsub]
    decide
  · have hsub : x - y = Float.ofModel (.pack (.infinity sign)) :=
      congrArg (fun u => Float.ofModel (.pack u)) hinfinite
    rw [close, hsub]
    cases sign with
    | positive => decide
    | negative => decide

end CatalogSearch.Number
