import CatalogSearch.Number.Binary64

/-!
# Numbers taken apart

The parts of a number are what the arithmetic of numbers computes with.  A finite number has a mantissa
of 53 bits at most, which is full unless the exponent is the least one.  So a number is known by its
parts, and parts of this form are those of a number.
-/

set_option autoImplicit false

namespace CatalogSearch.Number

open Float.Model Float.Model.UnpackedFloat

/-! ## Fields of bits -/

/-- The weight of a sign among the bits of a number. -/
def signWeight (negative : Bool) : Nat := if negative then signBit else 0

/-- Bits are made up of a sign, an exponent and a fraction. -/
theorem bits_eq_fields {n : Nat} (h : n < 2 * signBit) :
    n = signWeight (n / signBit == 1) + n / hiddenBit % 2048 * hiddenBit + n % hiddenBit := by
  have hbit : n / signBit = 0 ∨ n / signBit = 1 := by
    unfold signBit at h ⊢
    omega
  rcases hbit with hbit | hbit
  · rw [hbit]
    change n = 0 + _ + _
    unfold hiddenBit signBit at *
    omega
  · rw [hbit]
    change n = signBit + _ + _
    unfold hiddenBit signBit at *
    omega

/-- The fields of bits are those that make them up. -/
theorem fields_of_bits {n : Nat} (negative : Bool) (biased fraction : Nat) (hbiased : biased < 2048)
    (hfraction : fraction < hiddenBit)
    (h : n = signWeight negative + biased * hiddenBit + fraction) :
    (n / signBit == 1) = negative ∧ n / hiddenBit % 2048 = biased ∧ n % hiddenBit = fraction := by
  unfold hiddenBit at *
  cases negative with
  | false =>
    change n = 0 + _ + _ at h
    refine ⟨beq_eq_false_iff_ne.mpr ?_, by omega, by omega⟩
    unfold signBit
    omega
  | true =>
    change n = signBit + _ + _ at h
    unfold signBit at *
    exact ⟨beq_iff_eq.mpr (by omega), by omega, by omega⟩

/-! ## Parts and bits -/

/-- A mantissa and an exponent in the form in which a finite number has them. -/
structure Canonical (mantissa : Nat) (exponent : Int) : Prop where
  small : mantissa < 2 * hiddenBit
  low : -1074 ≤ exponent
  high : exponent ≤ 971
  full : hiddenBit ≤ mantissa ∨ exponent = -1074

/-- The parts of a finite number are in canonical form and make up its bits. -/
theorem parts_eq_finite_iff {x : Float} {negative : Bool} {mantissa : Nat} {exponent : Int} :
    parts x = .finite negative mantissa exponent ↔
      Canonical mantissa exponent ∧ (x.toBits.toNat : Int) =
        signWeight negative + (exponent + 1074) * hiddenBit + mantissa := by
  unfold parts
  dsimp only
  constructor
  · intro h
    have hfields := bits_eq_fields x.toBits.toNat_lt
    have hbiased : x.toBits.toNat / hiddenBit % 2048 < 2048 := Nat.mod_lt _ (by decide)
    have hfraction : x.toBits.toNat % hiddenBit < hiddenBit := Nat.mod_lt _ (by decide)
    split at h
    · split at h
      · cases h
      · cases h
    · split at h
      · rename_i hzero
        cases h
        rw [hzero] at hfields
        exact ⟨⟨by omega, by omega, by omega, Or.inr rfl⟩, by omega⟩
      · cases h
        refine ⟨⟨by omega, by omega, by omega, Or.inl (Nat.le_add_right _ _)⟩, ?_⟩
        unfold hiddenBit at hfields ⊢
        omega
  · rintro ⟨⟨hsmall, hlow, hhigh, hfull⟩, hbits⟩
    by_cases hsize : mantissa < hiddenBit
    · have hleast : exponent = -1074 := hfull.resolve_left (by omega)
      obtain ⟨hnegative, hbiased, hfraction⟩ :=
        fields_of_bits (n := x.toBits.toNat) negative 0 mantissa (by omega) hsize
          (by rw [hleast] at hbits; omega)
      rw [hnegative, hbiased, hfraction, if_neg (by omega), if_pos rfl, hleast]
    · obtain ⟨hnegative, hbiased, hfraction⟩ :=
        fields_of_bits (n := x.toBits.toNat) negative (exponent + 1075).toNat (mantissa - hiddenBit)
          (by omega) (by omega) (by unfold hiddenBit at *; omega)
      rw [hnegative, hbiased, hfraction, if_neg (by omega), if_neg (by omega),
        Parts.finite.injEq]
      exact ⟨rfl, by omega, by omega⟩

/-- A finite number is known by its parts. -/
theorem eq_of_parts {x y : Float} {negative : Bool} {mantissa : Nat} {exponent : Int}
    (hx : parts x = .finite negative mantissa exponent)
    (hy : parts y = .finite negative mantissa exponent) : x = y := by
  have hbits : (x.toBits.toNat : Int) = y.toBits.toNat :=
    (parts_eq_finite_iff.mp hx).2.trans (parts_eq_finite_iff.mp hy).2.symm
  exact eq_of_toBits_eq (UInt64.toNat_inj.mp (Int.ofNat.inj hbits))

/-! ## Parts in arithmetic -/

/-- The sign of a number in arithmetic. -/
def signOf (negative : Bool) : Sign := if negative then .negative else .positive

/-- What arithmetic computes with for a number of these parts. -/
def Parts.unpacked : Parts → UnpackedFloat
  | .nan => .notANumber
  | .infinite negative => .infinity (signOf negative)
  | .finite negative mantissa exponent =>
    if h : mantissa = 0 then .zero (signOf negative)
    else .finite (signOf negative) mantissa exponent (Nat.pos_of_ne_zero h)

theorem toNat_unpackMantissa (b : BitVec 64) :
    (@unpackMantissa .binary64 b).toNat = b.toNat % hiddenBit := by
  unfold unpackMantissa
  rw [BitVec.toNat_cast, BitVec.extractLsb_toNat, Nat.shiftRight_zero]
  rfl

theorem toNat_unpackExponent (b : BitVec 64) :
    (@unpackExponent .binary64 b).toNat = b.toNat / hiddenBit % 2048 := by
  unfold unpackExponent
  rw [BitVec.toNat_cast, BitVec.extractLsb_toNat, Nat.shiftRight_eq_div_pow]
  rfl

theorem ofBitVec_unpackSign (b : BitVec 64) :
    Sign.ofBitVec (@unpackSign .binary64 b) = signOf (b.toNat / signBit == 1) := by
  have hbit : (@unpackSign .binary64 b).toNat = b.toNat / signBit % 2 := by
    unfold unpackSign
    rw [BitVec.toNat_cast, BitVec.extractLsb_toNat, Nat.shiftRight_eq_div_pow]
    rfl
  have hlt : b.toNat < 2 * signBit := b.isLt
  have hcases : b.toNat / signBit = 0 ∨ b.toNat / signBit = 1 := by
    unfold signBit at hlt ⊢
    omega
  rcases hcases with hzero | hone
  · rw [hzero] at hbit ⊢
    rw [BitVec.eq_of_toNat_eq (y := 0#1) hbit]
    rfl
  · rw [hone] at hbit ⊢
    rw [BitVec.eq_of_toNat_eq (y := 1#1) hbit]
    rfl

/-- Arithmetic computes with the parts of a number. -/
theorem unpack_eq (x : Float) : x.toModel.unpack = (parts x).unpacked := by
  have hmantissa := toNat_unpackMantissa x.toBits.toBitVec
  have hexponent := toNat_unpackExponent x.toBits.toBitVec
  have hsign := ofBitVec_unpackSign x.toBits.toBitVec
  change UnpackedFloat.unpack .binary64 x.toBits.toBitVec = _
  unfold UnpackedFloat.unpack parts
  dsimp only
  rw [hsign]
  have hinfinite : @unpackExponent .binary64 x.toBits.toBitVec = -1#_ ↔
      x.toBits.toNat / hiddenBit % 2048 = 2047 := by
    rw [← BitVec.toNat_inj, hexponent]
    rfl
  have hleast : @unpackExponent .binary64 x.toBits.toBitVec = 0#_ ↔
      x.toBits.toNat / hiddenBit % 2048 = 0 := by
    rw [← BitVec.toNat_inj, hexponent]
    rfl
  have hzero : @unpackMantissa .binary64 x.toBits.toBitVec = 0#_ ↔
      x.toBits.toNat % hiddenBit = 0 := by
    rw [← BitVec.toNat_inj, hmantissa]
    rfl
  have hfull : (1#1 ++ @unpackMantissa .binary64 x.toBits.toBitVec).toNat =
      hiddenBit + x.toBits.toNat % hiddenBit := by
    rw [BitVec.toNat_append, ← Nat.shiftLeft_add_eq_or_of_lt (BitVec.isLt _), hmantissa]
    rfl
  by_cases h2047 : x.toBits.toNat / hiddenBit % 2048 = 2047
  · rw [if_pos (hinfinite.mpr h2047), if_pos h2047]
    by_cases h0 : x.toBits.toNat % hiddenBit = 0
    · rw [if_pos (hzero.mpr h0), if_pos h0]
      rfl
    · rw [if_neg (mt hzero.mp h0), if_neg h0]
      rfl
  · rw [if_neg (mt hinfinite.mp h2047), if_neg h2047]
    by_cases hb0 : x.toBits.toNat / hiddenBit % 2048 = 0
    · rw [if_pos (hleast.mpr hb0), if_pos hb0]
      by_cases h0 : x.toBits.toNat % hiddenBit = 0
      · rw [dif_pos (hzero.mpr h0), Parts.unpacked, dif_pos h0]
        rfl
      · rw [dif_neg (mt hzero.mp h0), Parts.unpacked, dif_neg h0]
        have hexp : ((@unpackExponent .binary64 x.toBits.toBitVec).toNat : Int) = 0 := by
          rw [hexponent]
          exact congrArg Nat.cast hb0
        rw [UnpackedFloat.finite.injEq]
        exact ⟨rfl, hmantissa, by rw [hexp]; rfl⟩
    · rw [if_neg (mt hleast.mp hb0), if_neg hb0, Parts.unpacked, dif_neg (by unfold hiddenBit; omega)]
      rw [UnpackedFloat.finite.injEq]
      exact ⟨rfl, hfull, by rw [hexponent]; rfl⟩

/-! ## Numbers from parts -/

/-- The number of these parts. -/
def ofParts (p : Parts) : Float := .ofModel (.pack p.unpacked)

theorem toNat_packComponents (negative : Bool) (exponent : BitVec 11) (mantissa : BitVec 52) :
    (packComponents .binary64 (signOf negative) exponent mantissa).toNat =
      signWeight negative + exponent.toNat * hiddenBit + mantissa.toNat := by
  have hsign : (signOf negative).toBitVec.toNat * signBit = signWeight negative := by
    cases negative with
    | false => rfl
    | true => rfl
  unfold packComponents
  rw [BitVec.toNat_append, ← Nat.shiftLeft_add_eq_or_of_lt mantissa.isLt, BitVec.toNat_append,
    ← Nat.shiftLeft_add_eq_or_of_lt exponent.isLt, Nat.shiftLeft_eq, Nat.shiftLeft_eq, Nat.add_mul,
    Nat.mul_assoc, ← hsign]
  rfl

theorem toBits_ofParts (p : Parts) :
    (ofParts p).toBits.toNat = (UnpackedFloat.pack .binary64 p.unpacked).toNat := rfl

/-- Parts in canonical form are those of a number. -/
theorem parts_ofParts {negative : Bool} {mantissa : Nat} {exponent : Int}
    (h : Canonical mantissa exponent) :
    parts (ofParts (.finite negative mantissa exponent)) = .finite negative mantissa exponent := by
  obtain ⟨hsmall, hlow, hhigh, hfull⟩ := h
  refine parts_eq_finite_iff.mpr ⟨⟨hsmall, hlow, hhigh, hfull⟩, ?_⟩
  rw [toBits_ofParts, Parts.unpacked]
  by_cases hzero : mantissa = 0
  · have hleast : exponent = -1074 := hfull.resolve_left (by rw [hzero]; decide)
    rw [dif_pos hzero]
    change ((packComponents .binary64 (signOf negative) 0 0).toNat : Int) = _
    rw [toNat_packComponents, hzero, hleast]
    rfl
  · rw [dif_neg hzero]
    delta UnpackedFloat.pack
    dsimp only
    have hbiased : (exponent + (Format.binary64.exponentBias : Int) + (52 : Nat)).toNat =
        (exponent + 1075).toNat := by
      change (exponent + 1023 + 52).toNat = _
      omega
    rw [hbiased, if_neg (by omega)]
    by_cases hnormal : hiddenBit ≤ mantissa
    · have hlog : mantissa.log2 = 52 := (Nat.log2_eq_iff hzero).mpr ⟨hnormal, hsmall⟩
      have hbits : 52 + 1 = Format.binary64.mantissaBits := rfl
      have hexponent : (exponent + 1075).toNat < 2 ^ 11 := by omega
      rw [hlog, if_pos hbits, toNat_packComponents, BitVec.toNat_ofNat, BitVec.toNat_ofNat,
        Nat.mod_eq_of_lt hexponent]
      unfold hiddenBit at *
      omega
    · have hleast : exponent = -1074 := hfull.resolve_left hnormal
      have hlog : mantissa.log2 < 52 := (Nat.log2_lt hzero).mpr (Nat.lt_of_not_le hnormal)
      have hother : mantissa.log2 + 1 ≠ Format.binary64.mantissaBits := by
        change mantissa.log2 + 1 ≠ 53
        omega
      have hfraction : (BitVec.ofNat 52 mantissa).toNat = mantissa :=
        Nat.mod_eq_of_lt (Nat.lt_of_not_le hnormal)
      rw [if_neg hother, toNat_packComponents, hfraction, BitVec.toNat_zero, hleast]
      omega

/-- A finite number is that of its parts. -/
theorem ofParts_parts {x : Float} {negative : Bool} {mantissa : Nat} {exponent : Int}
    (h : parts x = .finite negative mantissa exponent) :
    ofParts (.finite negative mantissa exponent) = x :=
  eq_of_parts (parts_ofParts (parts_eq_finite_iff.mp h).1) h

end CatalogSearch.Number
