import CatalogSearch.Proofs.Number.Decimal
import CatalogSearch.Proofs.Number.Digits
import CatalogSearch.Proofs.Text.Lowercase
import Mathlib.Data.List.TakeWhile

/-!
# Numbers read back

The plain text of a finite number reads as that number.  Its digits are those of a decimal of the same
value, wherever the point stands, and a decimal is read as the number nearest to its value.
-/

set_option autoImplicit false

namespace CatalogSearch.Number

/-! ## Decimals -/

/-- Digits alone are a whole number. -/
theorem readDecimal_digits {cs : List Char} (h : Digits cs) (hne : cs ≠ []) :
    readDecimal cs = some ⟨digitsValue cs, 0⟩ := by
  have htake : cs.takeWhile isDigit = cs := List.takeWhile_eq_self_iff.mpr h
  have hdrop : cs.dropWhile isDigit = [] := List.dropWhile_eq_nil_iff.mpr h
  have hempty : cs.isEmpty = false := List.isEmpty_eq_false_iff.mpr hne
  unfold readDecimal
  rw [htake, hdrop]
  dsimp only
  rw [hempty, Bool.false_and, if_neg Bool.false_ne_true, List.append_nil]
  rfl

/-- Digits on both sides of a point are a decimal with as many places as there are behind it. -/
theorem readDecimal_point {cs cs' : List Char} (h : Digits cs) (h' : Digits cs') (hne : cs ≠ []) :
    readDecimal (cs ++ '.' :: cs') = some ⟨digitsValue (cs ++ cs'), -(cs'.length : Int)⟩ := by
  have hpoint : isDigit '.' = false := by decide
  have htake : (cs ++ '.' :: cs').takeWhile isDigit = cs := by
    rw [List.takeWhile_append_of_pos h, List.takeWhile_cons, hpoint, if_neg Bool.false_ne_true,
      List.append_nil]
  have hdrop : (cs ++ '.' :: cs').dropWhile isDigit = '.' :: cs' := by
    rw [List.dropWhile_append_of_pos h, List.dropWhile_cons, hpoint, if_neg Bool.false_ne_true]
  have htake' : cs'.takeWhile isDigit = cs' := List.takeWhile_eq_self_iff.mpr h'
  have hdrop' : cs'.dropWhile isDigit = [] := List.dropWhile_eq_nil_iff.mpr h'
  have hempty : cs.isEmpty = false := List.isEmpty_eq_false_iff.mpr hne
  unfold readDecimal
  simp only [htake, hdrop, htake', hdrop', hempty, Bool.false_and, Bool.false_eq_true, if_false]
  exact congrArg (fun e => some (Decimal.mk _ e)) (Int.zero_sub _)

/-- A point between two of the digits of a number is read as that many places. -/
theorem readDecimal_split {digits places : Nat} (h : places < (digitsText digits).length) :
    readDecimal ((digitsText digits).take ((digitsText digits).length - places) ++
        '.' :: (digitsText digits).drop ((digitsText digits).length - places)) =
      some ⟨digits, -(places : Int)⟩ := by
  have hdigits := digits_digitsText digits
  have hbefore : Digits ((digitsText digits).take ((digitsText digits).length - places)) :=
    fun c hc => hdigits c (List.mem_of_mem_take hc)
  have hafter : Digits ((digitsText digits).drop ((digitsText digits).length - places)) :=
    fun c hc => hdigits c (List.mem_of_mem_drop hc)
  have hne : (digitsText digits).take ((digitsText digits).length - places) ≠ [] := by
    rw [Ne, List.take_eq_nil_iff, not_or]
    exact ⟨by omega, Nat.toDigits_ne_nil⟩
  have hcount : ((digitsText digits).drop ((digitsText digits).length - places)).length = places := by
    rw [List.length_drop]
    omega
  rw [readDecimal_point hbefore hafter hne, List.take_append_drop, digitsValue_digitsText, hcount]

/-- Digits behind a point, with zeros before them to fill up the places. -/
theorem readDecimal_filled {digits places : Nat} (h : (digitsText digits).length ≤ places) :
    readDecimal ('0' :: '.' ::
        (List.replicate (places - (digitsText digits).length) '0' ++ digitsText digits)) =
      some ⟨digits, -(places : Int)⟩ := by
  have hzero : Digits ['0'] := digits_zeros 1
  have hafter := (digits_zeros (places - (digitsText digits).length)).append
    (digits_digitsText digits)
  have hcount : (List.replicate (places - (digitsText digits).length) '0' ++
      digitsText digits).length = places := by
    rw [List.length_append, List.length_replicate]
    omega
  have hvalue := digitsValue_zeros_append 1
    (List.replicate (places - (digitsText digits).length) '0' ++ digitsText digits)
  rw [List.replicate_one, digitsValue_zeros_append, digitsValue_digitsText] at hvalue
  have hread := readDecimal_point hzero hafter (List.cons_ne_nil _ _)
  rwa [hcount, hvalue] at hread

/-- Digits laid out are read as a decimal of the same value. -/
theorem readDecimal_positional (d : Decimal) :
    ∃ d', readDecimal (positional d) = some d' ∧ d'.value = d.value := by
  unfold positional
  dsimp only
  by_cases hnonneg : 0 ≤ d.exponent
  · obtain ⟨n, hn⟩ := Int.eq_ofNat_of_zero_le hnonneg
    have hdigits := (digits_digitsText d.digits).append (digits_zeros d.exponent.toNat)
    have hne : digitsText d.digits ≠ [] := Nat.toDigits_ne_nil
    rw [if_pos hnonneg, readDecimal_digits hdigits (by simp [hne])]
    refine ⟨_, rfl, ?_⟩
    rw [digitsValue_append_zeros, digitsValue_digitsText, Decimal.value, Decimal.value, hn, zpow_zero,
      mul_one, Int.toNat_natCast, zpow_natCast]
    push_cast
    ring
  · obtain ⟨n, hn⟩ : ∃ n : Nat, d.exponent = -n := ⟨d.exponent.natAbs, by omega⟩
    have hplaces : (-d.exponent).toNat = n := by omega
    have hsame : Decimal.mk d.digits (-(n : Int)) = d := by rw [← hn]
    rw [if_neg hnonneg, hplaces]
    refine ⟨d, ?_, rfl⟩
    split
    · rename_i hshort
      rw [readDecimal_split hshort, hsame]
    · rename_i hlong
      rw [readDecimal_filled (Nat.le_of_not_lt hlong), hsame]

/-! ## Literals -/

theorem toLower_digit {c : Char} (h : isDigit c = true) : c.toLower = c := by
  have hnine : c.toNat ≤ 57 := (Char.isDigit_iff_toNat.mp h).2
  exact Text.toLower_eq_self (by omega)

/-- What begins with a digit behind its sign is a decimal, no word. -/
theorem readChars_of_takeSign {cs rest : List Char} {negative : Bool} {c : Char}
    (hsign : takeSign cs = (negative, c :: rest)) (h : isDigit c = true) :
    readChars cs =
      ((readDecimal (c :: rest)).map Decimal.toFloat).map fun x => if negative then -x else x := by
  have hword : ∀ c' cs', isDigit c' = false → ((c :: rest).map Char.toLower == c' :: cs') = false := by
    intro c' cs' h'
    rw [List.map_cons, toLower_digit h, List.cons_beq_cons, beq_eq_false_iff_ne.mpr (ne_of_isDigit h h'),
      Bool.false_and]
  unfold readChars
  rw [hsign]
  dsimp only
  have hinf : ((c :: rest).map Char.toLower == "inf".toList) = false := hword 'i' _ (by decide)
  have hinfinity : ((c :: rest).map Char.toLower == "infinity".toList) = false :=
    hword 'i' _ (by decide)
  have hnan : ((c :: rest).map Char.toLower == "nan".toList) = false := hword 'n' _ (by decide)
  rw [hinf, hinfinity, hnan, Bool.or_false, if_neg Bool.false_ne_true, if_neg Bool.false_ne_true]

/-- A minus in front of digits is their sign. -/
theorem takeSign_signed {c : Char} (h : isDigit c = true) (negative : Bool) (rest : List Char) :
    takeSign ((if negative then ['-'] else []) ++ c :: rest) = (negative, c :: rest) := by
  cases negative with
  | false =>
    change takeSign (c :: rest) = _
    unfold takeSign
    split
    · rename_i heq
      exact absurd (List.cons.inj heq).1 (ne_of_isDigit h (by decide))
    · rename_i heq
      exact absurd (List.cons.inj heq).1 (ne_of_isDigit h (by decide))
    · rfl
  | true => rfl

/-- A decimal literal, with a minus in front of it if it is negative, is read as the number nearest to
the value. -/
theorem readChars_signed {cs : List Char} {d : Decimal} (hread : readDecimal cs = some d)
    (hdigit : ∃ c rest, cs = c :: rest ∧ isDigit c = true) (negative : Bool) :
    readChars ((if negative then ['-'] else []) ++ cs) =
      some (if negative then -nearestFloat d.value else nearestFloat d.value) := by
  obtain ⟨c, rest, rfl, h⟩ := hdigit
  rw [readChars_of_takeSign (takeSign_signed h negative rest) h, hread, Option.map_some,
    Option.map_some, Decimal.toFloat_eq]

/-! ## Plain texts -/

theorem Digits.head {cs : List Char} (h : Digits cs) (hne : cs ≠ []) (rest : List Char) :
    ∃ c rest', cs ++ rest = c :: rest' ∧ isDigit c = true := by
  cases cs with
  | nil => exact absurd rfl hne
  | cons c cs => exact ⟨c, cs ++ rest, rfl, h c List.mem_cons_self⟩

theorem positional_head (d : Decimal) : ∃ c rest, positional d = c :: rest ∧ isDigit c = true := by
  have hdigits := digits_digitsText d.digits
  have hne : digitsText d.digits ≠ [] := Nat.toDigits_ne_nil
  unfold positional
  dsimp only
  split
  · exact hdigits.head hne _
  · split
    · have hbefore : Digits ((digitsText d.digits).take
          ((digitsText d.digits).length - (-d.exponent).toNat)) :=
        fun c hc => hdigits c (List.mem_of_mem_take hc)
      refine hbefore.head ?_ _
      rw [Ne, List.take_eq_nil_iff, not_or]
      exact ⟨by omega, hne⟩
    · exact ⟨'0', _, rfl, by decide⟩

theorem digitsText_head (n : Nat) : ∃ c rest, digitsText n = c :: rest ∧ isDigit c = true := by
  obtain ⟨c, rest, heq, h⟩ := (digits_digitsText n).head Nat.toDigits_ne_nil []
  rw [List.append_nil] at heq
  exact ⟨c, rest, heq, h⟩

/-- A decimal laid out, with a minus in front of it if it is negative, is read as its number. -/
theorem readChars_positional (d : Decimal) (negative : Bool) :
    readChars ((if negative then ['-'] else []) ++ positional d) =
      some (if negative then -d.toFloat else d.toFloat) := by
  obtain ⟨d', hread, hvalue⟩ := readDecimal_positional d
  rw [readChars_signed hread (positional_head d), hvalue, ← Decimal.toFloat_eq]

theorem neg_neg_of_finite {x : Float} {negative : Bool} {mantissa : Nat} {exponent : Int}
    (h : parts x = .finite negative mantissa exponent) : - -x = x := by
  refine eq_of_parts (parts_neg (parts_neg h)) ?_
  rw [Bool.not_not]
  exact h

/-- A finite number without its sign. -/
theorem parts_unsigned {x : Float} {negative : Bool} {mantissa : Nat} {exponent : Int}
    (h : parts x = .finite negative mantissa exponent) :
    parts (if negative then -x else x) = .finite false mantissa exponent := by
  cases negative with
  | false => exact h
  | true => exact parts_neg h

/-- The plain text of a finite number is its sign and a decimal that is the number without its sign. -/
theorem exists_plainText_eq {x : Float} {negative : Bool} {mantissa : Nat} {exponent : Int}
    (h : parts x = .finite negative mantissa exponent) :
    ∃ d : Decimal, d.toFloat = (if negative then -x else x) ∧
      (plainText x).toList = (if negative then ['-'] else []) ++ positional d := by
  have hsize := parts_unsigned h
  unfold plainText textWith
  rw [h]
  dsimp only
  rw [String.toList_ofList]
  refine ⟨_, ?_, rfl⟩
  rcases mantissa.eq_zero_or_pos with rfl | hpos
  · have hzero := nearestFloat_value hsize
    rw [dyadic_zero] at hzero
    rw [if_pos rfl, Decimal.toFloat_eq, Decimal.value, Nat.cast_zero, zero_mul, hzero]
  · rw [if_neg hpos.ne', Decimal.toFloat_eq, value_trimZeros, ← Decimal.toFloat_eq,
      toFloat_shortestOf hsize hpos]

/-- The plain text of a finite number reads as that number. -/
theorem read?_plainText {x : Float} (hx : x.isFinite = true) : read? (plainText x) = some x := by
  obtain ⟨negative, mantissa, exponent, hparts⟩ := isFinite_iff.mp hx
  obtain ⟨d, hd, htext⟩ := exists_plainText_eq hparts
  rw [read?, htext, readChars_positional, hd]
  cases negative with
  | false => rfl
  | true => exact congrArg some (neg_neg_of_finite hparts)

/-- A decimal laid out has digits and at most a point. -/
theorem digit_or_point_of_mem_positional {d : Decimal} {c : Char} (h : c ∈ positional d) :
    isDigit c = true ∨ c = '.' := by
  have hdigits := digits_digitsText d.digits
  unfold positional at h
  dsimp only at h
  split at h
  · exact Or.inl (hdigits.append (digits_zeros _) c h)
  · split at h
    · rcases List.mem_append.mp h with h | h
      · exact Or.inl (hdigits c (List.mem_of_mem_take h))
      · rcases List.mem_cons.mp h with rfl | h
        · exact Or.inr rfl
        · exact Or.inl (hdigits c (List.mem_of_mem_drop h))
    · rcases List.mem_cons.mp h with rfl | h
      · exact Or.inl (by decide)
      · rcases List.mem_cons.mp h with rfl | h
        · exact Or.inr rfl
        · exact Or.inl ((digits_zeros _).append hdigits c h)

/-- A decimal with places behind the point has a point. -/
theorem point_mem_positional {d : Decimal} (h : d.exponent < 0) : '.' ∈ positional d := by
  unfold positional
  dsimp only
  rw [if_neg (Int.not_le.mpr h)]
  split
  · exact List.mem_append_right _ List.mem_cons_self
  · exact List.mem_cons_of_mem _ List.mem_cons_self

/-- A number that is no integer has a point in its plain text. -/
theorem point_mem_plainText {x : Float} (hx : x.isFinite = true) (h : whole? x = none) :
    '.' ∈ (plainText x).toList := by
  obtain ⟨negative, mantissa, exponent, hparts⟩ := isFinite_iff.mp hx
  obtain ⟨d, hd, htext⟩ := exists_plainText_eq hparts
  rw [htext]
  refine List.mem_append_right _ (point_mem_positional ?_)
  by_contra hnonneg
  obtain ⟨n, hn⟩ := Int.eq_ofNat_of_zero_le (Int.not_lt.mp hnonneg)
  -- a decimal without places is an integer, and so would be the number
  have hvalue : d.value = (d.digits * 10 ^ n : Nat) := by
    rw [Decimal.value, hn, zpow_natCast]
    push_cast
    rfl
  have hfinite : (if negative then -x else x).isFinite = true :=
    isFinite_iff.mpr ⟨_, _, _, parts_unsigned hparts⟩
  rw [← hd, Decimal.toFloat_eq, hvalue] at hfinite
  obtain ⟨k, hk⟩ := exists_whole_nearestFloat hfinite
  rw [← hvalue, ← Decimal.toFloat_eq, hd, whole?_eq_some_iff, value, parts_unsigned hparts] at hk
  have hwhole : whole? x = some (if negative then -k else k) := by
    rw [whole?_eq_some_iff, value, hparts]
    refine ⟨hx, ?_⟩
    cases negative with
    | false => exact hk.2
    | true =>
      change -dyadic mantissa exponent = ((-k : Int) : ℚ)
      rw [Int.cast_neg, ← hk.2]
      rfl
  rw [h] at hwhole
  cases hwhole

end CatalogSearch.Number
