import CatalogSearch.Catalog.Schema
import CatalogSearch.Proofs.Catalog.NumberText

/-!
# Buckets

A number falls into the bucket of the interval that it lies in.  Whole bounds are written as signed
integers of 64 bits, so bounds beyond these are written alike: two buckets have one label exactly when
they are the same, or both have their bounds at one end of these integers or beyond it.
-/

set_option autoImplicit false

namespace CatalogSearch

open CatalogSearch.Number

/-! ## Ends of the integers -/

/-- The least number above the signed integers of 64 bits, `2 ^ 63`. -/
def int64End : Float := Float.ofBits 0x43E0000000000000

/-- The least signed integer of 64 bits as a number, `-2 ^ 63`. -/
def int64Start : Float := Float.ofBits 0xC3E0000000000000

theorem isFinite_int64End : int64End.isFinite = true := by decide

theorem isFinite_int64Start : int64Start.isFinite = true := by decide

theorem value_int64End : value int64End = 2 ^ 63 := by
  have hwhole : whole? int64End = some (2 ^ 63) := by decide
  rw [(whole?_eq_some_iff.mp hwhole).2]
  norm_num

theorem value_int64Start : value int64Start = -2 ^ 63 := by
  have hwhole : whole? int64Start = some (-2 ^ 63) := by decide
  rw [(whole?_eq_some_iff.mp hwhole).2]
  norm_num

theorem int64End_le_iff {x : Float} (hx : x.isFinite = true) : int64End ≤ x ↔ 2 ^ 63 ≤ value x := by
  rw [le_iff_value isFinite_int64End hx, value_int64End]

theorem le_int64Start_iff {x : Float} (hx : x.isFinite = true) :
    x ≤ int64Start ↔ value x ≤ -2 ^ 63 := by
  rw [le_iff_value hx isFinite_int64Start, value_int64Start]

/-- A number with a large value is an integer, and there is none between the largest signed integer of
64 bits and the next one. -/
theorem whole_of_large {x : Float} (hx : x.isFinite = true) (h : 2 ^ 63 - 1 ≤ |value x|) :
    2 ^ 63 ≤ |value x| ∧ ∃ n, whole? x = some n := by
  obtain ⟨negative, mantissa, exponent, hparts⟩ := isFinite_iff.mp hx
  have hcanonical := (parts_eq_finite_iff.mp hparts).1
  rw [value, hparts, abs_value] at h ⊢
  have hexponent : 11 ≤ exponent := by
    by_contra hlt
    have hsmall : (mantissa : ℚ) ≤ 2 * hiddenBit - 1 := by
      have := hcanonical.small
      rw [le_sub_iff_add_le]
      exact_mod_cast this
    have hunit : (2 : ℚ) ^ exponent ≤ 2 ^ (10 : Int) := zpow_le_zpow_right₀ one_le_two (by omega)
    have hbound : dyadic mantissa exponent ≤ (2 * hiddenBit - 1) * 2 ^ (10 : Int) :=
      mul_le_mul hsmall hunit (two_zpow_pos exponent).le (by norm_num [hiddenBit])
    norm_num [hiddenBit] at hbound
    linarith
  have hfull : (hiddenBit : ℚ) ≤ mantissa := by
    exact_mod_cast hcanonical.full.resolve_right (by omega)
  constructor
  · calc (2 : ℚ) ^ 63
      _ = hiddenBit * 2 ^ (11 : Int) := by norm_num [hiddenBit]
      _ ≤ dyadic mantissa exponent :=
          mul_le_mul hfull (zpow_le_zpow_right₀ one_le_two hexponent) (two_zpow_pos 11).le
            (Nat.cast_nonneg _)
  · obtain ⟨n, rfl⟩ := Int.eq_ofNat_of_zero_le (by omega : 0 ≤ exponent)
    refine ⟨if negative then -(mantissa * 2 ^ n : Nat) else (mantissa * 2 ^ n : Nat), ?_⟩
    rw [whole?_eq_some_iff, value, hparts]
    refine ⟨hx, ?_⟩
    cases negative with
    | false =>
      change dyadic mantissa n = _
      rw [dyadic, zpow_natCast]
      push_cast
      rfl
    | true =>
      change -dyadic mantissa n = _
      rw [dyadic, zpow_natCast]
      push_cast
      rfl

/-! ## Texts of bounds -/

section Bounds

variable {b b' : Float}

/-- No number lies strictly between the largest signed integer of 64 bits and the next one. -/
theorem end_le_of_most_le {n : Int} (h : whole? b = some n) (hn : 2 ^ 63 - 1 ≤ n) :
    2 ^ 63 ≤ value b := by
  obtain ⟨hb, hvalue⟩ := whole?_eq_some_iff.mp h
  have hmost : (2 : ℚ) ^ 63 - 1 ≤ value b := by
    rw [hvalue]
    exact_mod_cast hn
  have habs : |value b| = value b := abs_of_nonneg (le_trans (by norm_num) hmost)
  rw [← habs] at hmost ⊢
  exact (whole_of_large hb hmost).1

/-- Bounds with one text are equal, or both lie at one end of the signed integers of 64 bits or beyond
it. -/
theorem value_of_boundText_eq (hb : b.isFinite = true) (hb' : b'.isFinite = true)
    (h : boundText b = boundText b') :
    value b = value b' ∨ (2 ^ 63 ≤ value b ∧ 2 ^ 63 ≤ value b') ∨
      (value b ≤ -2 ^ 63 ∧ value b' ≤ -2 ^ 63) := by
  unfold boundText at h
  cases hwhole : whole? b with
  | none =>
    cases hwhole' : whole? b' with
    | none =>
      rw [hwhole, hwhole'] at h
      have hread := (read?_plainText hb).symm.trans ((congrArg read? h).trans (read?_plainText hb'))
      exact Or.inl (congrArg value (Option.some_inj.mp hread))
    | some n' =>
      rw [hwhole, hwhole'] at h
      have hpoint := point_mem_plainText hb hwhole
      rw [congrArg String.toList h] at hpoint
      exact absurd hpoint (FieldValue.point_not_mem_intText _)
  | some n =>
    cases hwhole' : whole? b' with
    | none =>
      rw [hwhole, hwhole'] at h
      have hpoint := point_mem_plainText hb' hwhole'
      rw [← congrArg String.toList h] at hpoint
      exact absurd hpoint (FieldValue.point_not_mem_intText _)
    | some n' =>
      rw [hwhole, hwhole'] at h
      have hclamp : clampInt64 n = clampInt64 n' := FieldValue.intText_inj h
      unfold clampInt64 int64Least int64Most at hclamp
      have hvalue := (whole?_eq_some_iff.mp hwhole).2
      have hvalue' := (whole?_eq_some_iff.mp hwhole').2
      have hcases : n = n' ∨ (2 ^ 63 - 1 ≤ n ∧ 2 ^ 63 - 1 ≤ n') ∨ (n ≤ -2 ^ 63 ∧ n' ≤ -2 ^ 63) := by
        omega
      rcases hcases with rfl | ⟨hn, hn'⟩ | ⟨hn, hn'⟩
      · exact Or.inl (hvalue.trans hvalue'.symm)
      · exact Or.inr (Or.inl ⟨end_le_of_most_le hwhole hn, end_le_of_most_le hwhole' hn'⟩)
      · refine Or.inr (Or.inr ⟨?_, ?_⟩)
        · rw [hvalue]
          exact_mod_cast hn
        · rw [hvalue']
          exact_mod_cast hn'

/-- From the end of the signed integers of 64 bits on, a bound is written as the largest of them. -/
theorem boundText_of_end_le (hb : b.isFinite = true) (h : 2 ^ 63 ≤ value b) :
    boundText b = FieldValue.intText int64Most := by
  have hlarge : (2 : ℚ) ^ 63 - 1 ≤ |value b| :=
    le_trans (by norm_num) (le_trans h (le_abs_self (value b)))
  obtain ⟨-, n, hwhole⟩ := whole_of_large hb hlarge
  rw [(whole?_eq_some_iff.mp hwhole).2] at h
  have hn : 2 ^ 63 ≤ n := by exact_mod_cast h
  have hclamp : clampInt64 n = int64Most := by
    unfold clampInt64 int64Least int64Most
    omega
  unfold boundText
  rw [hwhole]
  exact congrArg FieldValue.intText hclamp

/-- From the start of the signed integers of 64 bits down, a bound is written as the least of them. -/
theorem boundText_of_le_start (hb : b.isFinite = true) (h : value b ≤ -2 ^ 63) :
    boundText b = FieldValue.intText int64Least := by
  have hlarge : (2 : ℚ) ^ 63 - 1 ≤ |value b| :=
    le_trans (by norm_num) (le_trans (le_neg_of_le_neg h) (neg_le_abs (value b)))
  obtain ⟨-, n, hwhole⟩ := whole_of_large hb hlarge
  rw [(whole?_eq_some_iff.mp hwhole).2] at h
  have hn : n ≤ -2 ^ 63 := by exact_mod_cast h
  have hclamp : clampInt64 n = int64Least := by
    unfold clampInt64 int64Least int64Most
    omega
  unfold boundText
  rw [hwhole]
  exact congrArg FieldValue.intText hclamp

/-! ## Labels -/

/-- The text of a finite bound has digits and at most a point, with a minus in front of them if it is
negative. -/
theorem exists_boundText_eq (hb : b.isFinite = true) :
    ∃ (negative : Bool) (body : List Char),
      (boundText b).toList = (if negative then ['-'] else []) ++ body ∧ body ≠ [] ∧
        ∀ c ∈ body, isDigit c = true ∨ c = '.' := by
  unfold boundText
  split
  · refine ⟨_, _, FieldValue.toList_intText _, Nat.toDigits_ne_nil, fun c hc => ?_⟩
    exact Or.inl (digits_digitsText _ c hc)
  · obtain ⟨negative, mantissa, exponent, hparts⟩ := isFinite_iff.mp hb
    obtain ⟨d, -, htext⟩ := exists_plainText_eq hparts
    refine ⟨negative, positional d, htext, ?_, fun c hc => digit_or_point_of_mem_positional hc⟩
    obtain ⟨c, rest, hd, -⟩ := positional_head d
    rw [hd]
    exact List.cons_ne_nil _ _

theorem plus_not_mem_boundText (hb : b.isFinite = true) : '+' ∉ (boundText b).toList := by
  obtain ⟨negative, body, htext, -, hbody⟩ := exists_boundText_eq hb
  rw [htext, List.mem_append, not_or]
  constructor
  · cases negative with
    | false => exact List.not_mem_nil
    | true => decide
  · intro hplus
    exact absurd (hbody _ hplus) (by decide)

/-- A minus can only begin the text of a bound. -/
theorem minus_not_mem_tail_boundText (hb : b.isFinite = true) :
    ∃ c rest, (boundText b).toList = c :: rest ∧ '-' ∉ rest := by
  obtain ⟨negative, body, htext, hne, hbody⟩ := exists_boundText_eq hb
  have hminus : '-' ∉ body := fun hmem => absurd (hbody _ hmem) (by decide)
  cases negative with
  | true => exact ⟨'-', body, htext, hminus⟩
  | false =>
    cases body with
    | nil => exact absurd rfl hne
    | cons c rest => exact ⟨c, rest, htext, fun hmem => hminus (List.mem_cons_of_mem c hmem)⟩

/-- Where a character first occurs, the text splits in one way. -/
theorem append_cons_inj_of_first {c : Char} {cs cs' rest rest' : List Char} (h : c ∉ cs) (h' : c ∉ cs')
    (heq : cs ++ c :: rest = cs' ++ c :: rest') : cs = cs' ∧ rest = rest' := by
  have htake : ∀ {xs ys : List Char}, c ∉ xs → (xs ++ c :: ys).takeWhile (· != c) = xs := by
    intro xs ys hxs
    have hall : ∀ x ∈ xs, (x != c) = true := fun x hx => bne_iff_ne.mpr fun hxc => hxs (hxc ▸ hx)
    rw [List.takeWhile_append_of_pos hall, List.takeWhile_cons, bne_self_eq_false,
      if_neg Bool.false_ne_true, List.append_nil]
  have hcs : cs = cs' := (htake h).symm.trans ((congrArg _ heq).trans (htake h'))
  rw [hcs] at heq
  exact ⟨hcs, (List.cons.inj (List.append_cancel_left heq)).2⟩

/-- The label of the last bucket is the label of no other. -/
theorem open_label_ne {u : Float} (hb' : b'.isFinite = true) (hu : u.isFinite = true) :
    bucketLabel b none ≠ bucketLabel b' (some u) := by
  intro heq
  have hplus : '+' ∈ (bucketLabel b none).toList := by
    rw [bucketLabel, String.toList_append]
    exact List.mem_append_right _ List.mem_cons_self
  rw [heq, bucketLabel, String.toList_append, String.toList_append, List.mem_append,
    List.mem_append] at hplus
  rcases hplus with (hplus | hplus) | hplus
  · exact plus_not_mem_boundText hb' hplus
  · exact absurd hplus (by decide)
  · exact plus_not_mem_boundText hu hplus

/-- Buckets have one label exactly when their bounds have one text each. -/
theorem bucketLabel_eq_iff {u u' : Option Float} (hb : b.isFinite = true) (hb' : b'.isFinite = true)
    (hu : ∀ x ∈ u, x.isFinite = true) (hu' : ∀ x ∈ u', x.isFinite = true) :
    bucketLabel b u = bucketLabel b' u' ↔
      boundText b = boundText b' ∧ u.map boundText = u'.map boundText := by
  constructor
  · intro h
    cases u with
    | none =>
      cases u' with
      | none =>
        have htexts := congrArg String.toList h
        rw [bucketLabel, bucketLabel, String.toList_append, String.toList_append] at htexts
        exact ⟨String.toList_inj.mp (List.append_cancel_right htexts), rfl⟩
      | some v' => exact absurd h (open_label_ne hb' (hu' v' rfl))
    | some v =>
      cases u' with
      | none => exact absurd h.symm (open_label_ne hb (hu v rfl))
      | some v' =>
        obtain ⟨c, rest, hc, hrest⟩ := minus_not_mem_tail_boundText hb
        obtain ⟨c', rest', hc', hrest'⟩ := minus_not_mem_tail_boundText hb'
        have htexts := congrArg String.toList h
        simp only [bucketLabel, String.toList_append, List.append_assoc] at htexts
        rw [hc, hc'] at htexts
        obtain ⟨rfl, htails⟩ := List.cons.inj htexts
        obtain ⟨rfl, huppers⟩ := append_cons_inj_of_first hrest hrest' htails
        exact ⟨String.toList_inj.mp (hc.trans hc'.symm),
          congrArg some (String.toList_inj.mp huppers)⟩
  · rintro ⟨hlower, hupper⟩
    cases u with
    | none =>
      cases u' with
      | none => exact congrArg (· ++ "+") hlower
      | some v' => cases hupper
    | some v =>
      cases u' with
      | none => cases hupper
      | some v' =>
        have hv : boundText v = boundText v' := Option.some_inj.mp hupper
        rw [bucketLabel, bucketLabel, hlower, hv]

end Bounds

/-! ## Intervals -/

/-- A number lies in the interval that begins at a bound: it reaches this bound, but not the next one. -/
def InInterval (bounds : List Float) (i : Nat) (x : Float) : Prop :=
  ∃ lower, bounds[i]? = some lower ∧ lower ≤ x ∧ ∀ upper, bounds[i + 1]? = some upper → x < upper

/-- An interval has an end and lies beyond the signed integers of 64 bits. -/
def BeyondIntegers (bounds : List Float) (i : Nat) : Prop :=
  ∃ lower upper, bounds[i]? = some lower ∧ bounds[i + 1]? = some upper ∧ int64End ≤ lower

/-- An interval has an end and lies before the signed integers of 64 bits. -/
def BeforeIntegers (bounds : List Float) (i : Nat) : Prop :=
  ∃ lower upper, bounds[i]? = some lower ∧ bounds[i + 1]? = some upper ∧ upper ≤ int64Start

/-- Two numbers lie in one interval. -/
def SameInterval (bounds : List Float) (x y : Float) : Prop :=
  ∃ i, InInterval bounds i x ∧ InInterval bounds i y

/-- Two numbers lie in intervals whose bounds are all clamped to one integer. -/
def ClampedAlike (bounds : List Float) (x y : Float) : Prop :=
  ∃ i j, InInterval bounds i x ∧ InInterval bounds j y ∧
    (BeyondIntegers bounds i ∧ BeyondIntegers bounds j ∨
      BeforeIntegers bounds i ∧ BeforeIntegers bounds j)

section Intervals

variable {bounds : List Float} {x y : Float}

/-- The bounds after the first one are searched before it. -/
theorem bucketFor?_cons (hx : x.isFinite = true) (lower : Float) (rest : List Float) :
    bucketFor? (lower :: rest) x =
      (bucketFor? rest x).or (if lower ≤ x then some (bucketLabel lower rest.head?) else none) := by
  unfold bucketFor?
  rw [if_pos hx, if_pos hx, bucketLabels, List.zip_cons_cons, List.reverse_cons, List.find?_append,
    Option.map_or]
  congr 1
  by_cases hlower : lower ≤ x
  · rw [if_pos hlower, List.find?_singleton, if_pos (decide_eq_true hlower)]
    rfl
  · rw [if_neg hlower, List.find?_singleton, if_neg (by simpa using hlower)]
    rfl

/-- A number below every bound has no label, and any other one the label of an interval that it lies
in. -/
theorem bucketFor?_cases (hfin : ∀ b ∈ bounds, b.isFinite = true) (hx : x.isFinite = true) :
    (bucketFor? bounds x = none ∧ ∀ b ∈ bounds, x < b) ∨
      ∃ i lower, bounds[i]? = some lower ∧ InInterval bounds i x ∧
        bucketFor? bounds x = some (bucketLabel lower bounds[i + 1]?) := by
  induction bounds with
  | nil =>
    refine Or.inl ⟨?_, fun b hb => absurd hb List.not_mem_nil⟩
    unfold bucketFor?
    rw [if_pos hx]
    rfl
  | cons lower rest ih =>
    rw [bucketFor?_cons hx]
    rcases ih fun b hb => hfin b (List.mem_cons_of_mem lower hb) with
      ⟨hnone, hbelow⟩ | ⟨i, bound, hbound, ⟨bound', hbound', hreach⟩, hlabel⟩
    · rw [hnone, Option.none_or]
      by_cases hlower : lower ≤ x
      · have hnext : (lower :: rest)[0 + 1]? = rest.head? := by
          rw [List.getElem?_cons_succ, List.head?_eq_getElem?]
        refine Or.inr ⟨0, lower, rfl, ⟨lower, rfl, hlower, fun upper hupper => ?_⟩, ?_⟩
        · rw [hnext] at hupper
          exact hbelow upper (List.mem_of_mem_head? hupper)
        · rw [if_pos hlower, hnext]
      · have hfirst : x < lower := by
          have hfinite := hfin lower List.mem_cons_self
          rw [le_iff_value hfinite hx, not_le] at hlower
          exact (lt_iff_value hx hfinite).mpr hlower
        refine Or.inl ⟨if_neg hlower, fun b hb => ?_⟩
        rcases List.mem_cons.mp hb with rfl | hb
        · exact hfirst
        · exact hbelow b hb
    · rw [hlabel]
      exact Or.inr ⟨i + 1, bound, hbound, ⟨bound', hbound', hreach⟩, rfl⟩

/-- Bounds in increasing order have increasing values. -/
theorem value_lt_of_getElem? (hfin : ∀ b ∈ bounds, b.isFinite = true)
    (hinc : bounds.Pairwise (· < ·)) {i j : Nat} {b b' : Float} (hij : i < j)
    (hb : bounds[i]? = some b) (hb' : bounds[j]? = some b') : value b < value b' := by
  obtain ⟨hi, rfl⟩ := List.getElem?_eq_some_iff.mp hb
  obtain ⟨hj, rfl⟩ := List.getElem?_eq_some_iff.mp hb'
  have hlt := List.pairwise_iff_getElem.mp hinc i j hi hj hij
  exact (lt_iff_value (hfin _ (List.getElem_mem hi)) (hfin _ (List.getElem_mem hj))).mp hlt

theorem value_le_of_getElem? (hfin : ∀ b ∈ bounds, b.isFinite = true)
    (hinc : bounds.Pairwise (· < ·)) {i j : Nat} {b b' : Float} (hij : i ≤ j)
    (hb : bounds[i]? = some b) (hb' : bounds[j]? = some b') : value b ≤ value b' := by
  rcases hij.eq_or_lt with rfl | hlt
  · rw [Option.some_inj.mp (hb.symm.trans hb')]
  · exact (value_lt_of_getElem? hfin hinc hlt hb hb').le

/-- The interval of a number begins after no later interval that it lies in. -/
theorem InInterval.le (hfin : ∀ b ∈ bounds, b.isFinite = true) (hinc : bounds.Pairwise (· < ·))
    (hx : x.isFinite = true) {i j : Nat} (hi : InInterval bounds i x) (hj : InInterval bounds j x) :
    j ≤ i := by
  by_contra hlt
  obtain ⟨_, -, -, hupper⟩ := hi
  obtain ⟨b, hb, hreach, -⟩ := hj
  have hlength : j < bounds.length := (List.getElem?_eq_some_iff.mp hb).1
  have hinside : i + 1 < bounds.length := by omega
  have hnext : bounds[i + 1]? = some bounds[i + 1] := List.getElem?_eq_getElem hinside
  have hmem := List.mem_of_getElem? hnext
  have habove := (lt_iff_value hx (hfin _ hmem)).mp (hupper _ hnext)
  have hbelow := (le_iff_value (hfin b (List.mem_of_getElem? hb)) hx).mp hreach
  exact absurd (habove.trans_le (value_le_of_getElem? hfin hinc (by omega) hnext hb))
    (not_lt_of_ge hbelow)

/-- A number lies in one interval. -/
theorem InInterval.unique (hfin : ∀ b ∈ bounds, b.isFinite = true) (hinc : bounds.Pairwise (· < ·))
    (hx : x.isFinite = true) {i j : Nat} (hi : InInterval bounds i x) (hj : InInterval bounds j x) :
    i = j :=
  Nat.le_antisymm (hj.le hfin hinc hx hi) (hi.le hfin hinc hx hj)

/-- Of two intervals with one label, both lie beyond the signed integers of 64 bits or before them. -/
theorem clamped_of_label_eq (hfin : ∀ b ∈ bounds, b.isFinite = true) (hinc : bounds.Pairwise (· < ·))
    {i j : Nat} {b b' : Float} (hij : i < j) (hb : bounds[i]? = some b) (hb' : bounds[j]? = some b')
    (h : bucketLabel b bounds[i + 1]? = bucketLabel b' bounds[j + 1]?) :
    BeyondIntegers bounds i ∧ BeyondIntegers bounds j ∨
      BeforeIntegers bounds i ∧ BeforeIntegers bounds j := by
  have hfinite : ∀ {k : Nat} {c : Float}, bounds[k]? = some c → c.isFinite = true :=
    fun hc => hfin _ (List.mem_of_getElem? hc)
  have hlength : j < bounds.length := (List.getElem?_eq_some_iff.mp hb').1
  -- the lower interval has an end, and so has the other
  obtain ⟨u, hu⟩ : ∃ u, bounds[i + 1]? = some u := ⟨_, List.getElem?_eq_getElem (by omega)⟩
  obtain ⟨hlower, hupper⟩ :=
    (bucketLabel_eq_iff (hfinite hb) (hfinite hb') (fun _ => hfinite) (fun _ => hfinite)).mp h
  rw [hu, Option.map_some] at hupper
  obtain ⟨u', hu', htext⟩ := Option.map_eq_some_iff.mp hupper.symm
  have hlt := value_lt_of_getElem? hfin hinc hij hb hb'
  have hlt' := value_lt_of_getElem? hfin hinc (Nat.add_lt_add_right hij 1) hu hu'
  rcases value_of_boundText_eq (hfinite hb) (hfinite hb') hlower with heq | ⟨hle, hle'⟩ | ⟨-, hle'⟩
  · exact absurd heq hlt.ne
  · exact Or.inl ⟨⟨b, u, hb, hu, (int64End_le_iff (hfinite hb)).mpr hle⟩,
      ⟨b', u', hb', hu', (int64End_le_iff (hfinite hb')).mpr hle'⟩⟩
  · have hbelow : value u ≤ value b' := value_le_of_getElem? hfin hinc hij hu hb'
    rcases value_of_boundText_eq (hfinite hu) (hfinite hu') htext.symm with heq | ⟨hle, -⟩ | ⟨hu₁, hu₂⟩
    · exact absurd heq hlt'.ne
    · exact absurd (hle.trans (hbelow.trans hle')) (by norm_num)
    · exact Or.inr ⟨⟨b, u, hb, hu, (le_int64Start_iff (hfinite hu)).mpr hu₁⟩,
        ⟨b', u', hb', hu', (le_int64Start_iff (hfinite hu')).mpr hu₂⟩⟩

/-- Two intervals that both lie beyond the signed integers of 64 bits, or both before them, have one
label. -/
theorem label_eq_of_clamped (hfin : ∀ b ∈ bounds, b.isFinite = true) (hinc : bounds.Pairwise (· < ·))
    {i j : Nat} {b b' : Float} (hb : bounds[i]? = some b) (hb' : bounds[j]? = some b')
    (h : BeyondIntegers bounds i ∧ BeyondIntegers bounds j ∨
      BeforeIntegers bounds i ∧ BeforeIntegers bounds j) :
    bucketLabel b bounds[i + 1]? = bucketLabel b' bounds[j + 1]? := by
  have hfinite : ∀ {k : Nat} {c : Float}, bounds[k]? = some c → c.isFinite = true :=
    fun hc => hfin _ (List.mem_of_getElem? hc)
  have hbeyond : ∀ {k : Nat} {c : Float}, bounds[k]? = some c → BeyondIntegers bounds k →
      bucketLabel c bounds[k + 1]? =
        FieldValue.intText int64Most ++ "-" ++ FieldValue.intText int64Most := by
    rintro k c hc ⟨lower, upper, hlower, hupper, hend⟩
    obtain rfl := Option.some_inj.mp (hc.symm.trans hlower)
    rw [int64End_le_iff (hfinite hc)] at hend
    have hnext := value_lt_of_getElem? hfin hinc (Nat.lt_succ_self k) hc hupper
    rw [hupper, bucketLabel, boundText_of_end_le (hfinite hc) hend,
      boundText_of_end_le (hfinite hupper) (hend.trans hnext.le)]
  have hbefore : ∀ {k : Nat} {c : Float}, bounds[k]? = some c → BeforeIntegers bounds k →
      bucketLabel c bounds[k + 1]? =
        FieldValue.intText int64Least ++ "-" ++ FieldValue.intText int64Least := by
    rintro k c hc ⟨lower, upper, hlower, hupper, hstart⟩
    obtain rfl := Option.some_inj.mp (hc.symm.trans hlower)
    rw [le_int64Start_iff (hfinite hupper)] at hstart
    have hnext := value_lt_of_getElem? hfin hinc (Nat.lt_succ_self k) hc hupper
    rw [hupper, bucketLabel, boundText_of_le_start (hfinite hc) (hnext.le.trans hstart),
      boundText_of_le_start (hfinite hupper) hstart]
  rcases h with ⟨hi, hj⟩ | ⟨hi, hj⟩
  · rw [hbeyond hb hi, hbeyond hb' hj]
  · rw [hbefore hb hi, hbefore hb' hj]

/-- Over finite bounds in increasing order, a finite number has no label exactly when it lies below the
first bound.  Two finite numbers with labels have the same one exactly when they lie in one interval, or
in intervals with ends that lie beyond the signed integers of 64 bits, or before them. -/
theorem bucketFor?_faithful (hne : bounds ≠ []) (hfin : ∀ b ∈ bounds, b.isFinite = true)
    (hinc : bounds.Pairwise (· < ·)) (hx : x.isFinite = true) (hy : y.isFinite = true) :
    (bucketFor? bounds x = none ↔ x < bounds.head hne) ∧
      ∀ label label', bucketFor? bounds x = some label → bucketFor? bounds y = some label' →
        (label = label' ↔ SameInterval bounds x y ∨ ClampedAlike bounds x y) := by
  constructor
  · rcases bucketFor?_cases hfin hx with ⟨hnone, hbelow⟩ | ⟨i, b, hb, ⟨b', hb', hreach, -⟩, hlabel⟩
    · exact iff_of_true hnone (hbelow _ (List.head_mem hne))
    · refine iff_of_false (by rw [hlabel]; exact Option.some_ne_none _) fun hlt => ?_
      have hfirst : bounds[0]? = some (bounds.head hne) := by
        rw [← List.head?_eq_getElem?, List.head?_eq_some_head]
      have hle := value_le_of_getElem? hfin hinc (Nat.zero_le i) hfirst hb'
      rw [lt_iff_value hx (hfin _ (List.head_mem hne))] at hlt
      rw [le_iff_value (hfin b' (List.mem_of_getElem? hb')) hx] at hreach
      exact absurd (hle.trans hreach) (not_le_of_gt hlt)
  · intro label label' hlabel hlabel'
    rcases bucketFor?_cases hfin hx with ⟨hnone, -⟩ | ⟨i, b, hb, hi, hsome⟩
    · rw [hnone] at hlabel
      cases hlabel
    rcases bucketFor?_cases hfin hy with ⟨hnone, -⟩ | ⟨j, b', hb', hj, hsome'⟩
    · rw [hnone] at hlabel'
      cases hlabel'
    obtain rfl := Option.some_inj.mp (hsome.symm.trans hlabel)
    obtain rfl := Option.some_inj.mp (hsome'.symm.trans hlabel')
    constructor
    · intro heq
      rcases Nat.lt_trichotomy i j with hij | rfl | hij
      · exact Or.inr ⟨i, j, hi, hj, clamped_of_label_eq hfin hinc hij hb hb' heq⟩
      · exact Or.inl ⟨i, hi, hj⟩
      · exact Or.inr ⟨i, j, hi, hj,
          (clamped_of_label_eq hfin hinc hij hb' hb heq.symm).imp And.symm And.symm⟩
    · rintro (⟨k, hk, hk'⟩ | ⟨k, k', hk, hk', hclamped⟩)
      · obtain rfl := hk.unique hfin hinc hx hi
        obtain rfl := hk'.unique hfin hinc hy hj
        rw [Option.some_inj.mp (hb.symm.trans hb')]
      · obtain rfl := hk.unique hfin hinc hx hi
        obtain rfl := hk'.unique hfin hinc hy hj
        exact label_eq_of_clamped hfin hinc hb hb' hclamped

/-- A price at a bound is in the bucket that begins there, and no longer in the one before. -/
theorem bucketFor?_faithful_at_bound :
    bucketFor? [0, 100, 500] 99 = some "0-100" ∧ bucketFor? [0, 100, 500] 100 = some "100-500" ∧
      ¬ (SameInterval [0, 100, 500] 99 100 ∨ ClampedAlike [0, 100, 500] 99 100) := by
  have hlabel : bucketFor? [0, 100, 500] 99 = some "0-100" := by decide +kernel
  have hlabel' : bucketFor? [0, 100, 500] 100 = some "100-500" := by decide
  have hfaithful := (@bucketFor?_faithful [0, 100, 500] 99 100 (List.cons_ne_nil _ _)
    (by decide) (by decide) (by decide) (by decide)).2 _ _ hlabel hlabel'
  exact ⟨hlabel, hlabel', fun hshared => absurd (hfaithful.mpr hshared) (by decide)⟩

/-- Beyond the integers of 64 bits, numbers of two intervals have one label. -/
theorem intervals_share_label :
    ¬ ∀ (bounds : List Float) (x y : Float) (hne : bounds ≠ []), (∀ b ∈ bounds, b.isFinite = true) →
      bounds.Pairwise (· < ·) → x.isFinite = true → y.isFinite = true →
        (bucketFor? bounds x = none ↔ x < bounds.head hne) ∧
          ∀ label label', bucketFor? bounds x = some label → bucketFor? bounds y = some label' →
            (label = label' ↔ SameInterval bounds x y) := by
  intro hall
  have hlabel : bucketFor? [1e19, 2e19, 3e19] 15e18 =
      some "9223372036854775807-9223372036854775807" := by decide
  have hlabel' : bucketFor? [1e19, 2e19, 3e19] 25e18 =
      some "9223372036854775807-9223372036854775807" := by decide
  obtain ⟨i, ⟨lower, hlower, hreach, -⟩, ⟨-, -, -, hend⟩⟩ :=
    ((hall [1e19, 2e19, 3e19] 15e18 25e18 (List.cons_ne_nil _ _) (by decide)
      (by decide) (by decide) (by decide)).2 _ _ hlabel hlabel').mp rfl
  -- the first interval ends before the second number, and the others begin after the first one
  rcases i with _ | _ | _ | i
  · exact absurd (hend 2e19 rfl) (by decide)
  · obtain rfl := Option.some_inj.mp hlower
    exact absurd hreach (by decide)
  · obtain rfl := Option.some_inj.mp hlower
    exact absurd hreach (by decide)
  · exact absurd (List.getElem?_eq_some_iff.mp hlower).1 (by simp)

end Intervals

end CatalogSearch
