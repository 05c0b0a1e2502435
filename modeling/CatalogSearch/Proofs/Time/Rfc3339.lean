import CatalogSearch.Proofs.Number.Digits
import CatalogSearch.Proofs.Text.Blank
import CatalogSearch.Proofs.Time.Calendar
import CatalogSearch.Time.Rfc3339
import Mathlib.Data.Nat.Digits.Defs

/-!
# Timestamps read back

An instant that a clock can show in a year of four digits is read back from its text.  Every instant that
is read is one that a clock can show.
-/

set_option autoImplicit false

namespace CatalogSearch.Time

open CatalogSearch.Number CatalogSearch.Text

/-! ## Numbers of a given width -/

/-- Digits are read up to a character that is none, or up to as many as may be read. -/
theorem readNumber_digits {least most : Nat} {cs rest : List Char} (h : Digits cs)
    (hleast : least ≤ cs.length) (hmost : cs.length ≤ most)
    (hrest : cs.length = most ∨ ∀ c ∈ rest.head?, isDigit c = false) :
    readNumber least most (cs ++ rest) = some (digitsValue cs, rest) := by
  have hdigits : ∀ c ∈ cs, c.isDigit = true := h
  have htake : ((cs ++ rest).take most).takeWhile Char.isDigit = cs := by
    rw [List.take_append, List.take_of_length_le hmost, List.takeWhile_append_of_pos hdigits]
    rcases hrest with hfull | hnone
    · rw [hfull, Nat.sub_self, List.take_zero, List.takeWhile_nil, List.append_nil]
    · cases rest with
      | nil => rw [List.take_nil, List.takeWhile_nil, List.append_nil]
      | cons c rest =>
        have hc : ¬ c.isDigit = true := by
          rw [Bool.not_eq_true]
          exact hnone c rfl
        cases most - cs.length with
        | zero => rw [List.take_zero, List.takeWhile_nil, List.append_nil]
        | succ n => rw [List.take_succ_cons, List.takeWhile_cons_of_neg hc, List.append_nil]
  unfold readNumber
  dsimp only
  rw [htake, if_neg (Nat.not_lt.mpr hleast), List.drop_left]
  rfl

/-- A number that is read has at most as many digits as may be read, and they are taken from the front. -/
theorem readNumber_cases {least most n : Nat} {cs rest : List Char}
    (h : readNumber least most cs = some (n, rest)) :
    ∃ count, count ≤ most ∧ n < 10 ^ count ∧ cs.length - rest.length = count := by
  obtain ⟨digits, hdigits⟩ : ∃ ds, ds = (cs.take most).takeWhile Char.isDigit := ⟨_, rfl⟩
  have hprefix : digits <+: cs.take most := by
    rw [hdigits]
    exact List.takeWhile_prefix _
  have hlength : digits.length ≤ (cs.take most).length := hprefix.length_le
  rw [List.length_take] at hlength
  have hvalue : digitsValue digits < 10 ^ digits.length := by
    refine digitsValue_lt fun c hc => ?_
    rw [hdigits] at hc
    exact List.mem_takeWhile_imp hc
  unfold readNumber at h
  dsimp only at h
  rw [← hdigits] at h
  split at h
  · cases h
  · obtain ⟨rfl, rfl⟩ := Prod.mk.inj (Option.some_inj.mp h)
    refine ⟨digits.length, by omega, hvalue, ?_⟩
    rw [List.length_drop]
    omega

section Padded

variable {width n : Nat}

theorem digits_padded : Digits (padded width n) :=
  (digits_zeros _).append (digits_digitsText n)

theorem digitsValue_padded : digitsValue (padded width n) = n :=
  (digitsValue_zeros_append _ _).trans (digitsValue_digitsText n)

theorem length_padded (hwidth : 0 < width) (hn : n < 10 ^ width) : (padded width n).length = width := by
  have hlength := Nat.toDigits_length 10 n width hwidth hn
  unfold padded
  rw [List.length_append, List.length_replicate]
  omega

/-- A number with zeros in front is read, when it fills its width or no digit follows. -/
theorem readNumber_padded {least most : Nat} {rest : List Char} (hwidth : 0 < width)
    (hn : n < 10 ^ width) (hleast : least ≤ width) (hmost : width ≤ most)
    (hrest : width = most ∨ ∀ c ∈ rest.head?, isDigit c = false) :
    readNumber least most (padded width n ++ rest) = some (n, rest) := by
  have hlength := length_padded hwidth hn
  rw [readNumber_digits digits_padded (hlength.symm ▸ hleast) (hlength.symm ▸ hmost)
    (hlength.symm ▸ hrest), digitsValue_padded]

end Padded

/-! ## Parts of a timestamp -/

theorem readField_padded {n : Nat} (hn : n < 100) (rest : List Char) :
    readField .strict (padded 2 n ++ rest) = some (n, rest) :=
  readNumber_padded (by decide) hn (Nat.le_refl 2) (Nat.le_refl 2) (Or.inl rfl)

theorem readYear_yearText {year : Int} (hlow : 0 ≤ year) (hhigh : year ≤ 9999) (rest : List Char) :
    readYear .strict (yearText year ++ rest) = some (year, rest) := by
  have hread : readNumber 4 4 (padded 4 year.toNat ++ rest) = some (year.toNat, rest) :=
    readNumber_padded (by decide) (by omega) (Nat.le_refl 4) (Nat.le_refl 4) (Or.inl rfl)
  unfold yearText
  rw [if_pos ⟨hlow, hhigh⟩]
  change (readNumber 4 4 (padded 4 year.toNat ++ rest)).map _ = _
  rw [hread, Option.map_some]
  exact congrArg (fun n => some (n, rest)) (Int.toNat_of_nonneg hlow)

/-- A year that does not have four digits has a sign, which is no year. -/
theorem readYear_signed {year : Int} (h : ¬ (0 ≤ year ∧ year ≤ 9999)) (rest : List Char) :
    readYear .strict (yearText year ++ rest) = none := by
  unfold yearText
  rw [if_neg h, List.cons_append]
  split
  · rfl
  · rfl

theorem readSeparator_cons (mark : Char) (rest : List Char) :
    readSeparator .strict mark (mark :: rest) = some ((), rest) :=
  if_pos rfl

/-- A fraction of a second is read up to what follows it. -/
theorem readFraction_fractionText {nanos : Nat} (hnanos : nanos < 1000000000) {c : Char}
    {rest : List Char} (hc : isDigit c = false) (hpoint : c ≠ '.') :
    readFraction (fractionText nanos ++ c :: rest) = some (nanos, c :: rest) := by
  have hread : ∀ {width n : Nat}, 0 < width → width ≤ 9 → n < 10 ^ width →
      readFraction ('.' :: padded width n ++ c :: rest) = some (n * 10 ^ (9 - width), c :: rest) := by
    intro width n hwidth hmost hn
    have hnumber : readNumber 1 9 (padded width n ++ c :: rest) = some (n, c :: rest) :=
      readNumber_padded hwidth hn hwidth hmost (Or.inr fun c' hc' => by
        rw [← Option.some_inj.mp hc']
        exact hc)
    have hcount : (padded width n ++ c :: rest).length - (c :: rest).length = width := by
      rw [List.length_append, length_padded hwidth hn, Nat.add_sub_cancel]
    have hdrop : (c :: rest).dropWhile Char.isDigit = c :: rest := by
      rw [List.dropWhile_cons_of_neg]
      rw [Bool.not_eq_true]
      exact hc
    rw [List.cons_append, readFraction, hnumber]
    change some (n * 10 ^ (9 - ((padded width n ++ c :: rest).length - (c :: rest).length)),
      (c :: rest).dropWhile Char.isDigit) = _
    rw [hcount, hdrop]
  unfold fractionText
  split
  · rename_i hzero
    rw [hzero, List.nil_append]
    unfold readFraction
    split
    · rename_i heq
      exact absurd (List.cons.inj heq).1 hpoint
    · rfl
  · split
    · rw [hread (by decide) (by decide) (by omega)]
      exact congrArg (fun n => some (n, c :: rest)) (by omega)
    · split
      · rw [hread (by decide) (by decide) (by omega)]
        exact congrArg (fun n => some (n, c :: rest)) (by omega)
      · rw [hread (by decide) (by decide) (by omega)]
        exact congrArg (fun n => some (n, c :: rest)) (by omega)

/-- A fraction of a second is shorter than the second. -/
theorem readFraction_lt {cs rest : List Char} {nanos : Nat} (h : readFraction cs = some (nanos, rest)) :
    nanos < 1000000000 := by
  unfold readFraction at h
  split at h
  · rename_i cs
    obtain ⟨⟨n, after⟩, hnumber, h⟩ := Option.bind_eq_some_iff.mp h
    obtain ⟨count, hmost, hn, hcount⟩ := readNumber_cases hnumber
    obtain ⟨rfl, -⟩ := Prod.mk.inj (Option.some_inj.mp h)
    rw [hcount]
    calc n * 10 ^ (9 - count)
      _ < 10 ^ count * 10 ^ (9 - count) := Nat.mul_lt_mul_of_pos_right hn (Nat.pow_pos (by decide))
      _ = 1000000000 := by rw [← Nat.pow_add, Nat.add_sub_cancel' hmost]
  · obtain ⟨rfl, -⟩ := Prod.mk.inj (Option.some_inj.mp h)
    decide

/-- Hours and minutes of an offset are whole minutes. -/
theorem readOffsetSize_mod {how : Strictness} {cs rest : List Char} {size : Int}
    (h : readOffsetSize how cs = some (size, rest)) : size % 60 = 0 := by
  unfold readOffsetSize at h
  obtain ⟨⟨hours, after⟩, -, h⟩ := Option.bind_eq_some_iff.mp h
  have hminutes : ∀ cs, ((readNumber 2 2 cs).bind fun p =>
      if p.1 < 60 then some (((hours * 3600 + p.1 * 60 : Nat) : Int), p.2) else none) =
        some (size, rest) → size % 60 = 0 := by
    intro cs h
    obtain ⟨⟨minutes, _⟩, -, h⟩ := Option.bind_eq_some_iff.mp h
    split at h
    · obtain ⟨rfl, -⟩ := Prod.mk.inj (Option.some_inj.mp h)
      omega
    · cases h
  cases how with
  | strict =>
    obtain ⟨cs, -, h⟩ := Option.bind_eq_some_iff.mp h
    exact hminutes cs h
  | lenient => exact hminutes _ h

/-- An offset is of whole minutes. -/
theorem readOffset_mod {how : Strictness} {cs rest : List Char} {offset : Int}
    (h : readOffset how cs = some (offset, rest)) : offset % 60 = 0 := by
  unfold readOffset at h
  dsimp only at h
  split at h
  · obtain ⟨rfl, -⟩ := Prod.mk.inj (Option.some_inj.mp h)
    rfl
  · split at h
    · cases h
    · split at h
      · obtain ⟨rfl, -⟩ := Prod.mk.inj (Option.some_inj.mp h)
        rfl
      · split at h
        · exact readOffsetSize_mod h
        · split at h
          · obtain ⟨⟨size, _⟩, hread, heq⟩ := Option.map_eq_some_iff.mp h
            obtain ⟨rfl, -⟩ := Prod.mk.inj heq
            have := readOffsetSize_mod hread
            omega
          · cases h

/-! ## Whole timestamps -/

/-- The instant of a date, a time of the day and an offset, all of them as they are read. -/
def instantOf (date : Date) (hour minute second nanos : Nat) (offset : Int) : Instant :=
  ⟨date.toDays * 86400 + ((hour * 3600 + minute * 60 + min second 59 : Nat) : Int) - offset,
    nanos + if second = 60 then 1000000000 else 0⟩

/-- The parts of a timestamp are read one after the other. -/
inductive Parsed (how : Strictness) (cs : List Char) (date : Date) (hour minute second nanos : Nat)
    (offset : Int) (rest : List Char) : Prop where
  | parts {afterYear beforeMonth afterMonth beforeDay afterDay beforeHour afterHour beforeMinute
        afterMinute beforeSecond afterSecond afterFraction : List Char}
      (year : readYear how cs = some (date.year, afterYear))
      (dash : readSeparator how '-' afterYear = some ((), beforeMonth))
      (month : readField how beforeMonth = some (date.month, afterMonth))
      (dash' : readSeparator how '-' afterMonth = some ((), beforeDay))
      (day : readField how beforeDay = some (date.day, afterDay))
      (mark : readTimeMark afterDay = some ((), beforeHour))
      (hour : readField how beforeHour = some (hour, afterHour))
      (colon : readSeparator how ':' afterHour = some ((), beforeMinute))
      (minute : readField how beforeMinute = some (minute, afterMinute))
      (colon' : readSeparator how ':' afterMinute = some ((), beforeSecond))
      (second : readField how beforeSecond = some (second, afterSecond))
      (fraction : readFraction afterSecond = some (nanos, afterFraction))
      (offset : readOffset how (skipBlank how afterFraction) = some (offset, rest))

section Whole

variable {how : Strictness} {cs rest : List Char} {date : Date} {hour minute second nanos : Nat}
  {offset : Int}

theorem bind_of_read {α β : Type} {r : Option α} {a : α} (h : r = some a) (next : α → Option β) :
    (r >>= next) = next a := by
  rw [h]
  rfl

/-- A timestamp of these parts is that instant, if it is one of the calendar and nothing follows. -/
theorem Parsed.readTimestamp_eq (h : Parsed how cs date hour minute second nanos offset rest) :
    readTimestamp how cs =
      if (date.exists? && decide (hour < 24) && decide (minute < 60) && decide (second ≤ 60) &&
          decide (offset.natAbs < 86400) && (skipBlank how rest).isEmpty &&
          (instantOf date hour minute second nanos 0).inRange &&
          (instantOf date hour minute second nanos offset).inRange) = true then
        some (instantOf date hour minute second nanos offset)
      else none := by
  obtain ⟨hyear, hdash, hmonth, hdash', hday, hmark, hhour, hcolon, hminute, hcolon', hsecond, hfraction,
    hoffset⟩ := h
  have hutc : instantOf date hour minute second nanos 0 =
      ⟨date.toDays * 86400 + ((hour * 3600 + minute * 60 + min second 59 : Nat) : Int),
        nanos + if second = 60 then 1000000000 else 0⟩ := by
    rw [instantOf, Int.sub_zero]
  rw [hutc]
  unfold readTimestamp
  refine (bind_of_read hyear _).trans ?_
  refine (bind_of_read hdash _).trans ?_
  refine (bind_of_read hmonth _).trans ?_
  refine (bind_of_read hdash' _).trans ?_
  refine (bind_of_read hday _).trans ?_
  refine (bind_of_read hmark _).trans ?_
  refine (bind_of_read hhour _).trans ?_
  refine (bind_of_read hcolon _).trans ?_
  refine (bind_of_read hminute _).trans ?_
  refine (bind_of_read hcolon' _).trans ?_
  refine (bind_of_read hsecond _).trans ?_
  refine (bind_of_read hfraction _).trans ?_
  exact bind_of_read hoffset _

theorem exists_parsed {t : Instant} (h : readTimestamp how cs = some t) :
    ∃ date hour minute second nanos offset rest,
      Parsed how cs date hour minute second nanos offset rest := by
  unfold readTimestamp at h
  obtain ⟨⟨year, _⟩, hyear, h⟩ := Option.bind_eq_some_iff.mp h
  obtain ⟨⟨_, _⟩, hdash, h⟩ := Option.bind_eq_some_iff.mp h
  obtain ⟨⟨month, _⟩, hmonth, h⟩ := Option.bind_eq_some_iff.mp h
  obtain ⟨⟨_, _⟩, hdash', h⟩ := Option.bind_eq_some_iff.mp h
  obtain ⟨⟨day, _⟩, hday, h⟩ := Option.bind_eq_some_iff.mp h
  obtain ⟨⟨_, _⟩, hmark, h⟩ := Option.bind_eq_some_iff.mp h
  obtain ⟨⟨hour, _⟩, hhour, h⟩ := Option.bind_eq_some_iff.mp h
  obtain ⟨⟨_, _⟩, hcolon, h⟩ := Option.bind_eq_some_iff.mp h
  obtain ⟨⟨minute, _⟩, hminute, h⟩ := Option.bind_eq_some_iff.mp h
  obtain ⟨⟨_, _⟩, hcolon', h⟩ := Option.bind_eq_some_iff.mp h
  obtain ⟨⟨second, _⟩, hsecond, h⟩ := Option.bind_eq_some_iff.mp h
  obtain ⟨⟨nanos, _⟩, hfraction, h⟩ := Option.bind_eq_some_iff.mp h
  obtain ⟨⟨offset, rest⟩, hoffset, -⟩ := Option.bind_eq_some_iff.mp h
  exact ⟨⟨year, month, day⟩, hour, minute, second, nanos, offset, rest, hyear, hdash, hmonth, hdash',
    hday, hmark, hhour, hcolon, hminute, hcolon', hsecond, hfraction, hoffset⟩

end Whole

/-! ## Instants that a clock shows -/

/-- A clock can show the instant: the calendar reaches it, and it has nanoseconds of one second, or of the
leap second that follows the last second of a minute. -/
structure Instant.Clocked (t : Instant) : Prop where
  reached : t.inRange = true
  nanos_lt : t.nanos < 1000000000 ∨ t.seconds % 60 = 59 ∧ t.nanos < 2000000000

/-- Every instant that is read is one that a clock can show. -/
theorem clocked_of_readTimestamp {how : Strictness} {cs : List Char} {t : Instant}
    (h : readTimestamp how cs = some t) : t.Clocked := by
  obtain ⟨date, hour, minute, second, nanos, offset, rest, hparsed⟩ := exists_parsed h
  rw [hparsed.readTimestamp_eq] at h
  obtain ⟨-, -, -, -, -, -, -, -, -, -, -, hfraction, hoffset⟩ := hparsed
  have hnanos := readFraction_lt hfraction
  have hminutes := readOffset_mod hoffset
  split at h
  · rename_i hwhole
    obtain rfl := Option.some_inj.mp h
    refine ⟨(Bool.and_eq_true_iff.mp hwhole).2, ?_⟩
    unfold instantOf
    by_cases hleap : second = 60
    · rw [if_pos hleap]
      dsimp only
      right
      omega
    · rw [if_neg hleap]
      exact Or.inl hnanos
  · cases h

/-! ## Texts of instants -/

namespace Instant

variable {t : Instant}

/-- The year of an instant. -/
def year (t : Instant) : Int := (Date.ofDays (t.seconds.fdiv 86400)).year

/-- The month and the day of a date that exists have two digits. -/
theorem lt_of_exists {date : Date} (h : date.exists? = true) : date.month < 100 ∧ date.day < 100 := by
  unfold Date.exists? at h
  simp only [Bool.and_eq_true, decide_eq_true_eq] at h
  obtain ⟨⟨⟨-, hmonth⟩, -⟩, hday⟩ := h
  have hlength : daysInMonth date.year date.month ≤ 31 := by
    unfold daysInMonth
    split
    · split
      · decide
      · decide
    · split
      · decide
      · exact Nat.le_refl 31
  omega

/-- The seconds of an instant since its day began. -/
def secondOfDay (t : Instant) : Nat := (t.seconds.fmod 86400).toNat

theorem secondOfDay_lt (t : Instant) : t.secondOfDay < 86400 := by
  have hlt := Int.fmod_lt_of_pos t.seconds (by decide : (0 : Int) < 86400)
  unfold secondOfDay
  omega

theorem seconds_eq (t : Instant) : t.seconds = t.seconds.fdiv 86400 * 86400 + t.secondOfDay := by
  have hnonneg := Int.fmod_nonneg_of_pos t.seconds (by decide : (0 : Int) < 86400)
  have hsum := Int.mul_fdiv_add_fmod t.seconds 86400
  unfold secondOfDay
  omega

/-- The second of the minute that is shown; the leap second is the sixtieth. -/
def shownSecond (t : Instant) : Nat := t.secondOfDay % 60 + t.nanos / 1000000000

theorem Clocked.shownSecond_le (h : t.Clocked) : t.shownSecond ≤ 60 := by
  have hnanos := h.nanos_lt
  have hseconds := seconds_eq t
  unfold shownSecond
  omega

/-- The parts of the text of an instant are read from it. -/
theorem parsed_text (h : t.Clocked) (hlow : 0 ≤ t.year) (hhigh : t.year ≤ 9999) :
    Parsed .strict t.text.toList (Date.ofDays (t.seconds.fdiv 86400)) (t.secondOfDay / 3600)
      (t.secondOfDay / 60 % 60) t.shownSecond (t.nanos % 1000000000) 0 [] := by
  obtain ⟨hmonth, hday⟩ := lt_of_exists (Date.exists?_ofDays (t.seconds.fdiv 86400))
  have hinDay := secondOfDay_lt t
  have hhour : t.secondOfDay / 3600 < 100 := by omega
  have hminute : t.secondOfDay / 60 % 60 < 100 := by omega
  have hsecond : t.shownSecond < 100 := by
    have := h.shownSecond_le
    omega
  unfold text render
  dsimp only
  rw [String.toList_ofList]
  simp only [List.append_assoc]
  exact .parts (readYear_yearText hlow hhigh _) (readSeparator_cons _ _) (readField_padded hmonth _)
    (readSeparator_cons _ _) (readField_padded hday _) rfl (readField_padded hhour _)
    (readSeparator_cons _ _) (readField_padded hminute _) (readSeparator_cons _ _)
    (readField_padded hsecond _)
    (readFraction_fractionText (Nat.mod_lt _ (by decide)) (by decide) (by decide)) (by decide)

/-- The parts of the text of an instant are that instant. -/
theorem instantOf_parts (h : t.Clocked) :
    instantOf (Date.ofDays (t.seconds.fdiv 86400)) (t.secondOfDay / 3600) (t.secondOfDay / 60 % 60)
      t.shownSecond (t.nanos % 1000000000) 0 = t := by
  have hnanos := h.nanos_lt
  have hseconds := seconds_eq t
  have hminute : t.seconds % 60 = (t.secondOfDay % 60 : Nat) := by omega
  rw [instantOf, Date.toDays_ofDays]
  unfold shownSecond
  obtain ⟨seconds, nanos⟩ := t
  rw [mk.injEq]
  dsimp only at *
  constructor
  · rcases hnanos with hnanos | ⟨hlast, hnanos⟩
    · omega
    · omega
  · split
    · omega
    · omega

/-- An instant that a clock can show in a year of four digits is read back from its text. -/
theorem parse?_text (h : t.Clocked) (hlow : 0 ≤ t.year) (hhigh : t.year ≤ 9999) :
    parse? t.text = some t := by
  have hexists := Date.exists?_ofDays (t.seconds.fdiv 86400)
  have hinDay := secondOfDay_lt t
  have hhour : t.secondOfDay / 3600 < 24 := by omega
  have hminute : t.secondOfDay / 60 % 60 < 60 := by omega
  rw [parse?, (parsed_text h hlow hhigh).readTimestamp_eq, instantOf_parts h, hexists,
    decide_eq_true hhour, decide_eq_true hminute, decide_eq_true h.shownSecond_le, h.reached]
  rfl

/-- An instant is read back from its text exactly when a clock can show it and its year has four
digits. -/
theorem parse?_text_iff : parse? t.text = some t ↔ t.Clocked ∧ 0 ≤ t.year ∧ t.year ≤ 9999 := by
  constructor
  · intro h
    refine ⟨clocked_of_readTimestamp h, ?_⟩
    by_contra hyear
    have hnone : parse? t.text = none := by
      unfold parse? text render readTimestamp
      dsimp only
      rw [String.toList_ofList]
      exact congrArg (· >>= _) (readYear_signed hyear _)
    rw [hnone] at h
    cases h
  · rintro ⟨hclocked, hlow, hhigh⟩
    exact parse?_text hclocked hlow hhigh

/-- There is no white space in the text of an instant. -/
theorem solid_text (t : Instant) : Solid t.text.toList := by
  have hpadded : ∀ width n, Solid (padded width n) := fun width n =>
    (solid_replicate (by decide) _).append (solid_toDigits n)
  have hyear : ∀ year, Solid (yearText year) := by
    intro year
    unfold yearText
    split
    · exact hpadded _ _
    · split
      · exact (hpadded _ _).cons (by decide)
      · exact (hpadded _ _).cons (by decide)
  have hfraction : ∀ nanos, Solid (fractionText nanos) := by
    intro nanos
    unfold fractionText
    split
    · decide
    · split
      · exact (hpadded _ _).cons (by decide)
      · split
        · exact (hpadded _ _).cons (by decide)
        · exact (hpadded _ _).cons (by decide)
  have hfield : ∀ {mark : Char} {n : Nat} {rest : List Char}, isBlank mark = false → Solid rest →
      Solid (mark :: (padded 2 n ++ rest)) :=
    fun hmark hrest => ((hpadded 2 _).append hrest).cons hmark
  have hoffset : Solid "+00:00".toList := by decide
  unfold text render
  dsimp only
  rw [String.toList_ofList, List.append_assoc]
  exact (hyear t.year).append (hfield (by decide) (hfield (by decide) (hfield (by decide)
    (hfield (by decide) (hfield (by decide) ((hfraction _).append hoffset))))))

end Instant

end CatalogSearch.Time
