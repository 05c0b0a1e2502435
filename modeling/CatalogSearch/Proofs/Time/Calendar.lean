import CatalogSearch.Time.Calendar
import Mathlib.Tactic.NormNum

/-!
# Days and dates

Every number of days has a date, which exists and from which the same days are counted.  An era of four
hundred years is taken apart into centuries, cycles of four years, years and days; a year is taken to
begin in March.
-/

set_option autoImplicit false

namespace CatalogSearch.Time

/-! ## Days of an era -/

/-- A day of an era: the centuries, cycles of four years and years before it, and the days since March of
its own year.  A year has a last day more when it ends a cycle, unless it also ends a century other than
the last one. -/
structure EraDay (inEra century cycle year day : Int) : Prop where
  century_lt : 0 ≤ century ∧ century < 4
  cycle_lt : 0 ≤ cycle ∧ cycle < 25
  year_lt : 0 ≤ year ∧ year < 4
  day_lt : 0 ≤ day ∧ (day < 365 ∨ day = 365 ∧ year = 3 ∧ (cycle < 24 ∨ century = 3))
  sum : inEra = 36524 * century + 1461 * cycle + 365 * year + day

theorem exists_eraDay {inEra : Int} (hlow : 0 ≤ inEra) (hhigh : inEra < 146097) :
    ∃ century cycle year day, EraDay inEra century cycle year day := by
  obtain ⟨century, hcentury⟩ : ∃ c, c = min (inEra / 36524) 3 := ⟨_, rfl⟩
  obtain ⟨inCentury, hinCentury⟩ : ∃ d, d = inEra - 36524 * century := ⟨_, rfl⟩
  obtain ⟨inCycle, hinCycle⟩ : ∃ d, d = inCentury - 1461 * (inCentury / 1461) := ⟨_, rfl⟩
  refine ⟨century, inCentury / 1461, min (inCycle / 365) 3, inCycle - 365 * min (inCycle / 365) 3,
    ?_, ?_, ?_, ?_, ?_⟩
  · omega
  · omega
  · omega
  · omega
  · omega

section Era

variable {inEra century cycle year day : Int}

/-- The years before a day of an era.  Before it, there are as many leap days as cycles, less those of
centuries. -/
theorem EraDay.year_eq (h : EraDay inEra century cycle year day) :
    (inEra - inEra / 1460 + inEra / 36524 - inEra / 146096) / 365 =
      100 * century + 4 * cycle + year := by
  obtain ⟨hcentury, hcycle, hyear, hday, hsum⟩ := h
  obtain ⟨inCentury, hinCentury⟩ : ∃ d, d = 1461 * cycle + 365 * year + day := ⟨_, rfl⟩
  have hlast : 0 ≤ inCentury ∧ (inCentury < 36524 ∨ inCentury = 36524 ∧ century = 3) := by omega
  have hcenturies : inEra / 36524 - inEra / 146096 = century := by
    have hcases : century = 0 ∨ century = 1 ∨ century = 2 ∨ century = 3 := by omega
    have hera : inEra = 36524 * century + inCentury := by omega
    clear hsum hinCentury
    rcases hcases with rfl | rfl | rfl | rfl
    · omega
    · omega
    · omega
    · omega
  obtain ⟨extra, hextra⟩ : ∃ d, d = 24 * century + cycle + 365 * year + day := ⟨_, rfl⟩
  have hleaps : inEra / 1460 = 25 * century + cycle + extra / 1460 := by omega
  have hleap : extra / 1460 = 0 ∧ extra < 1460 ∨ extra / 1460 = 1 ∧ 1460 ≤ extra := by omega
  omega

/-- The days before a year of an era. -/
theorem EraDay.day_eq (h : EraDay inEra century cycle year day) :
    inEra - (365 * (100 * century + 4 * cycle + year) + (100 * century + 4 * cycle + year) / 4 -
      (100 * century + 4 * cycle + year) / 100) = day := by
  obtain ⟨hcentury, hcycle, hyear, -, hsum⟩ := h
  omega

/-- The year after one with a last day more has a 29 February. -/
theorem EraDay.leap (h : EraDay inEra century cycle year day) (hday : day = 365) (era : Int) :
    isLeapYear (100 * century + 4 * cycle + year + era * 400 + 1) = true := by
  obtain ⟨hcentury, hcycle, -, hlast, -⟩ := h
  unfold isLeapYear
  rw [Int.fmod_eq_emod_of_nonneg _ (by norm_num), Int.fmod_eq_emod_of_nonneg _ (by norm_num),
    Int.fmod_eq_emod_of_nonneg _ (by norm_num)]
  simp only [Bool.or_eq_true, Bool.and_eq_true, beq_iff_eq, bne_iff_ne]
  omega

/-! ## Dates -/

/-- The months since March that have begun on a day of a year. -/
def monthsSinceMarch (day : Int) : Int := (5 * day + 2) / 153

theorem monthsSinceMarch_bounds (hlow : 0 ≤ day) (hhigh : day ≤ 365) :
    0 ≤ monthsSinceMarch day ∧ monthsSinceMarch day < 12 ∧
      (153 * monthsSinceMarch day + 2) / 5 ≤ day := by
  unfold monthsSinceMarch
  omega

/-- The date of a day of an era. -/
theorem EraDay.ofDays_eq (h : EraDay inEra century cycle year day) (era : Int) :
    ∃ month dayOfMonth : Nat,
      (month : Int) = (if monthsSinceMarch day < 10 then monthsSinceMarch day + 3
        else monthsSinceMarch day - 9) ∧
      (dayOfMonth : Int) = day - (153 * monthsSinceMarch day + 2) / 5 + 1 ∧
      Date.ofDays (146097 * era + inEra - 719468) =
        ⟨if (month : Int) ≤ 2 then (100 * century + 4 * cycle + year) + era * 400 + 1
          else (100 * century + 4 * cycle + year) + era * 400, month, dayOfMonth⟩ := by
  have hbounds : 0 ≤ inEra ∧ inEra < 146097 := by
    obtain ⟨hcentury, hcycle, hyearlt, hdaylt, hsum⟩ := h
    omega
  have hshifted : 146097 * era + inEra - 719468 + 719468 = 146097 * era + inEra := by omega
  have hera : (146097 * era + inEra).fdiv 146097 = era := by
    rw [Int.fdiv_eq_ediv_of_nonneg _ (by norm_num)]
    omega
  have hinEra : (146097 * era + inEra).fmod 146097 = inEra := by
    rw [Int.fmod_eq_emod_of_nonneg _ (by norm_num)]
    omega
  obtain ⟨hlow, hhigh, hbegun⟩ := monthsSinceMarch_bounds h.day_lt.1 (by have := h.day_lt; omega)
  have hmonth : 0 ≤ (if monthsSinceMarch day < 10 then monthsSinceMarch day + 3
      else monthsSinceMarch day - 9) := by
    split
    · omega
    · omega
  refine ⟨_, _, Int.toNat_of_nonneg hmonth, Int.toNat_of_nonneg (by omega), ?_⟩
  unfold Date.ofDays
  dsimp only
  rw [hshifted, hera, hinEra, h.year_eq, h.day_eq, ← monthsSinceMarch, Int.toNat_of_nonneg hmonth]

end Era

/-- A number of days is a day of an era. -/
theorem exists_era (days : Int) :
    ∃ era inEra century cycle year day : Int, EraDay inEra century cycle year day ∧
      days = 146097 * era + inEra - 719468 := by
  obtain ⟨century, cycle, year, day, h⟩ := exists_eraDay
    (Int.emod_nonneg (days + 719468) (by norm_num : (146097 : Int) ≠ 0))
    (Int.emod_lt_of_pos (days + 719468) (by norm_num : (0 : Int) < 146097))
  exact ⟨(days + 719468) / 146097, _, century, cycle, year, day, h, by omega⟩

/-- The days counted from the date of a number of days are that number. -/
theorem Date.toDays_ofDays (days : Int) : (Date.ofDays days).toDays = days := by
  obtain ⟨era, inEra, century, cycle, year, day, h, rfl⟩ := exists_era days
  obtain ⟨month, dayOfMonth, hmonth, hdayOfMonth, hdate⟩ := h.ofDays_eq era
  obtain ⟨hlow, hhigh, -⟩ := monthsSinceMarch_bounds h.day_lt.1 (by have := h.day_lt; omega)
  obtain ⟨y, hy⟩ : ∃ y, y = (100 * century + 4 * cycle + year) + era * 400 := ⟨_, rfl⟩
  rw [hdate, ← hy]
  unfold Date.toDays
  dsimp only
  have hmarch : (((month + 9) % 12 : Nat) : Int) = monthsSinceMarch day := by
    clear h
    split at hmonth
    · omega
    · omega
  have hyear : (if month ≤ 2 then (if (month : Int) ≤ 2 then y + 1 else y) - 1
      else if (month : Int) ≤ 2 then y + 1 else y) = y := by
    split
    · omega
    · omega
  obtain ⟨hcentury, hcycle, hyearlt, -, hsum⟩ := h
  have hleaps : y / 4 = 100 * era + 25 * century + cycle := by omega
  have hcenturies : y / 100 = 4 * era + century := by omega
  have heras : y / 400 = era := by omega
  rw [hyear, hmarch, hdayOfMonth, Int.fdiv_eq_ediv_of_nonneg _ (by norm_num),
    Int.fdiv_eq_ediv_of_nonneg _ (by norm_num), Int.fdiv_eq_ediv_of_nonneg _ (by norm_num),
    hleaps, hcenturies, heras]
  omega

/-- The date of a number of days exists. -/
theorem Date.exists?_ofDays (days : Int) : (Date.ofDays days).exists? = true := by
  obtain ⟨era, inEra, century, cycle, year, day, h, rfl⟩ := exists_era days
  obtain ⟨month, dayOfMonth, hmonth, hdayOfMonth, hdate⟩ := h.ofDays_eq era
  have hhigh : day ≤ 365 := by
    have := h.day_lt
    omega
  have hbounds := monthsSinceMarch_bounds h.day_lt.1 hhigh
  have hleap : day = 365 → isLeapYear (100 * century + 4 * cycle + year + era * 400 + 1) = true :=
    fun hday => h.leap hday era
  have hmonths : month = monthsSinceMarch day + 3 ∧ monthsSinceMarch day < 10 ∨
      month = monthsSinceMarch day - 9 ∧ 10 ≤ monthsSinceMarch day := by
    split at hmonth
    · exact Or.inl ⟨hmonth, by omega⟩
    · exact Or.inr ⟨hmonth, by omega⟩
  clear h hmonth
  rw [hdate]
  unfold Date.exists?
  simp only [Bool.and_eq_true, decide_eq_true_eq]
  refine ⟨⟨⟨by omega, by omega⟩, by omega⟩, ?_⟩
  -- the day of the month lies below the length of the month that has begun
  unfold monthsSinceMarch at *
  unfold daysInMonth
  split
  · rename_i hfebruary
    have hyear : (month : Int) ≤ 2 := by omega
    rw [if_pos hyear]
    split
    · omega
    · rename_i hcommon
      have hlast : day ≠ 365 := fun hday => hcommon (hleap hday)
      omega
  · split
    · rename_i hshort
      simp only [Bool.or_eq_true, decide_eq_true_eq] at hshort
      omega
    · omega

end CatalogSearch.Time
