import CatalogSearch.Time.Instant

/-!
# Time order

Instants are ordered by their seconds, then by their nanoseconds, and no two stand in one place.
-/

set_option autoImplicit false

namespace CatalogSearch.Time.Instant

theorem lt_iff {a b : Instant} :
    a < b ↔ a.seconds < b.seconds ∨ a.seconds = b.seconds ∧ a.nanos < b.nanos := Iff.rfl

theorem le_iff_not_lt {a b : Instant} : a ≤ b ↔ ¬ b < a := Iff.rfl

theorem lt_irrefl (a : Instant) : ¬ a < a := by
  rw [lt_iff]
  omega

theorem lt_trans {a b c : Instant} (hab : a < b) (hbc : b < c) : a < c := by
  rw [lt_iff] at *
  omega

theorem lt_of_lt_of_le {a b c : Instant} (hab : a < b) (hbc : b ≤ c) : a < c := by
  rw [le_iff_not_lt, lt_iff] at hbc
  rw [lt_iff] at *
  omega

theorem eq_of_not_lt {a b : Instant} (hab : ¬ a < b) (hba : ¬ b < a) : a = b := by
  rw [lt_iff] at *
  obtain ⟨seconds, nanos⟩ := a
  obtain ⟨seconds', nanos'⟩ := b
  simp only at hab hba
  rw [mk.injEq]
  omega

instance : Std.TransOrd Instant :=
  inferInstanceAs (Std.TransCmp (compareLex (compareOn Instant.seconds) (compareOn Instant.nanos)))

theorem compare_eq_lt_iff {a b : Instant} : Ord.compare a b = .lt ↔ a < b := by
  have hparts : Ord.compare a b =
      (Ord.compare a.seconds b.seconds).then (Ord.compare a.nanos b.nanos) := rfl
  rw [hparts, Ordering.then_eq_lt, Int.compare_eq_lt, Nat.compare_eq_lt, Std.compare_eq_iff_eq, lt_iff]

instance : Std.LawfulEqOrd Instant where
  eq_of_compare {a b} h := by
    have hparts : (Ord.compare a.seconds b.seconds).then (Ord.compare a.nanos b.nanos) = .eq := h
    rw [Ordering.then_eq_eq, Std.compare_eq_iff_eq, Std.compare_eq_iff_eq] at hparts
    cases a
    cases b
    rw [mk.injEq]
    exact hparts

end CatalogSearch.Time.Instant
