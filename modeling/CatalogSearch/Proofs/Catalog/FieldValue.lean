import CatalogSearch.Proofs.Catalog.NumberText
import CatalogSearch.Proofs.Number.Printed
import CatalogSearch.Proofs.Time.Rfc3339

/-!
# Facet values as filters

Facets count a value under a text, and a filter on this text finds the value again, unless the text is
not how filters ask for it: a filter is trimmed, no number equals an infinite one, and a timestamp has a
year of four digits.
-/

set_option autoImplicit false

namespace CatalogSearch.FieldValue

open CatalogSearch.Number CatalogSearch.Text CatalogSearch.Time

/-! ## Values of one kind -/

theorem matchesFilter_boolText (b : Bool) : matchesFilter (.bool b) (boolText b) = true := by
  unfold matchesFilter
  dsimp only
  rw [trim_eq_self_of_solid (solid_boolText b), beq_self_eq_true]

theorem solid_numberText (x : Float) : Solid (numberText x).toList := by
  have hplain : Solid (plainText x).toList := solid_textWith solid_positional x
  unfold numberText
  split
  · split
    · exact solid_intText _
    · exact hplain
  · exact hplain

/-- A filter on what is shown of a number finds it when it is finite; no number is close to another
one. -/
theorem matchesFilter_numberText_iff (x : Float) :
    matchesFilter (.number x) (numberText x) = true ↔ x.isFinite = true := by
  unfold matchesFilter
  dsimp only
  rw [trim_eq_self_of_solid (solid_numberText x)]
  cases hx : x.isFinite with
  | true =>
    obtain ⟨y, hread, hy, hvalue⟩ := read?_numberText hx
    rw [hread]
    exact iff_of_true (close_of_value_eq hy hx hvalue) rfl
  | false =>
    refine iff_of_false ?_ Bool.false_ne_true
    cases read? (numberText x) with
    | none => exact Bool.false_ne_true
    | some y => exact ne_true_of_eq_false (close_eq_false_of_not_finite hx)

/-- A filter on a text finds it when the text has no white space at its ends. -/
theorem matchesFilter_text_iff (s : String) : matchesFilter (.text s) s = true ↔ trim s = s := by
  unfold matchesFilter equalIgnoringAsciiCase
  dsimp only
  rw [beq_iff_eq]
  constructor
  · intro h
    -- as many characters are left, so none were trimmed
    have hlength := congrArg List.length h
    rw [List.length_map, List.length_map, trim, String.toList_ofList] at hlength
    rw [trim, (trimChars_sublist s.toList).eq_of_length hlength.symm, String.ofList_toList]
  · intro h
    rw [h]

/-- A filter on the text of an instant finds it when a clock can show it and its year has four digits. -/
theorem matchesFilter_instantText_iff (t : Instant) :
    matchesFilter (.timestamp t) t.text = true ↔ t.Clocked ∧ 0 ≤ t.year ∧ t.year ≤ 9999 := by
  unfold matchesFilter
  dsimp only
  rw [trim_eq_self_of_solid t.solid_text, beq_iff_eq]
  exact Instant.parse?_text_iff

/-! ## Values of every kind -/

/-- What a value must be for a filter on its facet text to find it: a filter is read as a text without white
space at its ends, as a number to be close to, or as a timestamp in RFC 3339. -/
def FiltersBack : FieldValue → Prop
  | .null => False
  | .bool _ => True
  | .number x => x.isFinite = true
  | .text s => trim s = s
  | .timestamp t => t.Clocked ∧ 0 ≤ t.year ∧ t.year ≤ 9999

/-- A filter on the text that facets count a value under finds a truth value, a finite number, a text with
no white space at its ends and a timestamp of a year of four digits, and no other value. -/
theorem matchesFilter_facetValue_iff {v : FieldValue} {s : String} (h : v.facetValue? = some s) :
    v.matchesFilter s = true ↔ v.FiltersBack := by
  cases v with
  | null => cases h
  | bool b =>
    obtain rfl := Option.some_inj.mp h
    exact iff_of_true (matchesFilter_boolText b) trivial
  | number x =>
    obtain rfl := Option.some_inj.mp h
    exact matchesFilter_numberText_iff x
  | text s' =>
    have hcounted : (if s'.isEmpty then none else some s') = some s := h
    split at hcounted
    · cases hcounted
    · obtain rfl := Option.some_inj.mp hcounted
      exact matchesFilter_text_iff s'
  | timestamp t =>
    obtain rfl := Option.some_inj.mp h
    exact matchesFilter_instantText_iff t

/-- The first instant of a day is counted and found again. -/
theorem matchesFilter_facetValue_midnight :
    let midnight : FieldValue := .timestamp ⟨1704153600, 0⟩
    midnight.facetValue? = some "2024-01-02T00:00:00+00:00" ∧
      midnight.matchesFilter "2024-01-02T00:00:00+00:00" = true := by
  intro midnight
  have hcounted : midnight.facetValue? = some "2024-01-02T00:00:00+00:00" := by decide
  exact ⟨hcounted, (matchesFilter_facetValue_iff hcounted).mpr
    ⟨⟨by decide, Or.inl (by decide)⟩, by decide, by decide⟩⟩

/-- Infinity is counted, but not found again: it is not close to itself. -/
theorem infinity_not_found :
    ¬ ∀ (v : FieldValue) (s : String), (∀ x, v = .number x → x.isNaN = false) →
      v.facetValue? = some s → v.matchesFilter s = true := by
  intro hall
  have hfound := hall (.number (Float.ofBits 0x7FF0000000000000)) "inf"
    (fun x hx => by
      obtain rfl := FieldValue.number.inj hx
      decide)
    (by decide)
  exact absurd hfound (by decide)

end CatalogSearch.FieldValue
