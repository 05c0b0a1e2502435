import CatalogSearch.Catalog.Document

/-!
# Valid documents

A document is valid when it has an id and the fields that are marked, as facets or as confidential, are
among its fields.
-/

set_option autoImplicit false

namespace CatalogSearch.Document

open CatalogSearch.Text

variable {d : Document} {name : String}

theorem mem_fields_iff : name ∈ d.fields ↔ ∃ value, d.field? name = some value := by
  rw [Std.ExtTreeMap.mem_iff_isSome_getElem?, Option.isSome_iff_exists]
  rfl

/-- Of a set of names none is missing from the fields when none is found to be. -/
theorem find?_missing_eq_none_iff (d : Document) (names : NameSet) :
    names.toList.find? (fun f => !d.fields.contains f) = none ↔ ∀ f ∈ names, f ∈ d.fields := by
  simp [List.find?_eq_none, Std.ExtTreeSet.mem_toList]

theorem isValid_iff :
    d.isValid = true ↔ isBlankText d.id = false ∧ (∀ f ∈ d.facetFields, f ∈ d.fields) ∧
      ∀ f ∈ d.sensitiveFields, f ∈ d.fields := by
  rw [isValid, Option.isNone_iff_eq_none, fault?, ← find?_missing_eq_none_iff,
    ← find?_missing_eq_none_iff]
  cases isBlankText d.id with
  | true => simp
  | false =>
    cases d.facetFields.toList.find? (fun f => !d.fields.contains f) with
    | some field => simp
    | none => simp

end CatalogSearch.Document
