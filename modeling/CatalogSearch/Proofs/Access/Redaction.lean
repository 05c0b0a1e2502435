import CatalogSearch.Proofs.Access.Alike
import CatalogSearch.Proofs.Catalog.Document

/-!
# Shown fields and seen values

A caller filters, sorts and counts by the values it sees of single fields, and is shown the fields of the
records that it finds.  The two hide the same: a shown field holds the value that is seen of it, but for a
price that is kept back, which leaves a null in its place and a text to display.
-/

set_option autoImplicit false

namespace CatalogSearch

namespace Document

variable {d : Document} {field : String} {value : FieldValue}

theorem field?_of_openField? (h : d.openField? field = some value) : d.field? field = some value := by
  unfold openField? at h
  split at h
  · cases h
  · exact h

theorem mem_fields_of_hasPrice (h : d.hasPrice = true) : priceField ∈ d.fields := by
  unfold hasPrice at h
  cases hprice : d.field? priceField with
  | none =>
    rw [hprice] at h
    cases h
  | some price => exact mem_fields_iff.mpr ⟨price, hprice⟩

/-- Of a price that is none there is a null to see, or nothing. -/
theorem openField?_price_of_not_hasPrice (h : d.hasPrice = false)
    (hvalue : d.openField? priceField = some value) : value = .null := by
  have hprice := price_of_not_hasPrice h
  rw [field?_of_openField? hvalue] at hprice
  exact Option.some.inj hprice

end Document

namespace AccessView

variable {v : AccessView} {d : Document} {field : String}

/-- Whether there is a price and it is kept back from the caller. -/
def withholdsPrice (v : AccessView) (d : Document) : Bool :=
  d.priceRestricted && d.hasPrice && !v.canReadSensitive d

theorem mem_restrictedPriceFields_iff :
    field ∈ restrictedPriceFields ↔ field = priceField ∨ field = priceBucketField := by
  simp only [restrictedPriceFields, List.mem_cons, List.not_mem_nil, or_false]

/-! ## Seen values -/

theorem visibleValue?_of_read (hread : v.canReadSensitive d = true) (field : String) :
    v.visibleValue? d field = d.field? field := by
  rw [visibleValue?, Document.AlikeFor.isHidden_of_read hread, if_neg Bool.false_ne_true]

/-- A caller that may not read what is confidential sees what is not, without a price that is kept
back. -/
theorem visibleValue?_of_not_read (hread : v.canReadSensitive d = false) (field : String) :
    v.visibleValue? d field =
      if d.priceRestricted && restrictedPriceFields.contains field then none
      else d.openField? field := by
  rw [visibleValue?, isHidden, hread, Bool.not_false, Bool.and_true, Document.openField?]
  cases d.priceRestricted && restrictedPriceFields.contains field with
  | true => rw [Bool.or_true, if_pos rfl, if_pos rfl]
  | false => rw [Bool.or_false, if_neg Bool.false_ne_true]

/-- A price that is kept back and its bucket are not seen. -/
theorem visibleValue?_of_restricted (hread : v.canReadSensitive d = false)
    (hrestricted : d.priceRestricted = true) (hfield : field ∈ restrictedPriceFields) :
    v.visibleValue? d field = none := by
  rw [visibleValue?_of_not_read hread, hrestricted, List.contains_iff_mem.mpr hfield]
  rfl

/-- A field that is not hidden with a price is seen unless it is confidential. -/
theorem visibleValue?_of_unpriced (hread : v.canReadSensitive d = false)
    (hfield : d.priceRestricted = false ∨ field ∉ restrictedPriceFields) :
    v.visibleValue? d field = d.openField? field := by
  rw [visibleValue?_of_not_read hread, if_neg]
  rw [Bool.and_eq_true, List.contains_iff_mem]
  rintro ⟨hrestricted, hmem⟩
  rcases hfield with hfield | hfield
  · rw [hrestricted] at hfield
    cases hfield
  · exact hfield hmem

/-! ## Shown fields -/

theorem redact_of_read (hread : v.canReadSensitive d = true) (placeholder : String) :
    v.redact placeholder d = d.fields := by
  rw [redact, if_pos hread]

theorem getElem?_redact_of_unrestricted (hread : v.canReadSensitive d = false)
    (hrestricted : d.priceRestricted = false) (placeholder field : String) :
    (v.redact placeholder d)[field]? = d.openField? field := by
  rw [getElem?_redact hread, hrestricted, if_neg Bool.false_ne_true]

/-- In place of a price that is kept back there is a null. -/
theorem getElem?_redact_price (hread : v.canReadSensitive d = false)
    (hrestricted : d.priceRestricted = true) (placeholder : String) :
    (v.redact placeholder d)[priceField]? =
      if d.hasPrice then some .null else d.openField? priceField := by
  have hdisplay : ¬ priceDisplayField = priceField := by decide
  have hbucket : ¬ priceBucketField = priceField := by decide
  rw [getElem?_redact hread, hrestricted]
  simp only [hdisplay, hbucket, if_true, if_false]

theorem getElem?_redact_bucket (hread : v.canReadSensitive d = false)
    (hrestricted : d.priceRestricted = true) (placeholder : String) :
    (v.redact placeholder d)[priceBucketField]? = none := by
  have hdisplay : ¬ priceDisplayField = priceBucketField := by decide
  have hprice : ¬ priceField = priceBucketField := by decide
  rw [getElem?_redact hread, hrestricted]
  simp only [hdisplay, hprice, if_true, if_false, ite_self]

theorem getElem?_redact_display (hread : v.canReadSensitive d = false)
    (hrestricted : d.priceRestricted = true) (placeholder : String) :
    (v.redact placeholder d)[priceDisplayField]? =
      if d.hasPrice then some (.text placeholder) else d.openField? priceDisplayField := by
  have hbucket : ¬ priceBucketField = priceDisplayField := by decide
  rw [getElem?_redact hread, hrestricted]
  simp only [hbucket, if_true, if_false]

theorem getElem?_redact_of_unpriced (hread : v.canReadSensitive d = false)
    (hrestricted : d.priceRestricted = true) (placeholder : String)
    (hdisplay : field ≠ priceDisplayField) (hfield : field ∉ restrictedPriceFields) :
    (v.redact placeholder d)[field]? = d.openField? field := by
  rw [mem_restrictedPriceFields_iff, not_or] at hfield
  rw [getElem?_redact hread, hrestricted]
  simp only [Ne.symm hdisplay, Ne.symm hfield.1, Ne.symm hfield.2, if_false, ite_self]

/-! ## They hide the same -/

/-- A field other than the one that is displayed for a price is shown as it is seen, but for the null in
place of a price that the record has and keeps back. -/
theorem getElem?_redact_cases (v : AccessView) (placeholder : String) (d : Document)
    (hfield : field ≠ priceDisplayField) :
    (v.redact placeholder d)[field]? = v.visibleValue? d field ∨
      v.visibleValue? d field = none ∧ field = priceField ∧ field ∈ d.fields ∧
        d.priceRestricted = true ∧ (v.redact placeholder d)[field]? = some .null := by
  cases hread : v.canReadSensitive d with
  | true =>
    rw [redact_of_read hread, visibleValue?_of_read hread]
    exact Or.inl rfl
  | false =>
    cases hrestricted : d.priceRestricted with
    | false =>
      rw [getElem?_redact_of_unrestricted hread hrestricted,
        visibleValue?_of_unpriced hread (Or.inl hrestricted)]
      exact Or.inl rfl
    | true =>
      by_cases hpriced : field ∈ restrictedPriceFields
      · have hnone := visibleValue?_of_restricted hread hrestricted hpriced
        rw [hnone]
        rcases mem_restrictedPriceFields_iff.mp hpriced with rfl | rfl
        · rw [getElem?_redact_price hread hrestricted]
          cases hprice : d.hasPrice with
          | true => exact Or.inr ⟨rfl, rfl, Document.mem_fields_of_hasPrice hprice, rfl, rfl⟩
          | false =>
            rw [if_neg Bool.false_ne_true]
            cases hopen : d.openField? priceField with
            | none => exact Or.inl rfl
            | some value =>
              rw [Document.openField?_price_of_not_hasPrice hprice hopen]
              have hmem := Document.mem_fields_iff.mpr ⟨value, Document.field?_of_openField? hopen⟩
              exact Or.inr ⟨rfl, rfl, hmem, rfl, rfl⟩
        · exact Or.inl (getElem?_redact_bucket hread hrestricted placeholder)
      · rw [getElem?_redact_of_unpriced hread hrestricted placeholder hfield hpriced,
          visibleValue?_of_unpriced hread (Or.inr hpriced)]
        exact Or.inl rfl

/-- Where a price is kept back a text is displayed for it; else what is displayed is what is seen. -/
theorem getElem?_redact_displayed (v : AccessView) (placeholder : String) (d : Document) :
    (v.redact placeholder d)[priceDisplayField]? =
      if v.withholdsPrice d then some (.text placeholder)
      else v.visibleValue? d priceDisplayField := by
  unfold withholdsPrice
  cases hread : v.canReadSensitive d with
  | true =>
    rw [redact_of_read hread, visibleValue?_of_read hread, Bool.not_true, Bool.and_false,
      if_neg Bool.false_ne_true, Document.field?]
  | false =>
    have hseen : v.visibleValue? d priceDisplayField = d.openField? priceDisplayField :=
      visibleValue?_of_unpriced hread (Or.inr (by decide))
    rw [hseen, Bool.not_false, Bool.and_true]
    cases hrestricted : d.priceRestricted with
    | false =>
      rw [getElem?_redact_of_unrestricted hread hrestricted, Bool.false_and,
        if_neg Bool.false_ne_true]
    | true => rw [getElem?_redact_display hread hrestricted, Bool.true_and]

/-- What a caller is shown of a record and what it sees of its fields agree.  A field whose value is seen
is shown with it; one that is not seen is not shown, but for a null that may stand in place of a price that
is kept back.  What is displayed for a price is what is seen, unless there is a price and it is kept back
from the caller: then it is the placeholder.  No other field is shown that the record does not have. -/
theorem redact_agreement (v : AccessView) (placeholder : String) (d : Document) :
    (∀ field, field ≠ priceDisplayField →
      (∀ value, v.visibleValue? d field = some value →
        (v.redact placeholder d)[field]? = some value) ∧
      (v.visibleValue? d field = none →
        (v.redact placeholder d)[field]? = none ∨
          field = priceField ∧ d.priceRestricted = true ∧
            (v.redact placeholder d)[field]? = some .null)) ∧
    ((v.redact placeholder d)[priceDisplayField]? =
      if v.withholdsPrice d then some (.text placeholder)
      else v.visibleValue? d priceDisplayField) ∧
    ∀ field ∈ v.redact placeholder d,
      field ∈ d.fields ∨ field = priceDisplayField ∧ v.withholdsPrice d = true := by
  have hseen : ∀ {field value}, v.visibleValue? d field = some value → field ∈ d.fields :=
    fun h => Document.mem_fields_iff.mpr ⟨_, field?_of_visibleValue? h⟩
  refine ⟨fun field hfield => ⟨fun value hvalue => ?seen, fun hnone => ?unseen⟩,
    getElem?_redact_displayed v placeholder d, fun field hmem => ?shown⟩
  case seen =>
    rcases getElem?_redact_cases v placeholder d hfield with hsame | ⟨hnone, _⟩
    · rw [hsame, hvalue]
    · rw [hnone] at hvalue
      cases hvalue
  case unseen =>
    rcases getElem?_redact_cases v placeholder d hfield with hsame | ⟨_, hprice, _, hkept, hnull⟩
    · exact Or.inl (hsame.trans hnone)
    · exact Or.inr ⟨hprice, hkept, hnull⟩
  case shown =>
    obtain ⟨value, hvalue⟩ := Option.isSome_iff_exists.mp
      (Std.ExtTreeMap.mem_iff_isSome_getElem?.mp hmem)
    by_cases hfield : field = priceDisplayField
    · rw [hfield, getElem?_redact_displayed] at hvalue
      split at hvalue
      · rename_i hwithheld
        exact Or.inr ⟨hfield, hwithheld⟩
      · exact Or.inl (hfield ▸ hseen hvalue)
    · rcases getElem?_redact_cases v placeholder d hfield with hsame | ⟨_, _, hhas, _⟩
      · exact Or.inl (hseen (hsame ▸ hvalue))
      · exact Or.inl hhas

end AccessView

end CatalogSearch
