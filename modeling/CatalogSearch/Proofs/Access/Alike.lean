import CatalogSearch.Access.View
import CatalogSearch.Proofs.Index.Analysis

/-!
# Documents that a caller cannot tell apart

Two documents are alike for a view when they differ in hidden fields only.  Then they have the same
tokens, the same visible values and the same fields when shown: a price that is kept back leaves a trace
of whether there is one, and of nothing else.
-/

set_option autoImplicit false

namespace CatalogSearch

/-- Documents of one key that agree in what is searched and in every field that is not hidden. -/
structure Document.AlikeFor (view : AccessView) (d d' : Document) : Prop where
  key : d.key = d'.key
  title : d.title = d'.title
  description : d.description = d'.description
  keywords : d.keywords = d'.keywords
  visibility : d.visibility = d'.visibility
  updatedAt : d.updatedAt = d'.updatedAt
  priceRestricted : d.priceRestricted = d'.priceRestricted
  /-- A field is visible in both and holds the same there, or there is nothing to see in either. -/
  fields : ∀ field,
    (view.isHidden d field = false ∧ view.isHidden d' field = false ∧
      d.field? field = d'.field? field) ∨
    ((view.isHidden d field = true ∨ d.field? field = none) ∧
      (view.isHidden d' field = true ∨ d'.field? field = none))
  /-- Of a hidden price it is known whether there is one, and whether it is confidential. -/
  price : view.isHidden d priceField = true ∨ view.isHidden d' priceField = true →
    (d.field? priceField).map FieldValue.isNull = (d'.field? priceField).map FieldValue.isNull ∧
      d.sensitiveFields.contains priceField = d'.sensitiveFields.contains priceField

namespace Document.AlikeFor

variable {view : AccessView} {d d' : Document}

theorem symm (h : d.AlikeFor view d') : d'.AlikeFor view d where
  key := h.key.symm
  title := h.title.symm
  description := h.description.symm
  keywords := h.keywords.symm
  visibility := h.visibility.symm
  updatedAt := h.updatedAt.symm
  priceRestricted := h.priceRestricted.symm
  fields field := by
    rcases h.fields field with ⟨hd, hd', hvalue⟩ | ⟨hd, hd'⟩
    · exact Or.inl ⟨hd', hd, hvalue.symm⟩
    · exact Or.inr ⟨hd', hd⟩
  price hhidden := by
    obtain ⟨hnull, hsensitive⟩ := h.price hhidden.symm
    exact ⟨hnull.symm, hsensitive.symm⟩

/-! ## Keys and tokens -/

theorem tenant (h : d.AlikeFor view d') : d.tenant = d'.tenant :=
  congrArg DocumentKey.tenant h.key

theorem entityType (h : d.AlikeFor view d') : d.entityType = d'.entityType :=
  congrArg DocumentKey.entityType h.key

theorem id (h : d.AlikeFor view d') : d.id = d'.id :=
  congrArg DocumentKey.id h.key

theorem partition (h : d.AlikeFor view d') :
    PartitionKey.ofDocument d = PartitionKey.ofDocument d' := by
  simp only [PartitionKey.ofDocument, PartitionScope.ofDocument, h.entityType, h.tenant,
    h.visibility]

theorem admits (h : d.AlikeFor view d') (scope : TenantScope) :
    scope.admits d = scope.admits d' :=
  congrArg (fun place : PartitionKey => scope.admitsPartition place.scope) h.partition

theorem occurrences (h : d.AlikeFor view d') (t : String) :
    d.occurrences t = d'.occurrences t := by
  simp only [Document.occurrences, titleTokens, descriptionTokens, keywordTokens, h.title,
    h.description, h.keywords]

theorem hasToken (h : d.AlikeFor view d') (t : String) : d.hasToken t = d'.hasToken t := by
  simp only [Document.hasToken, titleTokens, descriptionTokens, keywordTokens, h.title,
    h.description, h.keywords]

/-! ## Fields -/

theorem canReadSensitive (h : d.AlikeFor view d') :
    view.canReadSensitive d = view.canReadSensitive d' := by
  simp only [AccessView.canReadSensitive, h.entityType, h.tenant]

/-- What is seen of a field is the same. -/
theorem visibleValue? (h : d.AlikeFor view d') (field : String) :
    view.visibleValue? d field = view.visibleValue? d' field := by
  have hnothing : ∀ e : Document, view.isHidden e field = true ∨ e.field? field = none →
      view.visibleValue? e field = none := by
    intro e he
    unfold AccessView.visibleValue?
    rcases he with he | he
    · rw [if_pos he]
    · split
      · rfl
      · exact he
  rcases h.fields field with ⟨hd, hd', hvalue⟩ | ⟨hd, hd'⟩
  · rw [AccessView.visibleValue?, AccessView.visibleValue?, hd, hd', hvalue]
  · rw [hnothing d hd, hnothing d' hd']

end Document.AlikeFor

/-! ## Records as they are shown -/

/-- A field, unless it is confidential. -/
def Document.openField? (d : Document) (field : String) : Option FieldValue :=
  if d.sensitiveFields.contains field then none else d.field? field

/-- Whether there is a price to be kept back. -/
def Document.hasPrice (d : Document) : Bool := (d.field? priceField).any fun p => !p.isNull

theorem Document.hasPrice_eq (d : Document) :
    d.hasPrice = ((d.field? priceField).map FieldValue.isNull).any (!·) := by
  rw [Option.any_map]
  rfl

/-- Where there is no price to be kept back, all there is to it is whether there is a null. -/
theorem Document.price_of_not_hasPrice {d : Document} (h : d.hasPrice = false) :
    d.field? priceField =
      ((d.field? priceField).map FieldValue.isNull).map fun _ => FieldValue.null := by
  unfold hasPrice at h
  cases hprice : d.field? priceField with
  | none => rfl
  | some p =>
    rw [hprice] at h
    cases p with
    | null => rfl
    | bool value => cases h
    | number value => cases h
    | text value => cases h
    | timestamp value => cases h

namespace AccessView

variable {view : AccessView} {d : Document}

/-- A field whose value is seen has it. -/
theorem field?_of_visibleValue? {name : String} {value : FieldValue}
    (h : view.visibleValue? d name = some value) : d.field? name = some value := by
  unfold visibleValue? at h
  split at h
  · cases h
  · exact h

/-- A guest reads nothing that is confidential. -/
theorem canReadSensitive_guest (policy : AccessPolicy) (d : Document) :
    (resolve policy .guest).canReadSensitive d = false := by
  have hguest : Caller.guest.isGuest = true := by decide
  simp only [canReadSensitive, canReadSensitiveType, isGuest, resolve, hguest, if_true,
    Bool.not_true, Bool.false_and]

theorem getElem?_open (d : Document) (field : String) :
    (d.fields.filter fun name _ => !d.sensitiveFields.contains name)[field]? =
      d.openField? field := by
  rw [Std.ExtTreeMap.getElem?_filter', Document.openField?, Document.field?]
  cases d.fields[field]? with
  | none => exact (ite_self none).symm
  | some value =>
    rw [Option.filter_some]
    cases d.sensitiveFields.contains field with
    | true => rfl
    | false => rfl

/-- A field of a record shown to a caller that may not read what is confidential. -/
theorem getElem?_redact (hread : view.canReadSensitive d = false) (placeholder field : String) :
    (view.redact placeholder d)[field]? =
      if d.priceRestricted then
        if d.hasPrice then
          if priceDisplayField = field then some (.text placeholder)
          else if priceField = field then some .null
          else if priceBucketField = field then none
          else d.openField? field
        else if priceBucketField = field then none
        else d.openField? field
      else d.openField? field := by
  unfold redact Document.hasPrice
  rw [hread]
  simp only [Bool.false_eq_true, if_false]
  split
  · split
    · simp only [Std.ExtTreeMap.getElem?_insert, Std.ExtTreeMap.getElem?_erase,
        Std.compare_eq_iff_eq, getElem?_open]
    · simp only [Std.ExtTreeMap.getElem?_erase, Std.compare_eq_iff_eq, getElem?_open]
  · exact getElem?_open d field

end AccessView

namespace Document.AlikeFor

variable {view : AccessView} {d d' : Document}

theorem isHidden_of_read (hread : view.canReadSensitive d = true) (field : String) :
    view.isHidden d field = false := by
  rw [AccessView.isHidden, hread, Bool.not_true, Bool.and_false]

/-- A caller that may read what is confidential sees all fields, and they are the same. -/
theorem fields_eq (h : d.AlikeFor view d') (hread : view.canReadSensitive d = true) :
    d.fields = d'.fields := by
  refine Std.ExtTreeMap.ext_getElem? ?_
  intro field
  have hvisible := h.visibleValue? field
  rwa [AccessView.visibleValue?, AccessView.visibleValue?, isHidden_of_read hread,
    isHidden_of_read (h.canReadSensitive ▸ hread)] at hvisible

/-- A field that is not hidden for a price's sake is the same unless it is confidential. -/
theorem openField?_eq (h : d.AlikeFor view d') (hread : view.canReadSensitive d = false)
    {field : String}
    (hprice : (d.priceRestricted && AccessView.restrictedPriceFields.contains field) = false) :
    d.openField? field = d'.openField? field := by
  have hvisible := h.visibleValue? field
  have hread' : view.canReadSensitive d' = false := h.canReadSensitive ▸ hread
  have hprice' : (d'.priceRestricted && AccessView.restrictedPriceFields.contains field) = false :=
    h.priceRestricted ▸ hprice
  rw [AccessView.visibleValue?, AccessView.visibleValue?, AccessView.isHidden,
    AccessView.isHidden, hprice, hprice', hread, hread', Bool.or_false, Bool.or_false,
    Bool.not_false, Bool.and_true, Bool.and_true] at hvisible
  exact hvisible

/-- A price that is kept back is hidden. -/
theorem isHidden_price (hrestricted : d.priceRestricted = true)
    (hread : view.canReadSensitive d = false) : view.isHidden d priceField = true := by
  rw [AccessView.isHidden, hread, hrestricted]
  simp [AccessView.restrictedPriceFields]

theorem hasPrice_eq (h : d.AlikeFor view d') (hhidden : view.isHidden d priceField = true) :
    d.hasPrice = d'.hasPrice := by
  rw [Document.hasPrice_eq, Document.hasPrice_eq, (h.price (Or.inl hhidden)).1]

/-- A hidden price that is none is the same. -/
theorem openField?_price_eq (h : d.AlikeFor view d') (hhidden : view.isHidden d priceField = true)
    (hprice : d.hasPrice = false) : d.openField? priceField = d'.openField? priceField := by
  obtain ⟨hnull, hsensitive⟩ := h.price (Or.inl hhidden)
  have hprice' : d'.hasPrice = false := h.hasPrice_eq hhidden ▸ hprice
  have hsame : d.field? priceField = d'.field? priceField :=
    calc d.field? priceField
        = ((d.field? priceField).map FieldValue.isNull).map fun _ => .null :=
          Document.price_of_not_hasPrice hprice
      _ = ((d'.field? priceField).map FieldValue.isNull).map fun _ => .null := by rw [hnull]
      _ = d'.field? priceField := (Document.price_of_not_hasPrice hprice').symm
  rw [Document.openField?, Document.openField?, hsensitive, hsame]

/-- Alike documents are shown alike. -/
theorem redact (h : d.AlikeFor view d') (placeholder : String) :
    view.redact placeholder d = view.redact placeholder d' := by
  cases hread : view.canReadSensitive d with
  | true =>
    rw [AccessView.redact, AccessView.redact, if_pos hread,
      if_pos (h.canReadSensitive ▸ hread), h.fields_eq hread]
  | false =>
    have hread' : view.canReadSensitive d' = false := h.canReadSensitive ▸ hread
    refine Std.ExtTreeMap.ext_getElem? ?_
    intro field
    rw [AccessView.getElem?_redact hread, AccessView.getElem?_redact hread', ← h.priceRestricted]
    cases hrestricted : d.priceRestricted with
    | false =>
      simp only [Bool.false_eq_true, if_false]
      exact h.openField?_eq hread (by rw [hrestricted, Bool.false_and])
    | true =>
      have hhidden := isHidden_price hrestricted hread
      have hother : ∀ name, name ≠ priceField → name ≠ priceBucketField →
          d.openField? name = d'.openField? name := by
        intro name hname hname'
        refine h.openField?_eq hread ?_
        simp [AccessView.restrictedPriceFields, hname, hname']
      rw [← h.hasPrice_eq hhidden]
      simp only [if_true]
      cases hprice : d.hasPrice with
      | true =>
        simp only [if_true]
        split
        · rfl
        · split
          · rfl
          · split
            · rfl
            · exact hother field (Ne.symm ‹_›) (Ne.symm ‹_›)
      | false =>
        simp only [Bool.false_eq_true, if_false]
        split
        · rfl
        · by_cases hfield : field = priceField
          · rw [hfield]
            exact h.openField?_price_eq hhidden hprice
          · exact hother field hfield (Ne.symm ‹_›)

/-- Where a price is kept back from a caller, records that differ in it are alike. -/
theorem of_restricted_price {d : Document} (hrestricted : d.priceRestricted = true)
    (hread : view.canReadSensitive d = false) {v v' : FieldValue} (hnull : v.isNull = v'.isNull) :
    (d.withField priceField v).AlikeFor view (d.withField priceField v') := by
  have hfield : ∀ (w : FieldValue) (field : String), field ≠ priceField →
      (d.withField priceField w).field? field = d.field? field := by
    intro w field hne
    have hcompare : ¬ compare priceField field = .eq := by
      rw [Std.compare_eq_iff_eq]
      exact Ne.symm hne
    exact Std.ExtTreeMap.getElem?_insert.trans (if_neg hcompare)
  have hprice : ∀ w : FieldValue, (d.withField priceField w).field? priceField = some w :=
    fun _ => Std.ExtTreeMap.getElem?_insert_self
  have hkept : ∀ w : FieldValue, (d.withField priceField w).priceRestricted = true := by
    intro w
    rw [Document.priceRestricted, hfield w priceRestrictedField (by decide)]
    exact hrestricted
  have hhidden : ∀ (w : FieldValue) (field : String),
      view.isHidden (d.withField priceField w) field = view.isHidden d field := by
    intro w field
    rw [AccessView.isHidden, AccessView.isHidden, hkept, hrestricted]
    rfl
  have hpriceHidden := isHidden_price hrestricted hread
  refine ⟨rfl, rfl, rfl, rfl, rfl, rfl, (hkept v).trans (hkept v').symm, ?_, ?_⟩
  · intro field
    by_cases hname : field = priceField
    · rw [hname, hhidden, hhidden]
      exact Or.inr ⟨Or.inl hpriceHidden, Or.inl hpriceHidden⟩
    · rw [hhidden, hhidden, hfield v field hname, hfield v' field hname]
      cases view.isHidden d field with
      | true => exact Or.inr ⟨Or.inl rfl, Or.inl rfl⟩
      | false => exact Or.inl ⟨rfl, rfl, rfl⟩
  · intro _
    rw [hprice, hprice, Option.map_some, Option.map_some, hnull]
    exact ⟨rfl, rfl⟩

end Document.AlikeFor

end CatalogSearch
