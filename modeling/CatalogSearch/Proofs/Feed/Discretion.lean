import CatalogSearch.Proofs.Access.Alike
import CatalogSearch.Proofs.Feed.Approval

/-!
# What is confidential stays in its field

Two records that differ only in confidential members, and in their prices where both keep them back, become
documents that a caller cannot tell apart who may not read what is confidential.  This rests on what the
schema declares: nothing confidential is searched, gives a title or decides whether a record is listed, and
no bucket is made of it; a price goes no further than to its bucket, which is hidden with it.
-/

set_option autoImplicit false

namespace CatalogSearch

open CatalogSearch.Text CatalogSearch.Time

/-! ## Schemas -/

namespace EntitySchema

variable {schema : EntitySchema} {p : Payload} {name : String}

/-- A confidential field is declared under a name. -/
def DeclaresConfidential (schema : EntitySchema) (name : String) : Prop :=
  ∃ f ∈ schema.fields, f.name = name ∧ f.sensitive = true

instance (schema : EntitySchema) (name : String) : Decidable (schema.DeclaresConfidential name) :=
  inferInstanceAs (Decidable (∃ f ∈ schema.fields, f.name = name ∧ f.sensitive = true))

/-- What is under a name may be known to everybody: it is neither confidential nor a price. -/
def IsOpen (schema : EntitySchema) (name : String) : Prop :=
  ¬ schema.DeclaresConfidential name ∧ name ≠ priceField

instance (schema : EntitySchema) (name : String) : Decidable (schema.IsOpen name) :=
  inferInstanceAs (Decidable (_ ∧ _))

/-- A record has a price and says that it is kept back. -/
structure WithholdsPrice (schema : EntitySchema) (p : Payload) : Prop where
  restricted : ∃ f, f.name = priceRestrictedField ∧ schema.Converts p f (.bool true)
  priced : ∃ raw, p[priceField]? = some raw ∧ raw ≠ .null

/-- A schema under which what is confidential stays in its field, and a price in its field and bucket. -/
structure Discreet (schema : EntitySchema) : Prop where
  once : schema.DeclaresOnce
  /-- What gives a record its texts and decides whether it is listed and its price kept back is open. -/
  stated : ∀ name ∈ schema.titleFields ++
    ["description", "visibility", "status", "company_status", priceRestrictedField], schema.IsOpen name
  /-- What is searched is open. -/
  searched : ∀ f ∈ schema.fields, f.searchable = true → schema.IsOpen f.name
  /-- The one bucket is that of the price. -/
  buckets : ∀ f ∈ schema.fields, f.bucketSource? = none ∨
    f.name = priceBucketField ∧ f.bucketSource?.map Prod.fst = some priceField
  /-- A price is kept back by the record, not by its schema. -/
  price : ¬ schema.DeclaresConfidential priceField

/-- Whatever is not the bucket of the price has a value of its own. -/
theorem Discreet.holdsOwn (h : schema.Discreet) (hname : name ≠ priceBucketField) :
    schema.HoldsOwn name := by
  intro f hf hfname
  refine (h.buckets f hf).resolve_right fun hbucket => hname ?_
  rw [← hfname, hbucket.1]

end EntitySchema

/-- The schemas of a marketplace catalog are discreet. -/
theorem SchemaRegistry.discreet_of_standard {t : EntityType} {schema : EntitySchema}
    (hschema : standard.schema? t = some schema) : schema.Discreet := by
  have honce := declareOnce_standard t schema hschema
  cases t with
  | part | equipment | company | listing | service =>
    cases hschema
    exact ⟨honce, by decide, by decide, by decide, by decide⟩

/-- What is of a declared kind is not null. -/
theorem FieldKind.Holds.isNull_eq_false {kind : FieldKind} {value : FieldValue}
    (h : kind.Holds value) : value.isNull = false := by
  cases h with
  | text | keyword | number | boolean | timestamp => rfl

namespace AccessView

variable {view : AccessView} {d d' : Document} {name : String}

/-- Where a price is kept back from a caller, so is its bucket. -/
theorem isHidden_of_restricted (hrestricted : d.priceRestricted = true)
    (hread : view.canReadSensitive d = false) (hname : name ∈ restrictedPriceFields) :
    view.isHidden d name = true := by
  rw [isHidden, hrestricted, hread, List.contains_iff_mem.mpr hname, Bool.and_self, Bool.or_true,
    Bool.not_false, Bool.and_self]

/-- A field is seen in both documents and holds the same, or there is nothing to see in either. -/
def FieldAlike (view : AccessView) (d d' : Document) (name : String) : Prop :=
  (view.isHidden d name = false ∧ view.isHidden d' name = false ∧ d.field? name = d'.field? name) ∨
  ((view.isHidden d name = true ∨ d.field? name = none) ∧
    (view.isHidden d' name = true ∨ d'.field? name = none))

theorem fieldAlike_of_eq (hhidden : view.isHidden d name = view.isHidden d' name)
    (hfield : d.field? name = d'.field? name) : view.FieldAlike d d' name := by
  cases hd : view.isHidden d name with
  | true => exact Or.inr ⟨Or.inl hd, Or.inl (hhidden.symm.trans hd)⟩
  | false => exact Or.inl ⟨hd, hhidden.symm.trans hd, hfield⟩

end AccessView

/-! ## Records -/

namespace ChangeEvent

/-- Two changes of one record, in one version, that differ in confidential members, and in the price where
both records keep one back. -/
structure DiffersDiscreetly (schema : EntitySchema) (e e' : ChangeEvent) : Prop where
  entityType : e.entityType = e'.entityType
  tenant : e.tenant = e'.tenant
  id : e.id = e'.id
  updatedAt : e.updatedAt = e'.updatedAt
  members : ∀ name, e.payload[name]? = e'.payload[name]? ∨ schema.DeclaresConfidential name ∨
    name = priceField ∧ schema.WithholdsPrice e.payload ∧ schema.WithholdsPrice e'.payload

namespace DiffersDiscreetly

variable {schema : EntitySchema} {e e' : ChangeEvent} {name : String}

theorem key_eq (h : e.DiffersDiscreetly schema e') : e.key = e'.key := by
  rw [key, key, h.entityType, h.tenant, h.id]

/-- What is open is the same in both. -/
theorem member_eq (h : e.DiffersDiscreetly schema e') (hopen : schema.IsOpen name) :
    e.payload[name]? = e'.payload[name]? := by
  rcases h.members name with hsame | hconfidential | ⟨hprice, _⟩
  · exact hsame
  · exact absurd hconfidential hopen.1
  · exact absurd hprice hopen.2

theorem text?_eq (h : e.DiffersDiscreetly schema e') (hopen : schema.IsOpen name) :
    e.payload.text? name = e'.payload.text? name := by
  rw [Payload.text?, Payload.text?, h.member_eq hopen]

/-- The prices are the same or both kept back. -/
theorem price_eq_or (h : e.DiffersDiscreetly schema e') (hschema : schema.Discreet) :
    e.payload[priceField]? = e'.payload[priceField]? ∨
      schema.WithholdsPrice e.payload ∧ schema.WithholdsPrice e'.payload := by
  rcases h.members priceField with hsame | hconfidential | ⟨_, hwithheld⟩
  · exact Or.inl hsame
  · exact absurd hconfidential hschema.price
  · exact Or.inr hwithheld

theorem title_eq (h : e.DiffersDiscreetly schema e') (hschema : schema.Discreet) :
    e.payload.title schema.titleFields = e'.payload.title schema.titleFields := by
  have htexts : schema.titleFields.filterMap e.payload.text? =
      schema.titleFields.filterMap e'.payload.text? :=
    List.filterMap_congr fun name hname =>
      h.text?_eq (hschema.stated name (List.mem_append_left _ hname))
  rw [Payload.title, Payload.title, htexts]

theorem visibility_eq (h : e.DiffersDiscreetly schema e') (hschema : schema.Discreet) :
    e.payload.visibility = e'.payload.visibility := by
  have hstated : ∀ name ∈ ["visibility", "status", "company_status"],
      e.payload.text? name = e'.payload.text? name := by
    intro name hname
    refine h.text?_eq (hschema.stated name (List.mem_append_right _ ?_))
    simp only [List.mem_cons, List.not_mem_nil, or_false] at hname ⊢
    tauto
  rw [Payload.visibility, Payload.visibility, Payload.states, Payload.states, Payload.approves,
    Payload.approves, Payload.approves, Payload.approves, hstated "visibility" (by simp),
    hstated "status" (by simp), hstated "company_status" (by simp)]

end DiffersDiscreetly

/-! ## Documents -/

section

variable {schemas : SchemaRegistry} {e e' : ChangeEvent} {d d' : Document} {schema : EntitySchema}
  {name : String}

/-- The title and the description of a document are those of the record. -/
theorem texts_toDocument (h : e.toDocument schemas = .ok d)
    (hschema : schemas.schema? e.entityType = some schema) :
    d.title = e.payload.title schema.titleFields ∧
      d.description = (e.payload.text? "description").getD "" := by
  refine holds_of_toDocument (P := fun d => d.title = e.payload.title schema.titleFields ∧
    d.description = (e.payload.text? "description").getD "") h hschema ⟨rfl, rfl⟩ ?member ?bucket
    ?guarded
  case member => exact fun _ _ _ _ hd => hd
  case bucket =>
    intro f _ d hd
    rw [Document.withBucket_eq]
    exact hd
  case guarded =>
    intro d hd
    rw [Document.withGuardedPrice_eq]
    exact hd

/-- A field that is not declared is not there. -/
theorem field?_toDocument_of_undeclared (h : e.toDocument schemas = .ok d)
    (hschema : schemas.schema? e.entityType = some schema)
    (hnone : ¬ ∃ f ∈ schema.fields, f.name = name) : d.field? name = none := by
  refine Option.eq_none_iff_forall_ne_some.mpr fun value hvalue => hnone ?_
  obtain ⟨f, hf, hname, _⟩ := gives_of_schema h hschema hvalue
  exact ⟨f, hf, hname⟩

/-- A price that is kept back says so in the document. -/
theorem priceRestricted_of_withheld (h : e.toDocument schemas = .ok d)
    (hschema : schemas.schema? e.entityType = some schema) (honce : schema.DeclaresOnce)
    (hwithheld : schema.WithholdsPrice e.payload) : d.priceRestricted = true := by
  obtain ⟨f, hname, hf, hown, raw, hraw, hconverted⟩ := hwithheld.restricted
  have hfield := field?_toDocument_of_own h hschema honce hf hown
  rw [hraw, Option.bind_some, hconverted, hname] at hfield
  rw [Document.priceRestricted, hfield]
  rfl

/-- A price that a record has is no null, if its type has prices. -/
theorem isNull_price_of_withheld (h : e.toDocument schemas = .ok d)
    (hschema : schemas.schema? e.entityType = some schema) (hdiscreet : schema.Discreet)
    (hwithheld : schema.WithholdsPrice e.payload) :
    (d.field? priceField).map FieldValue.isNull =
      if ∃ f ∈ schema.fields, f.name = priceField then some false else none := by
  obtain ⟨raw, hraw, hnull⟩ := hwithheld.priced
  split
  · rename_i hdeclared
    obtain ⟨f, hf, hname⟩ := hdeclared
    have hprice : schema.HoldsOwn priceField := hdiscreet.holdsOwn (by decide)
    have hown := hprice f hf hname
    rw [← hname] at hraw ⊢
    obtain ⟨value, _, _, raw', hraw', hconverted⟩ :=
      exists_converts_of_toDocument h hschema hf hown hraw
    cases hraw.symm.trans hraw'
    rw [field?_toDocument_of_own h hschema hdiscreet.once hf hown, hraw, Option.bind_some, hconverted,
      Option.map_some, (FieldKind.holds_of_convert? hnull hconverted).isNull_eq_false]
  · rename_i hundeclared
    rw [field?_toDocument_of_undeclared h hschema hundeclared]
    rfl

/-- A confidential member is hidden in the document, or is not there. -/
theorem isHidden_or_absent_of_confidential (h : e.toDocument schemas = .ok d)
    (hschema : schemas.schema? e.entityType = some schema) (hown : schema.HoldsOwn name)
    (hconfidential : schema.DeclaresConfidential name) {view : AccessView}
    (hread : view.canReadSensitive d = false) :
    view.isHidden d name = true ∨ d.field? name = none := by
  obtain ⟨f, hf, hname, hsensitive⟩ := hconfidential
  cases hfield : d.field? name with
  | none => exact Or.inr rfl
  | some value =>
    have hmem : name ∈ d.fields := Document.mem_fields_iff.mpr ⟨value, hfield⟩
    have hmarked := (mem_sensitiveFields_toDocument h hschema name).mpr (Or.inl
      ⟨f, hf, hname, hsensitive, hown f hf hname, mem_payload_of_own h hschema hown hmem⟩)
    exact Or.inl (AccessView.isHidden_of_sensitive hmarked hread)

end

/-- The documents of two changes that differ discreetly under a schema. -/
structure DiscreetPair (schemas : SchemaRegistry) (schema : EntitySchema) (e e' : ChangeEvent)
    (d d' : Document) : Prop where
  differs : e.DiffersDiscreetly schema e'
  discreet : schema.Discreet
  declared : schemas.schema? e.entityType = some schema
  left : e.toDocument schemas = .ok d
  right : e'.toDocument schemas = .ok d'

namespace DiscreetPair

variable {schemas : SchemaRegistry} {schema : EntitySchema} {e e' : ChangeEvent} {d d' : Document}
  {name : String} {view : AccessView}

theorem declared' (h : DiscreetPair schemas schema e e' d d') :
    schemas.schema? e'.entityType = some schema := by
  rw [← h.differs.entityType, h.declared]

/-! ### What is the same -/

theorem identity_eq (h : DiscreetPair schemas schema e e' d d') :
    d.key = d'.key ∧ d.updatedAt = d'.updatedAt := by
  obtain ⟨hkey, hversion⟩ := identity_toDocument h.left
  obtain ⟨hkey', hversion'⟩ := identity_toDocument h.right
  rw [hkey, hkey', hversion, hversion']
  exact ⟨h.differs.key_eq, h.differs.updatedAt⟩

theorem texts_eq (h : DiscreetPair schemas schema e e' d d') :
    d.title = d'.title ∧ d.description = d'.description := by
  obtain ⟨htitle, hdescription⟩ := texts_toDocument h.left h.declared
  obtain ⟨htitle', hdescription'⟩ := texts_toDocument h.right h.declared'
  have hstated : schema.IsOpen "description" :=
    h.discreet.stated _ (List.mem_append_right _ List.mem_cons_self)
  rw [htitle, htitle', hdescription, hdescription', h.differs.text?_eq hstated]
  exact ⟨h.differs.title_eq h.discreet, rfl⟩

theorem visibility_eq (h : DiscreetPair schemas schema e e' d d') :
    d.visibility = d'.visibility := by
  rw [visibility_toDocument h.left, visibility_toDocument h.right,
    h.differs.visibility_eq h.discreet]

/-- What is searched is open, and so its tokens are the same. -/
theorem keywords_eq (h : DiscreetPair schemas schema e e' d d') : d.keywords = d'.keywords := by
  refine Std.ExtTreeSet.ext_mem fun k => ?_
  rw [mem_keywords_toDocument h.left h.declared h.discreet.once,
    mem_keywords_toDocument h.right h.declared' h.discreet.once]
  refine exists_congr fun f => and_congr_right fun hf => and_congr_right fun hown =>
    and_congr_right fun hsearched => ?_
  rw [field?_toDocument_of_own h.left h.declared h.discreet.once hf hown,
    field?_toDocument_of_own h.right h.declared' h.discreet.once hf hown,
    h.differs.member_eq (h.discreet.searched f hf hsearched)]

/-- A field with a value of its own is the same if the member is. -/
theorem field?_eq_of_own (h : DiscreetPair schemas schema e e' d d') (hown : schema.HoldsOwn name)
    (hmember : e.payload[name]? = e'.payload[name]?) : d.field? name = d'.field? name := by
  by_cases hdeclared : ∃ f ∈ schema.fields, f.name = name
  · obtain ⟨f, hf, rfl⟩ := hdeclared
    rw [field?_toDocument_of_own h.left h.declared h.discreet.once hf (hown f hf rfl),
      field?_toDocument_of_own h.right h.declared' h.discreet.once hf (hown f hf rfl), hmember]
  · rw [field?_toDocument_of_undeclared h.left h.declared hdeclared,
      field?_toDocument_of_undeclared h.right h.declared' hdeclared]

/-- The bucket of a price is the same if the price is. -/
theorem field?_eq_of_bucket (h : DiscreetPair schemas schema e e' d d') {f : FieldSpec}
    (hf : f ∈ schema.fields) (hbucket : f.bucketSource? ≠ none)
    (hprice : d.field? priceField = d'.field? priceField) : d.field? f.name = d'.field? f.name := by
  obtain ⟨_, hsource⟩ := (h.discreet.buckets f hf).resolve_left hbucket
  obtain ⟨⟨source, bounds⟩, hbounds, rfl⟩ := Option.map_eq_some_iff.mp hsource
  rw [field?_toDocument_of_bucket h.left h.declared h.discreet.once hf hbucket,
    field?_toDocument_of_bucket h.right h.declared' h.discreet.once hf hbucket,
    Document.bucketLabel?, Document.bucketLabel?, hbounds, Option.bind_some, Option.bind_some,
    Document.numberAt?, Document.numberAt?, hprice]

theorem holdsOwn_price (h : DiscreetPair schemas schema e e' d d') : schema.HoldsOwn priceField :=
  h.discreet.holdsOwn (by decide)

theorem priceRestricted_eq (h : DiscreetPair schemas schema e e' d d') :
    d.priceRestricted = d'.priceRestricted := by
  have hopen : schema.IsOpen priceRestrictedField :=
    h.discreet.stated _ (List.mem_append_right _ (by simp))
  rw [Document.priceRestricted, Document.priceRestricted,
    h.field?_eq_of_own (h.discreet.holdsOwn (by decide)) (h.differs.member_eq hopen)]

/-- What is marked as confidential is the same wherever the member and the field are there in both or in
neither. -/
theorem mem_sensitiveFields_iff (h : DiscreetPair schemas schema e e' d d')
    (hmember : schema.HoldsOwn name → (name ∈ e.payload ↔ name ∈ e'.payload))
    (hfield : d.field? name = d'.field? name) :
    name ∈ d.sensitiveFields ↔ name ∈ d'.sensitiveFields := by
  have hpresent : name ∈ d.fields ↔ name ∈ d'.fields := by
    rw [Document.mem_fields_iff, Document.mem_fields_iff, hfield]
  rw [mem_sensitiveFields_toDocument h.left h.declared,
    mem_sensitiveFields_toDocument h.right h.declared', h.priceRestricted_eq, hpresent]
  refine or_congr_left (exists_congr fun f => and_congr_right fun hf => ?_)
  refine and_congr_right fun hname => and_congr_right fun _ => and_congr_right fun hown => ?_
  exact hmember (hname ▸ h.discreet.once.holdsOwn hf hown)

/-! ### What a caller may know -/

theorem canReadSensitive_eq (h : DiscreetPair schemas schema e e' d d') (view : AccessView) :
    view.canReadSensitive d = view.canReadSensitive d' := by
  have hkey := h.identity_eq.1
  have htype : d.entityType = d'.entityType := congrArg DocumentKey.entityType hkey
  have htenant : d.tenant = d'.tenant := congrArg DocumentKey.tenant hkey
  rw [AccessView.canReadSensitive, AccessView.canReadSensitive, htype, htenant]

/-- A field that is the same is hidden in both or in neither. -/
theorem isHidden_eq (h : DiscreetPair schemas schema e e' d d')
    (hmember : schema.HoldsOwn name → (name ∈ e.payload ↔ name ∈ e'.payload))
    (hfield : d.field? name = d'.field? name) (view : AccessView) :
    view.isHidden d name = view.isHidden d' name := by
  have hmarked : d.sensitiveFields.contains name = d'.sensitiveFields.contains name := by
    rw [Bool.eq_iff_iff, Std.ExtTreeSet.contains_iff_mem, Std.ExtTreeSet.contains_iff_mem]
    exact h.mem_sensitiveFields_iff hmember hfield
  rw [AccessView.isHidden, AccessView.isHidden, hmarked, h.priceRestricted_eq,
    h.canReadSensitive_eq view]

/-- A price that is kept back in both is hidden in both, with its bucket. -/
theorem fieldAlike_of_withheld (h : DiscreetPair schemas schema e e' d d')
    (hread : view.canReadSensitive d = false) (hleft : schema.WithholdsPrice e.payload)
    (hright : schema.WithholdsPrice e'.payload) (hname : name ∈ AccessView.restrictedPriceFields) :
    view.FieldAlike d d' name := by
  have hrestricted := priceRestricted_of_withheld h.left h.declared h.discreet.once hleft
  have hrestricted' := priceRestricted_of_withheld h.right h.declared' h.discreet.once hright
  exact Or.inr ⟨Or.inl (AccessView.isHidden_of_restricted hrestricted hread hname),
    Or.inl (AccessView.isHidden_of_restricted hrestricted' (h.canReadSensitive_eq view ▸ hread) hname)⟩

/-- A caller that may not read what is confidential sees the same of every field. -/
theorem fieldAlike (h : DiscreetPair schemas schema e e' d d')
    (hread : view.canReadSensitive d = false) (name : String) : view.FieldAlike d d' name := by
  by_cases hown : schema.HoldsOwn name
  · rcases h.differs.members name with hmember | hconfidential | ⟨rfl, hleft, hright⟩
    · have hfield := h.field?_eq_of_own hown hmember
      refine AccessView.fieldAlike_of_eq (h.isHidden_eq (fun _ => ?_) hfield view) hfield
      rw [Payload.mem_iff, Payload.mem_iff, hmember]
    · have hread' : view.canReadSensitive d' = false := h.canReadSensitive_eq view ▸ hread
      exact Or.inr ⟨isHidden_or_absent_of_confidential h.left h.declared hown hconfidential hread,
        isHidden_or_absent_of_confidential h.right h.declared' hown hconfidential hread'⟩
    · exact h.fieldAlike_of_withheld hread hleft hright List.mem_cons_self
  · -- the one field that is made of another is the bucket of the price, whatever the records say of it
    obtain ⟨f, hf, rfl, hbucket⟩ : ∃ f ∈ schema.fields, f.name = name ∧ f.bucketSource? ≠ none := by
      simpa [EntitySchema.HoldsOwn] using hown
    have hname := ((h.discreet.buckets f hf).resolve_left hbucket).1
    rcases h.differs.price_eq_or h.discreet with hprice | ⟨hleft, hright⟩
    · have hfield := h.field?_eq_of_bucket hf hbucket (h.field?_eq_of_own h.holdsOwn_price hprice)
      exact AccessView.fieldAlike_of_eq
        (h.isHidden_eq (fun hholds => absurd hholds hown) hfield view) hfield
    · exact h.fieldAlike_of_withheld hread hleft hright
        (hname ▸ List.mem_cons_of_mem _ List.mem_cons_self)

/-- Of a price it is the same whether it is null, and it is confidential in neither. -/
theorem price_alike (h : DiscreetPair schemas schema e e' d d') :
    (d.field? priceField).map FieldValue.isNull = (d'.field? priceField).map FieldValue.isNull ∧
      d.sensitiveFields.contains priceField = d'.sensitiveFields.contains priceField := by
  have hunmarked : ∀ {e : ChangeEvent} {d : Document}, e.toDocument schemas = .ok d →
      schemas.schema? e.entityType = some schema → d.sensitiveFields.contains priceField = false := by
    intro e d hd hschema
    rw [Bool.eq_false_iff, ne_eq, Std.ExtTreeSet.contains_iff_mem,
      mem_sensitiveFields_toDocument hd hschema]
    rintro (⟨f, hf, hname, hsensitive, _⟩ | ⟨hbucket, _⟩)
    · exact h.discreet.price ⟨f, hf, hname, hsensitive⟩
    · exact absurd hbucket (by decide)
  refine ⟨?_, (hunmarked h.left h.declared).trans (hunmarked h.right h.declared').symm⟩
  rcases h.differs.price_eq_or h.discreet with hprice | ⟨hleft, hright⟩
  · rw [h.field?_eq_of_own h.holdsOwn_price hprice]
  · rw [isNull_price_of_withheld h.left h.declared h.discreet hleft,
      isNull_price_of_withheld h.right h.declared' h.discreet hright]

/-- The documents are alike for whoever may not read what is confidential. -/
theorem alikeFor (h : DiscreetPair schemas schema e e' d d')
    (hread : view.canReadSensitive d = false) : d.AlikeFor view d' where
  key := h.identity_eq.1
  title := h.texts_eq.1
  description := h.texts_eq.2
  keywords := h.keywords_eq
  visibility := h.visibility_eq
  updatedAt := h.identity_eq.2
  priceRestricted := h.priceRestricted_eq
  fields := h.fieldAlike hread
  price _ := h.price_alike

end DiscreetPair

/-- With the schemas of a marketplace catalog, two changes that differ in confidential members, and in the
price where both records keep one back, become documents of one key and version with the same texts, keywords
and visibility.  They keep their price back alike, and who may not read what is confidential is shown the
same fields of them and sees the same of each. -/
theorem confidential_members_do_not_show {schema : EntitySchema} {e e' : ChangeEvent}
    {d d' : Document} (hschema : SchemaRegistry.standard.schema? e.entityType = some schema)
    (hdiffers : e.DiffersDiscreetly schema e') (h : e.toDocument .standard = .ok d)
    (h' : e'.toDocument .standard = .ok d') :
    (d.key = d'.key ∧ d.title = d'.title ∧ d.description = d'.description ∧
      d.keywords = d'.keywords ∧ d.visibility = d'.visibility ∧ d.updatedAt = d'.updatedAt ∧
      d.priceRestricted = d'.priceRestricted) ∧
    ∀ view : AccessView, view.canReadSensitive d = false →
      (∀ placeholder, view.redact placeholder d = view.redact placeholder d') ∧
      ∀ name, view.visibleValue? d name = view.visibleValue? d' name := by
  have hpair : DiscreetPair .standard schema e e' d d' :=
    ⟨hdiffers, SchemaRegistry.discreet_of_standard hschema, hschema, h, h'⟩
  obtain ⟨hkey, hversion⟩ := hpair.identity_eq
  obtain ⟨htitle, hdescription⟩ := hpair.texts_eq
  refine ⟨⟨hkey, htitle, hdescription, hpair.keywords_eq, hpair.visibility_eq, hversion,
    hpair.priceRestricted_eq⟩, fun view hread => ?_⟩
  have halike := hpair.alikeFor hread
  exact ⟨halike.redact, halike.visibleValue?⟩

/-- Two listings that keep back prices in different buckets, and differ in what they say of their stock and
in their notes, are shown to a guest alike. -/
theorem confidential_members_do_not_show_of_listing :
    let record : List (String × Json) :=
      [("title", .string "Pump"), ("price_restricted", .string " true ")]
    let e : ChangeEvent := .write .listing none "l1"
      (.object (record ++ [("price", .int 120), ("stock", .int 5)])) ⟨1, 0⟩
    let e' : ChangeEvent := .write .listing none "l1"
      (.object (record ++ [("price", .string "-3"), ("internal_notes", .string "scratched")])) ⟨1, 0⟩
    let guest := AccessView.resolve .standard .guest
    ∃ d d', e.toDocument .standard = .ok d ∧ e'.toDocument .standard = .ok d' ∧
      d.field? priceBucketField = some (.text "100-500") ∧ d'.field? priceBucketField = none ∧
      guest.redact "Contact us" d = guest.redact "Contact us" d' ∧
      ∀ name, guest.visibleValue? d name = guest.visibleValue? d' name := by
  intro record e e' guest
  obtain ⟨d, hd, hbucket⟩ : ∃ d, e.toDocument .standard = .ok d ∧
      d.field? priceBucketField = some (.text "100-500") := exists_of_toOption_map (by decide)
  obtain ⟨d', hd', hbucket'⟩ : ∃ d, e'.toDocument .standard = .ok d ∧
      d.field? priceBucketField = none := exists_of_toOption_map (by decide)
  have hmember : ∀ (price : Json) (last : String × Json) (name : String),
      (payloadOf (record ++ [("price", price), last]))[name]? =
        if last.1 = name then some last.2
        else if priceField = name then some price
        else if priceRestrictedField = name then some (.string " true ")
        else if "title" = name then some (.string "Pump") else none := by
    intro price last name
    simp only [payloadOf, record, List.cons_append, List.nil_append, List.foldl_cons, List.foldl_nil,
      Std.ExtTreeMap.getElem?_insert, Std.compare_eq_iff_eq, Std.ExtTreeMap.getElem?_empty]
    rfl
  have hwithheld : ∀ (price : Json) (last : String × Json), price ≠ .null →
      last.1 ∉ [priceField, priceRestrictedField] →
      SchemaRegistry.listingSchema.WithholdsPrice
        (payloadOf (record ++ [("price", price), last])) := by
    intro price last hprice hlast
    simp only [List.mem_cons, List.not_mem_nil, or_false, not_or] at hlast
    refine ⟨⟨.boolean priceRestrictedField, rfl, by simp [SchemaRegistry.listingSchema], rfl,
      .string " true ", ?_, by decide⟩, price, ?_, hprice⟩
    · exact (hmember price last priceRestrictedField).trans
        ((if_neg hlast.2).trans ((if_neg (by decide)).trans (if_pos rfl)))
    · rw [hmember, if_neg hlast.1, if_pos rfl]
  have hnumber : (.int 120 : Json) ≠ .null := by
    intro h
    cases h
  have htext : (.string "-3" : Json) ≠ .null := by
    intro h
    cases h
  have hdiffers : e.DiffersDiscreetly SchemaRegistry.listingSchema e' := by
    refine ⟨rfl, rfl, rfl, rfl, fun name => ?_⟩
    by_cases hprice : name = priceField
    · exact Or.inr (Or.inr ⟨hprice, hwithheld (.int 120) ("stock", .int 5) hnumber (by decide),
        hwithheld (.string "-3") ("internal_notes", .string "scratched") htext (by decide)⟩)
    · by_cases hstock : name = "stock"
      · exact Or.inr (Or.inl (by rw [hstock]; decide))
      · by_cases hnotes : name = "internal_notes"
        · exact Or.inr (Or.inl (by rw [hnotes]; decide))
        · have hleft := hmember (.int 120) ("stock", .int 5) name
          have hright := hmember (.string "-3") ("internal_notes", .string "scratched") name
          simp only [Ne.symm hprice, Ne.symm hstock, Ne.symm hnotes, if_false] at hleft hright
          exact Or.inl (hleft.trans hright.symm)
  obtain ⟨_, hviews⟩ := confidential_members_do_not_show rfl hdiffers hd hd'
  obtain ⟨hredact, hvisible⟩ := hviews guest (AccessView.canReadSensitive_guest .standard d)
  exact ⟨d, d', hd, hd', hbucket, hbucket', hredact _, hvisible⟩

end ChangeEvent

end CatalogSearch
