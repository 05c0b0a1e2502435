import CatalogSearch.Access.View
import CatalogSearch.Proofs.Feed.Building

/-!
# Which fields a record keeps confidential

A member of a record is confidential in the document made of the record when its field is declared so.  The
bucket of a number is not, whatever is declared of it or of the number, unless it is the bucket of a price
that is kept back.
-/

set_option autoImplicit false

namespace CatalogSearch

open CatalogSearch.Text CatalogSearch.Time

namespace Document

variable {d : Document} {f : FieldSpec} {name : String}

/-! ## Steps -/

theorem mem_sensitiveFields_withMember {value : FieldValue} :
    name ∈ (d.withMember f value).sensitiveFields ↔
      name ∈ d.sensitiveFields ∨ f.sensitive = true ∧ f.name = name := by
  unfold withMember
  cases f.sensitive with
  | true => simp [Std.ExtTreeSet.mem_insert, or_comm]
  | false => simp

theorem mem_sensitiveFields_foldl_withMember (members : List (FieldSpec × FieldValue))
    (d : Document) :
    name ∈ (members.foldl (fun d member => d.withMember member.1 member.2) d).sensitiveFields ↔
      name ∈ d.sensitiveFields ∨
        ∃ member ∈ members, member.1.sensitive = true ∧ member.1.name = name :=
  holds_foldl_iff _ (fun d : Document => name ∈ d.sensitiveFields)
    (fun member : FieldSpec × FieldValue => member.1.sensitive = true ∧ member.1.name = name)
    (fun _ _ => mem_sensitiveFields_withMember) members d

theorem sensitiveFields_withBucket (d : Document) (f : FieldSpec) :
    (d.withBucket f).sensitiveFields = d.sensitiveFields := by
  rw [withBucket_eq]

theorem mem_sensitiveFields_withGuardedPrice :
    name ∈ d.withGuardedPrice.sensitiveFields ↔
      name ∈ d.sensitiveFields ∨
        name = priceBucketField ∧ d.priceRestricted = true ∧ name ∈ d.fields := by
  unfold withGuardedPrice
  split
  · rename_i hguarded
    rw [Bool.and_eq_true, Std.ExtTreeMap.contains_iff_mem] at hguarded
    rw [Std.ExtTreeSet.mem_insert, Std.compare_eq_iff_eq, or_comm]
    refine or_congr_right ⟨?_, fun h => h.1.symm⟩
    rintro rfl
    exact ⟨rfl, hguarded⟩
  · rename_i hunguarded
    rw [Bool.and_eq_true, Std.ExtTreeMap.contains_iff_mem] at hunguarded
    refine (or_iff_left ?_).symm
    rintro ⟨rfl, hrestricted, hmem⟩
    exact hunguarded ⟨hrestricted, hmem⟩

theorem priceRestricted_withGuardedPrice (d : Document) :
    d.withGuardedPrice.priceRestricted = d.priceRestricted := by
  rw [priceRestricted, field?_withGuardedPrice, priceRestricted]

end Document

theorem Payload.mem_iff {p : Payload} {name : String} : name ∈ p ↔ ∃ raw, p[name]? = some raw := by
  rw [Std.ExtTreeMap.mem_iff_isSome_getElem?, Option.isSome_iff_exists]

namespace EntitySchema

/-- Whatever is declared under a name has a value of its own: it is made of no other field. -/
def HoldsOwn (schema : EntitySchema) (name : String) : Prop :=
  ∀ f ∈ schema.fields, f.name = name → f.bucketSource? = none

instance (schema : EntitySchema) (name : String) : Decidable (schema.HoldsOwn name) :=
  inferInstanceAs (Decidable (∀ f ∈ schema.fields, f.name = name → f.bucketSource? = none))

end EntitySchema

/-- What is marked as confidential is hidden from those who may not read it. -/
theorem AccessView.isHidden_of_sensitive {view : AccessView} {d : Document} {name : String}
    (hmarked : name ∈ d.sensitiveFields) (hread : view.canReadSensitive d = false) :
    view.isHidden d name = true := by
  rw [isHidden, hread, Std.ExtTreeSet.contains_iff_mem.mpr hmarked]
  rfl

namespace ChangeEvent

variable {schemas : SchemaRegistry} {e : ChangeEvent} {d : Document} {schema : EntitySchema}

/-! ## The whole -/

/-- The confidential fields of the document of a change are the members of its record that are declared so
with a value of their own, and the bucket of a price that is kept back. -/
theorem mem_sensitiveFields_toDocument (h : e.toDocument schemas = .ok d)
    (hschema : schemas.schema? e.entityType = some schema) (name : String) :
    name ∈ d.sensitiveFields ↔
      (∃ f ∈ schema.fields, f.name = name ∧ f.sensitive = true ∧ f.bucketSource? = none ∧
        name ∈ e.payload) ∨
      name = priceBucketField ∧ d.priceRestricted = true ∧ name ∈ d.fields := by
  obtain ⟨members, hmembers, rfl⟩ := built_of_schema h hschema
  have hmembers : (∃ member ∈ members, member.1.sensitive = true ∧ member.1.name = name) ↔
      ∃ f ∈ schema.fields, f.name = name ∧ f.sensitive = true ∧ f.bucketSource? = none ∧
        name ∈ e.payload := by
    constructor
    · rintro ⟨⟨f, value⟩, hmem, hsensitive, rfl⟩
      obtain ⟨hf, hown, raw, hraw, _⟩ := (EntitySchema.mem_convertMembers_iff hmembers).mp hmem
      exact ⟨f, hf, rfl, hsensitive, hown, Payload.mem_iff.mpr ⟨raw, hraw⟩⟩
    · rintro ⟨f, hf, rfl, hsensitive, hown, hpayload⟩
      obtain ⟨raw, hraw⟩ := Payload.mem_iff.mp hpayload
      obtain ⟨value, hmem, _⟩ := EntitySchema.exists_mem_of_declared hmembers hf hown hraw
      exact ⟨(f, value), hmem, hsensitive, rfl⟩
  rw [Document.mem_sensitiveFields_withGuardedPrice, Document.priceRestricted_withGuardedPrice,
    Document.fields_withGuardedPrice,
    foldl_keeps _ Document.sensitiveFields Document.sensitiveFields_withBucket,
    Document.mem_sensitiveFields_foldl_withMember, hmembers]
  exact or_congr_left (or_iff_right Std.ExtTreeSet.not_mem_empty)

/-- A field of a document that is made of no other one is a member of the record. -/
theorem mem_payload_of_own (h : e.toDocument schemas = .ok d)
    (hschema : schemas.schema? e.entityType = some schema) {name : String}
    (hown : schema.HoldsOwn name) (hmem : name ∈ d.fields) : name ∈ e.payload := by
  obtain ⟨value, hvalue⟩ := Document.mem_fields_iff.mp hmem
  obtain ⟨f, hf, hname, ⟨_, raw, hraw, _⟩ | ⟨source, bounds, _, hbucket, _⟩⟩ :=
    gives_of_schema h hschema hvalue
  · exact Payload.mem_iff.mpr ⟨raw, hraw⟩
  · rw [hown f hf hname] at hbucket
    cases hbucket

/-- Of every registry and change, the confidential fields of the document are exactly the members that are
declared so with a value of their own, and the bucket of a price that is kept back.  A field that is there
and is declared confidential, or is the bucket of a confidential one, is among them, and so hidden from
every caller that may not read them, where its name is given to no bucket, and where it is the bucket of a
price that is kept back. -/
theorem confidential_fields_marked (h : e.toDocument schemas = .ok d) :
    ∃ schema, schemas.schema? e.entityType = some schema ∧
      (∀ name, name ∈ d.sensitiveFields ↔
        (∃ f ∈ schema.fields, f.name = name ∧ f.sensitive = true ∧ f.bucketSource? = none ∧
          name ∈ e.payload) ∨
        name = priceBucketField ∧ d.priceRestricted = true ∧ name ∈ d.fields) ∧
      ∀ f ∈ schema.fields, f.name ∈ d.fields →
        (f.sensitive = true ∨ ∃ source bounds, f.bucketSource? = some (source, bounds) ∧
          source ∈ d.sensitiveFields) →
        (schema.HoldsOwn f.name ∨ f.name = priceBucketField ∧ d.priceRestricted = true) →
        f.name ∈ d.sensitiveFields ∧
          ∀ view : AccessView, view.canReadSensitive d = false → view.isHidden d f.name = true := by
  obtain ⟨schema, hschema⟩ := exists_schema_of_toDocument h
  have hmarks := mem_sensitiveFields_toDocument h hschema
  refine ⟨schema, hschema, hmarks, fun f hf hmem hconfidential hwhere => ?_⟩
  have hmarked : f.name ∈ d.sensitiveFields := by
    rcases hwhere with hown | ⟨hprice, hrestricted⟩
    · rcases hconfidential with hsensitive | ⟨source, bounds, hbucket, _⟩
      · have hpayload := mem_payload_of_own h hschema hown hmem
        exact (hmarks f.name).mpr (Or.inl ⟨f, hf, rfl, hsensitive, hown f hf rfl, hpayload⟩)
      · rw [hown f hf rfl] at hbucket
        cases hbucket
    · exact (hmarks f.name).mpr (Or.inr ⟨hprice, hrestricted, hmem⟩)
  exact ⟨hmarked, fun view hread => AccessView.isHidden_of_sensitive hmarked hread⟩

/-- The notes on a listing are hidden, and so is the bucket of its price when the price is kept back. -/
theorem confidential_fields_marked_of_listing :
    let e : ChangeEvent := .write .listing (some "T1") "l1"
      (.object [("title", .string "Pump"), ("price", .int 120), ("price_restricted", .bool true),
        ("internal_notes", .string "scratched")]) ⟨1, 0⟩
    ∃ d, e.toDocument .standard = .ok d ∧
      ∀ view : AccessView, view.canReadSensitive d = false →
        view.isHidden d "internal_notes" = true ∧ view.isHidden d priceBucketField = true := by
  intro e
  obtain ⟨d, hd, hread⟩ : ∃ d, e.toDocument .standard = .ok d ∧
      (d.priceRestricted, d.fields.contains "internal_notes", d.fields.contains priceBucketField) =
        (true, true, true) := exists_of_toOption_map (by decide)
  simp only [Prod.mk.injEq, Std.ExtTreeMap.contains_iff_mem] at hread
  obtain ⟨hrestricted, hnotes, hbucket⟩ := hread
  obtain ⟨schema, hschema, hmarks, hfields⟩ := confidential_fields_marked hd
  cases hschema
  have hown : SchemaRegistry.listingSchema.HoldsOwn "internal_notes" := by decide
  obtain ⟨_, hnotesHidden⟩ := hfields (FieldSpec.text "internal_notes").asSensitive
    (by simp [SchemaRegistry.listingSchema]) hnotes (Or.inl rfl) (Or.inl hown)
  have hbucketMarked := (hmarks priceBucketField).mpr (Or.inr ⟨rfl, hrestricted, hbucket⟩)
  exact ⟨d, hd, fun view hread =>
    ⟨hnotesHidden view hread, AccessView.isHidden_of_sensitive hbucketMarked hread⟩⟩

/-- The bucket of a stock that is confidential is shown to a guest, although it is declared confidential
itself. -/
theorem confidential_bucket_shown :
    let stock := (FieldSpec.number "stock").asSensitive
    let level := (FieldSpec.keyword "stock_level").asSensitive.asFacet (.buckets "stock" [0, 10])
    let schema : EntitySchema := ⟨.part, ["name"], [stock, level]⟩
    let e : ChangeEvent := .write .part none "p1" (.object [("stock", .int 12)]) ⟨1, 0⟩
    let guest := AccessView.resolve .standard .guest
    level ∈ schema.fields ∧ level.sensitive = true ∧
      level.bucketSource? = some (stock.name, [0, 10]) ∧
      ∃ d, e.toDocument (.ofList [schema]) = .ok d ∧ stock.name ∈ d.sensitiveFields ∧
        level.name ∈ d.fields ∧ level.name ∉ d.sensitiveFields ∧
        guest.canReadSensitive d = false ∧ guest.isHidden d level.name = false := by
  intro stock level schema e guest
  obtain ⟨d, hd, hread⟩ : ∃ d, e.toDocument (.ofList [schema]) = .ok d ∧
      (d.sensitiveFields.contains stock.name, d.fields.contains level.name,
        d.sensitiveFields.contains level.name, guest.canReadSensitive d,
        guest.isHidden d level.name) = (true, true, false, false, false) :=
    exists_of_toOption_map (by decide)
  simp only [Prod.mk.injEq] at hread
  obtain ⟨hstock, hlevel, hunmarked, hguest, hshown⟩ := hread
  have hlevelUnmarked : level.name ∉ d.sensitiveFields := by
    rw [← Std.ExtTreeSet.contains_iff_mem, hunmarked]
    exact Bool.false_ne_true
  exact ⟨by simp [schema], rfl, rfl, d, hd, Std.ExtTreeSet.contains_iff_mem.mp hstock,
    Std.ExtTreeMap.contains_iff_mem.mp hlevel, hlevelUnmarked, hguest, hshown⟩

end ChangeEvent

end CatalogSearch
