import CatalogSearch.Proofs.Feed.Keywords

/-!
# Which records are listed

A record is listed when it is published and no state of approval stands against it.  Both are read off the
members of the record, while the fields of its document are converted from them; what the fields of a listed
document say is what the members said, but for a state that is given as a number or a truth value, which is
kept as a text and stands against nothing.
-/

set_option autoImplicit false

namespace CatalogSearch

open CatalogSearch.Text CatalogSearch.Time

namespace Document

/-- A field is a text that says the given word, in whatever ASCII case. -/
def Says (d : Document) (name word : String) : Prop :=
  ∃ s, d.field? name = some (.text s) ∧ equalIgnoringAsciiCase s word = true

/-- A state of approval that does not stand against listing a record, in the document made of it. -/
inductive Unopposed (d : Document) (p : Payload) (name : String) : Prop
  | absent (field : d.field? name = none)
  | null (field : d.field? name = some .null)
  | approved (field : d.Says name "approved")
  /-- A number is no state, and its text is kept whatever it says. -/
  | number (n : Json.Number) (member : p[name]? = some (.number n))
      (field : d.field? name = some (.text n.render))
  /-- A truth value is no state either. -/
  | boolean (b : Bool) (member : p[name]? = some (.bool b))
      (field : d.field? name = some (.text (FieldValue.boolText b)))

theorem visibility_withBucket (d : Document) (f : FieldSpec) :
    (d.withBucket f).visibility = d.visibility := by
  rw [withBucket_eq]

theorem visibility_withGuardedPrice (d : Document) : d.withGuardedPrice.visibility = d.visibility := by
  rw [withGuardedPrice_eq]

end Document

/-! ## The state of a record in the standard schemas -/

namespace SchemaRegistry

variable {t : EntityType} {schema : EntitySchema} {f : FieldSpec}

/-- Records of every type have a state. -/
theorem mem_fields_of_listingState (hschema : standard.schema? t = some schema)
    (hf : f ∈ listingState) : f ∈ schema.fields := by
  cases t with
  | part | equipment | listing | service =>
    cases hschema
    exact List.mem_append_left _ (List.mem_append_left _ (List.mem_append_right _ hf))
  | company =>
    cases hschema
    exact List.mem_append_left _ (List.mem_append_right _ hf)

/-- The state of a record is told in keywords of its own. -/
theorem keyword_of_listingState (hf : f ∈ listingState) :
    f.kind = .keyword ∧ f.bucketSource? = none := by
  simp only [listingState, List.mem_cons, List.not_mem_nil, or_false] at hf
  rcases hf with rfl | rfl | rfl
  · exact ⟨rfl, rfl⟩
  · exact ⟨rfl, rfl⟩
  · exact ⟨rfl, rfl⟩

end SchemaRegistry

namespace ChangeEvent

variable {schemas : SchemaRegistry} {e : ChangeEvent} {d : Document} {f : FieldSpec}

/-- Whether a record is listed is decided by its members. -/
theorem visibility_toDocument (h : e.toDocument schemas = .ok d) :
    d.visibility = e.payload.visibility := by
  obtain ⟨schema, hschema⟩ := exists_schema_of_toDocument h
  refine holds_of_toDocument (P := fun d => d.visibility = e.payload.visibility) h hschema rfl ?member
    ?bucket ?guarded
  case member => exact fun _ _ _ _ hd => hd
  case bucket => exact fun f _ d hd => (Document.visibility_withBucket d f).trans hd
  case guarded => exact fun d hd => (Document.visibility_withGuardedPrice d).trans hd

/-- A field of the state of a record is there when the member is, and holds the keyword that the member
converts to. -/
theorem state_toDocument (h : e.toDocument .standard = .ok d)
    (hf : f ∈ SchemaRegistry.listingState) :
    e.payload[f.name]? = none ∧ d.field? f.name = none ∨
      ∃ raw value, e.payload[f.name]? = some raw ∧ FieldKind.keyword.convert? raw = some value ∧
        d.field? f.name = some value := by
  obtain ⟨schema, hschema⟩ := exists_schema_of_toDocument h
  have honce := SchemaRegistry.declareOnce_standard e.entityType schema hschema
  have hdeclared := SchemaRegistry.mem_fields_of_listingState hschema hf
  obtain ⟨hkind, hown⟩ := SchemaRegistry.keyword_of_listingState hf
  have hfield := field?_toDocument_of_own h hschema honce hdeclared hown
  cases hraw : e.payload[f.name]? with
  | none =>
    rw [hraw] at hfield
    exact Or.inl ⟨rfl, hfield⟩
  | some raw =>
    obtain ⟨value, _, _, raw', hraw', hconverted⟩ :=
      exists_converts_of_toDocument h hschema hdeclared hown hraw
    cases hraw.symm.trans hraw'
    rw [hraw, Option.bind_some, hconverted] at hfield
    exact Or.inr ⟨raw, value, rfl, hkind ▸ hconverted, hfield⟩

/-- A member states a word when it is a string and the field says the word. -/
theorem states_iff_says (h : e.toDocument .standard = .ok d) (hf : f ∈ SchemaRegistry.listingState)
    (word : String) :
    e.payload.states f.name word = true ↔
      (e.payload.text? f.name).isSome = true ∧ d.Says f.name word := by
  unfold Payload.states Payload.text? Document.Says
  rcases state_toDocument h hf with ⟨hraw, hfield⟩ | ⟨raw, value, hraw, hconverted, hfield⟩
  · rw [hraw, hfield]
    simp
  · rw [hraw, hfield]
    cases raw with
    | string s =>
      cases hconverted
      simp [Json.text?]
    | null | bool b | number n | array items | object members => simp [Json.text?]

/-- A member approves when nothing of the field stands against it. -/
theorem approves_iff_unopposed (h : e.toDocument .standard = .ok d)
    (hf : f ∈ SchemaRegistry.listingState) :
    e.payload.approves f.name = true ↔ d.Unopposed e.payload f.name := by
  unfold Payload.approves Payload.text?
  rcases state_toDocument h hf with ⟨hraw, hfield⟩ | ⟨raw, value, hraw, hconverted, hfield⟩
  · rw [hraw]
    exact iff_of_true rfl (.absent hfield)
  · rw [hraw]
    cases raw with
    | null =>
      cases hconverted
      exact iff_of_true rfl (.null hfield)
    | number n =>
      cases hconverted
      exact iff_of_true rfl (.number n hraw hfield)
    | bool b =>
      cases hconverted
      exact iff_of_true rfl (.boolean b hraw hfield)
    | string s =>
      cases hconverted
      rw [Option.bind_some, Json.text?, Option.all_some]
      refine ⟨fun hsays => .approved ⟨_, hfield, hsays⟩, fun hunopposed => ?_⟩
      cases hunopposed with
      | absent hnone => cases hfield.symm.trans hnone
      | null hnull => cases hfield.symm.trans hnull
      | approved hsays =>
        obtain ⟨s', hs', hsays⟩ := hsays
        cases hfield.symm.trans hs'
        exact hsays
      | number n hnumber => cases hraw.symm.trans hnumber
      | boolean b hbool => cases hraw.symm.trans hbool
    | array items | object members => cases hconverted

/-- With the schemas of a marketplace catalog a record is listed exactly when it is published by a string, and
each state of approval in its document is absent, null, approved, or not given as a string at all. -/
theorem listed_iff_unopposed (h : e.toDocument .standard = .ok d) :
    d.visibility = .listed ↔
      ((e.payload.text? "visibility").isSome = true ∧ d.Says "visibility" "public") ∧
        ∀ name ∈ ["status", "company_status"], d.Unopposed e.payload name := by
  have hpublished : e.payload.states "visibility" "public" = true ↔
      (e.payload.text? "visibility").isSome = true ∧ d.Says "visibility" "public" :=
    states_iff_says h (f := .keyword "visibility") (by simp [SchemaRegistry.listingState]) "public"
  have hstatus : e.payload.approves "status" = true ↔ d.Unopposed e.payload "status" :=
    approves_iff_unopposed h
      (f := (FieldSpec.keyword "status").asFacet (.values SchemaRegistry.statuses))
      (by simp [SchemaRegistry.listingState])
  have hcompany : e.payload.approves "company_status" = true ↔
      d.Unopposed e.payload "company_status" :=
    approves_iff_unopposed h (f := .keyword "company_status") (by simp [SchemaRegistry.listingState])
  rw [List.forall_mem_cons, List.forall_mem_singleton, ← hpublished, ← hstatus, ← hcompany,
    visibility_toDocument h, Payload.visibility]
  simp only [ite_eq_left_iff, reduceCtorEq, imp_false, not_not, Bool.and_eq_true, and_assoc]

/-- A listing that is published and approved, in whatever case and with white space around, is listed by a
document that says so. -/
theorem listed_iff_unopposed_of_listing :
    let e : ChangeEvent := .write .listing (some "T1") "l1"
      (.object [("title", .string "Pump"), ("visibility", .string "Public "),
        ("status", .string " APPROVED"), ("company_status", .null)]) ⟨1, 0⟩
    ∃ d, e.toDocument .standard = .ok d ∧ d.visibility = .listed ∧ d.Says "visibility" "public" ∧
      d.Unopposed e.payload "status" := by
  intro e
  obtain ⟨d, hd, hlisted⟩ : ∃ d, e.toDocument .standard = .ok d ∧ d.visibility = .listed :=
    exists_of_toOption_map (by decide)
  obtain ⟨⟨_, hpublished⟩, hunopposed⟩ := (listed_iff_unopposed hd).mp hlisted
  exact ⟨d, hd, hlisted, hpublished, hunopposed "status" List.mem_cons_self⟩

/-- A listing of a tenant whose status is a truth value is listed, and its document says that the status is
another one than approved. -/
theorem listed_with_status_false :
    let e : ChangeEvent := .write .listing (some "T1") "l1"
      (.object [("title", .string "Pump"), ("visibility", .string "public"),
        ("status", .bool false)]) ⟨1, 0⟩
    ∃ d, e.toDocument .standard = .ok d ∧ d.tenant = some "T1" ∧ d.visibility = .listed ∧
      d.field? "status" = some (.text "false") ∧ ¬ d.Says "status" "approved" := by
  intro e
  obtain ⟨d, hd, hread⟩ : ∃ d, e.toDocument .standard = .ok d ∧
      (d.tenant, d.visibility) = (some "T1", .listed) := exists_of_toOption_map (by decide)
  simp only [Prod.mk.injEq] at hread
  obtain ⟨htenant, hlisted⟩ := hread
  have hmember : e.payload["status"]? = some (.bool false) := by
    simp [e, write, payloadOf, Json.members?]
  have hstatus : d.field? "status" = some (.text "false") := by
    obtain ⟨hnone, _⟩ | ⟨raw, value, hraw, hconverted, hfield⟩ := state_toDocument hd
      (f := (FieldSpec.keyword "status").asFacet (.values SchemaRegistry.statuses))
      (by simp [SchemaRegistry.listingState])
    · cases hmember.symm.trans hnone
    · cases hmember.symm.trans hraw
      cases hconverted
      exact hfield
  refine ⟨d, hd, htenant, hlisted, hstatus, ?_⟩
  rintro ⟨s, hs, hsays⟩
  cases hstatus.symm.trans hs
  exact absurd hsays (by decide)

end ChangeEvent

end CatalogSearch
