import CatalogSearch.Proofs.Catalog.Schema
import CatalogSearch.Proofs.Query.Facets
import CatalogSearch.Proofs.Query.Plan

/-!
# The domain of a facet

A facet is counted over one domain, for all types that declare it: the domain of the first type asked for
that does.  A match is counted under its value if this domain admits the value, whatever the match's own
type declares, and with the others if not.
-/

set_option autoImplicit false

namespace CatalogSearch

namespace FacetResult

/-- A facet counts what another one counts and one match more: under its value if a domain admits that,
with the others if not. -/
def CountsAlso (f others : FacetResult) (domain : FacetDomain) (v : String) : Prop :=
  if domain.admits v then
    (∀ w, f.count w = others.count w + if w = v then 1 else 0) ∧ f.other = others.other
  else (∀ w, f.count w = others.count w) ∧ f.other = others.other + 1

/-- Two domains give a match the same place if they agree on its value, and only then. -/
theorem CountsAlso.iff_agree {f others : FacetResult} {shared : FacetDomain} {v : String}
    (h : f.CountsAlso others shared v) (domain : FacetDomain) :
    f.CountsAlso others domain v ↔ domain.admits v = shared.admits v := by
  unfold CountsAlso at h ⊢
  cases hshared : shared.admits v with
  | true =>
    rw [hshared, if_pos rfl] at h
    cases hdomain : domain.admits v with
    | true => exact iff_of_true h rfl
    | false =>
      refine iff_of_false (fun h' => ?_) Bool.false_ne_true
      have hother : others.other = others.other + 1 := h.2.symm.trans h'.2
      omega
  | false =>
    rw [hshared, if_neg Bool.false_ne_true] at h
    cases hdomain : domain.admits v with
    | false => exact iff_of_true h rfl
    | true =>
      refine iff_of_false (fun h' => ?_) Bool.noConfusion
      have hother : others.other + 1 = others.other := h.2.symm.trans h'.2
      omega

/-! ## One more value in a tally -/

variable (field : String) (domain : FacetDomain)

theorem count_tally (values : List (Option String)) (w : String) :
    (tally field domain values).count w =
      values.countP fun u => domain.admits w && u == some w := by
  unfold count
  cases hfound : (tally field domain values).buckets.find? (fun b => b.1 == w) with
  | some b =>
    obtain ⟨w', n⟩ := b
    obtain rfl : w' = w := beq_iff_eq.mp (List.find?_some (p := fun b : String × Nat => b.1 == w) hfound)
    exact (mem_buckets_tally_iff.mp (List.mem_of_find?_eq_some hfound)).1
  | none =>
    refine (Nat.eq_zero_of_not_pos fun hpositive => ?_).symm
    have hbucket := List.find?_eq_none.mp hfound _
      (mem_buckets_tally_iff.mpr ⟨rfl, hpositive⟩)
    exact hbucket (beq_self_eq_true w)

theorem other_tally (values : List (Option String)) :
    (tally field domain values).other = values.countP fun u => !(u.any domain.admits) := by
  have hadmitted : (admitted domain values).length = values.countP fun u => u.any domain.admits := by
    rw [admitted, List.length_filterMap_eq_countP]
    simp only [Option.isSome_filter]
  have hall := List.length_eq_countP_add_countP (fun u => Option.any domain.admits u) (l := values)
  simp only [Bool.not_eq_true, Bool.decide_eq_false] at hall
  rw [tally_eq, hadmitted]
  exact Nat.sub_eq_of_eq_add' hall

/-- A value among others is counted beside them. -/
theorem countsAlso_tally (before after : List (Option String)) (v : String) :
    (tally field domain (before ++ some v :: after)).CountsAlso
      (tally field domain (before ++ after)) domain v := by
  have hcount : ∀ w, (tally field domain (before ++ some v :: after)).count w =
      (tally field domain (before ++ after)).count w +
        if domain.admits w && v == w then 1 else 0 := by
    intro w
    rw [count_tally, count_tally, List.countP_append, List.countP_append, List.countP_cons, Nat.add_assoc]
    rfl
  have hother : (tally field domain (before ++ some v :: after)).other =
      (tally field domain (before ++ after)).other + if !(domain.admits v) then 1 else 0 := by
    simp only [other_tally, List.countP_append, List.countP_cons, Option.any_some, Nat.add_assoc]
  unfold CountsAlso
  split
  case isTrue hadmits =>
    rw [hadmits] at hother
    refine ⟨fun w => ?_, hother⟩
    rw [hcount]
    by_cases hw : w = v
    · rw [hw, hadmits, beq_self_eq_true, if_pos rfl, Bool.and_self, if_pos rfl]
    · rw [beq_eq_false_iff_ne.mpr (Ne.symm hw), Bool.and_false, if_neg Bool.false_ne_true, if_neg hw]
  case isFalse hadmits =>
    rw [Bool.not_eq_true] at hadmits
    rw [hadmits] at hother
    refine ⟨fun w => ?_, hother⟩
    rw [hcount, if_neg, Nat.add_zero]
    intro h
    obtain ⟨hw, rfl⟩ : domain.admits w = true ∧ v = w := by simpa using h
    exact Bool.false_ne_true (hadmits.symm.trans hw)

end FacetResult

namespace Facets

/-- The facet of a declared field; the facet of types is not one. -/
def facetOf? (field : String) (facets : List FacetResult) : Option FacetResult :=
  facets.tail.find? fun f => f.field == field

variable {schemas : SchemaRegistry} {plan : QueryPlan} {d : Document} {f : FieldSpec}

theorem facetOf?_aggregate (schemas : SchemaRegistry) (plan : QueryPlan) (field : String)
    (matched : List Document) :
    facetOf? field (aggregate schemas matched plan) =
      (schemas.facetDomain? plan.types field).map fun domain =>
        FacetResult.tally field domain (matched.map (value? schemas plan.view field)) := by
  have hfind : (schemas.facets plan.types).find?
      ((fun f : FacetResult => f.field == field) ∘ fun declared =>
        FacetResult.tally declared.1 declared.2 (matched.map (value? schemas plan.view declared.1))) =
      (schemas.facetDomain? plan.types field).map fun domain => (field, domain) :=
    schemas.find?_facets plan.types field
  rw [facetOf?, aggregate, List.tail_cons, List.find?_map, hfind, Option.map_map]
  rfl

theorem value?_of_declares (hf : schemas.Declares d.entityType f) (view : AccessView) :
    value? schemas view f.name d = (view.visibleValue? d f.name).bind FieldValue.facetValue? := by
  have hdeclares : schemas.declaresAny [d.entityType] f.name = true :=
    SchemaRegistry.declaresAny_iff.mpr ⟨_, List.mem_singleton_self _, f, hf, rfl⟩
  rw [value?, if_pos hdeclares]

/-- A match that has a visible value in a field which its type declares is counted over the domain of the
field's facet. -/
theorem exists_countsAlso {v : String} {shared : FacetDomain} (hf : schemas.Declares d.entityType f)
    (hv : (plan.view.visibleValue? d f.name).bind FieldValue.facetValue? = some v)
    (hshared : schemas.facetDomain? plan.types f.name = some shared) (before after : List Document) :
    ∃ facet others, facetOf? f.name (aggregate schemas (before ++ d :: after) plan) = some facet ∧
      facetOf? f.name (aggregate schemas (before ++ after) plan) = some others ∧
      facet.CountsAlso others shared v := by
  have hvalue : value? schemas plan.view f.name d = some v := (value?_of_declares hf _).trans hv
  have hcounts := FacetResult.countsAlso_tally f.name shared
    (before.map (value? schemas plan.view f.name)) (after.map (value? schemas plan.view f.name)) v
  rw [← hvalue, ← List.map_cons, ← List.map_append, ← List.map_append] at hcounts
  rw [facetOf?_aggregate, facetOf?_aggregate, hshared]
  exact ⟨_, _, rfl, rfl, hcounts⟩

/-- Let a match have a visible value in a field that its type declares as a facet over some domain.  The
facet of that name is counted over the domain of the first type asked for that declares one, and over this
domain the match is counted: under its value if the domain admits it, with the others if not.  That is its
place over the domain of its own type, too, exactly if the two agree on its value.  There is no such facet
only if the match is of no type asked for. -/
theorem counted_over_first_domain (schemas : SchemaRegistry) (plan : QueryPlan)
    (before after : List Document) (d : Document) (f : FieldSpec) (domain : FacetDomain) (v : String)
    (hf : schemas.Declares d.entityType f) (hfacet : f.facet = some domain)
    (hv : (plan.view.visibleValue? d f.name).bind FieldValue.facetValue? = some v) :
    let facetOver (matched : List Document) := facetOf? f.name (aggregate schemas matched plan)
    match schemas.facetDomain? plan.types f.name with
    | some shared =>
      ∃ facet others, facetOver (before ++ d :: after) = some facet ∧
        facetOver (before ++ after) = some others ∧
        facet.CountsAlso others shared v ∧
        (facet.CountsAlso others domain v ↔ domain.admits v = shared.admits v)
    | none => d.entityType ∉ plan.types ∧ ∀ matched, facetOver matched = none := by
  intro facetOver
  cases hshared : schemas.facetDomain? plan.types f.name with
  | some shared =>
    obtain ⟨facet, others, hwith, hwithout, hcounts⟩ := exists_countsAlso hf hv hshared before after
    exact ⟨facet, others, hwith, hwithout, hcounts, hcounts.iff_agree domain⟩
  | none =>
    refine ⟨fun ht => ?_, fun matched => ?_⟩
    · have hisFacet : f.isFacet = true := by rw [FieldSpec.isFacet, hfacet, Option.isSome_some]
      obtain ⟨shared, hsome⟩ := SchemaRegistry.exists_facetDomain ht hf hisFacet
      rw [hshared] at hsome
      cases hsome
    · exact (facetOf?_aggregate schemas plan f.name matched).trans (by rw [hshared, Option.map_none])

/-- An equipment whose type counts every status, among matches of all types: where parts count the
approved only, its status is counted if it is approved, and with the others if it is not. -/
theorem counted_over_first_domain_of_equipment :
    let status (domain : FacetDomain) : FieldSpec := (FieldSpec.keyword "status").asFacet domain
    let schemas : SchemaRegistry := .ofList
      [⟨.part, ["name"], [status (.values ["approved"])]⟩,
        ⟨.equipment, ["name"], [status .anything]⟩]
    let plan : QueryPlan :=
      .understood .standard {} { query := "pump" } .guest EntityType.all .relevance
    let valve : Document := { entityType := .part, id := "p1", title := "Valve", updatedAt := ⟨1, 0⟩ }
    let pump : Document := { entityType := .equipment, id := "e1", title := "Pump", updatedAt := ⟨1, 0⟩ }
    let statusOf (matched : List Document) := facetOf? "status" (aggregate schemas matched plan)
    schemas.Declares .equipment (status .anything) ∧
    (∃ facet others,
      statusOf [valve, pump.withFacet "status" (.text "approved")] = some facet ∧
      statusOf [valve] = some others ∧ facet.CountsAlso others .anything "approved") ∧
    ∃ facet others,
      statusOf [valve, pump.withFacet "status" (.text "open")] = some facet ∧
      statusOf [valve] = some others ∧ facet.other = others.other + 1 ∧
      ¬ facet.CountsAlso others .anything "open" := by
  intro status schemas plan valve pump statusOf
  have hdeclares : schemas.Declares .equipment (status .anything) :=
    ⟨⟨.equipment, ["name"], [status .anything]⟩, rfl, List.mem_singleton_self _⟩
  have hshared : schemas.facetDomain? plan.types (status .anything).name =
      some (.values ["approved"]) := rfl
  refine ⟨hdeclares, ?_, ?_⟩
  · have hcounted := counted_over_first_domain schemas plan [valve] []
      (pump.withFacet "status" (.text "approved")) (status .anything) .anything "approved"
      hdeclares rfl (by decide)
    rw [hshared] at hcounted
    obtain ⟨facet, others, hwith, hwithout, _, hagree⟩ := hcounted
    exact ⟨facet, others, hwith, hwithout, hagree.mpr (by decide)⟩
  · have hcounted := counted_over_first_domain schemas plan [valve] []
      (pump.withFacet "status" (.text "open")) (status .anything) .anything "open"
      hdeclares rfl (by decide)
    rw [hshared] at hcounted
    obtain ⟨facet, others, hwith, hwithout, hcounts, hagree⟩ := hcounted
    exact ⟨facet, others, hwith, hwithout, hcounts.2, fun hown => absurd (hagree.mp hown) (by decide)⟩

/-- It is not over the domain of its own type that a match is counted: an open equipment is counted with
the others although its type counts open ones, as parts do not. -/
theorem not_counted_over_own_domain :
    ¬ ∀ (schemas : SchemaRegistry) (policy : AccessPolicy) (settings : SearchSettings)
      (r : SearchRequest) (caller : Caller) (plan : QueryPlan) (before after : List Document)
      (d : Document) (f : FieldSpec) (domain : FacetDomain) (v : String) (facet others : FacetResult),
      QueryPlan.make schemas policy settings r caller = .ok plan →
      schemas.Declares d.entityType f → f.facet = some domain →
      (plan.view.visibleValue? d f.name).bind FieldValue.facetValue? = some v →
      facetOf? f.name (aggregate schemas (before ++ d :: after) plan) = some facet →
      facetOf? f.name (aggregate schemas (before ++ after) plan) = some others →
      facet.CountsAlso others domain v := by
  intro hall
  let status (names : List String) : FieldSpec := (FieldSpec.keyword "status").asFacet (.values names)
  let equipment : EntitySchema := ⟨.equipment, ["name"], [status ["open"]]⟩
  let schemas : SchemaRegistry := .ofList [⟨.part, ["name"], [status ["approved"]]⟩, equipment]
  let r : SearchRequest := { query := "valve" }
  let plan : QueryPlan := .understood .standard {} r .guest EntityType.all .relevance
  let valve : Document :=
    ({ entityType := .equipment, id := "e1", title := "Valve", updatedAt := ⟨1, 0⟩ } : Document).withFacet
      "status" (.text "open")
  have hplan : QueryPlan.make schemas .standard {} r .guest = .ok plan :=
    QueryPlan.make_of_no_filters rfl (by decide) rfl rfl
  have hdeclares : schemas.Declares valve.entityType (status ["open"]) :=
    ⟨equipment, rfl, List.mem_singleton_self _⟩
  have hvisible : (plan.view.visibleValue? valve "status").bind FieldValue.facetValue? = some "open" := by
    decide
  have hshared : schemas.facetDomain? plan.types "status" = some (.values ["approved"]) := rfl
  obtain ⟨facet, others, hwith, hwithout, hcounts⟩ :=
    exists_countsAlso (f := status ["open"]) hdeclares hvisible hshared [] []
  have hown := hall schemas .standard {} r .guest plan [] [] valve (status ["open"]) (.values ["open"])
    "open" facet others hplan hdeclares rfl hvisible hwith hwithout
  exact absurd ((hcounts.iff_agree _).mp hown) (by decide)

end Facets

end CatalogSearch
