import CatalogSearch.Proofs.Index.RankedCounts
import CatalogSearch.Proofs.Index.Scan
import CatalogSearch.Query.Facets

/-!
# Facets partition the matches

A facet puts every match into one of its buckets or with the others.  What its buckets are and how much
each counts can be read off the values that the matches have, in whatever order they are listed.
-/

set_option autoImplicit false

namespace CatalogSearch

theorem EntityType.name_inj {s t : EntityType} (h : s.name = t.name) : s = t := by
  revert h
  cases s <;> cases t <;> decide

namespace FacetResult

/-! ## One tally -/

/-- The values that belong to a domain. -/
def admitted (domain : FacetDomain) (values : List (Option String)) : List String :=
  values.filterMap fun v => v.filter domain.admits

/-- A tally counts the values of its domain and lists them in order; the rest are the others. -/
theorem tally_eq (field : String) (domain : FacetDomain) (values : List (Option String)) :
    tally field domain values =
      ⟨field, (TermCounts.add {} (admitted domain values)).toList.mergeSort TermCounts.rankLe,
        values.length - (admitted domain values).length⟩ := rfl

theorem count_admitted (domain : FacetDomain) (values : List (Option String)) (v : String) :
    (admitted domain values).count v =
      values.countP fun u => domain.admits v && u == some v := by
  rw [admitted, List.count_filterMap]
  refine List.countP_congr fun u _ => ?_
  rw [beq_iff_eq, Option.filter_eq_some_iff, Bool.and_eq_true, beq_iff_eq, and_comm]

theorem length_admitted_le (domain : FacetDomain) (values : List (Option String)) :
    (admitted domain values).length ≤ values.length :=
  List.length_filterMap_le _ _

/-- The buckets are the values of the domain that occur, each with the number of times that it does. -/
theorem mem_buckets_tally_iff {field : String} {domain : FacetDomain}
    {values : List (Option String)} {v : String} {n : Nat} :
    (v, n) ∈ (tally field domain values).buckets ↔
      n = (values.countP fun u => domain.admits v && u == some v) ∧ 0 < n := by
  have hpositive := TermCounts.positive_add (admitted domain values) TermCounts.positive_empty
  have hcount : (TermCounts.add {} (admitted domain values)).count v =
      (admitted domain values).count v := by
    rw [TermCounts.count_add]
    exact Nat.zero_add _
  rw [tally_eq, TermCounts.mem_ranked_iff hpositive, hcount, count_admitted]

/-- What a bucket counts are values. -/
theorem count_of_mem_buckets {field : String} {domain : FacetDomain}
    {values : List (Option String)} {v : String} {n : Nat}
    (h : (v, n) ∈ (tally field domain values).buckets) : n = values.count (some v) ∧ 0 < n := by
  obtain ⟨rfl, hpositive⟩ := mem_buckets_tally_iff.mp h
  obtain ⟨_, _, hv⟩ := List.countP_pos_iff.mp hpositive
  have hadmits : domain.admits v = true := (Bool.and_eq_true_iff.mp hv).1
  refine ⟨?_, hpositive⟩
  rw [hadmits]
  rfl

theorem pairwise_buckets_tally (field : String) (domain : FacetDomain)
    (values : List (Option String)) :
    (tally field domain values).buckets.Pairwise TermCounts.RanksBefore :=
  TermCounts.pairwise_ranksBefore _

theorem nodup_buckets_tally (field : String) (domain : FacetDomain)
    (values : List (Option String)) :
    ((tally field domain values).buckets.map (·.1)).Nodup :=
  TermCounts.nodup_rankedTerms _

/-- Every value is counted once, in a bucket or with the others. -/
theorem total_tally (field : String) (domain : FacetDomain) (values : List (Option String)) :
    ((tally field domain values).buckets.map (·.2)).sum + (tally field domain values).other =
      values.length := by
  have hsum : ((TermCounts.add {} (admitted domain values)).toList.map (·.2)).sum =
      (admitted domain values).length := by
    rw [TermCounts.sum_add]
    exact Nat.zero_add _
  have hperm := (List.mergeSort_perm (TermCounts.add {} (admitted domain values)).toList
    TermCounts.rankLe).map Prod.snd
  have hle := length_admitted_le domain values
  rw [tally_eq]
  dsimp only
  rw [hperm.sum_nat, hsum]
  omega

theorem tally_of_perm {values values' : List (Option String)} (field : String)
    (domain : FacetDomain) (h : values'.Perm values) :
    tally field domain values' = tally field domain values := by
  have hadmitted : (admitted domain values').Perm (admitted domain values) := h.filterMap _
  have hcounts : TermCounts.add {} (admitted domain values') =
      TermCounts.add {} (admitted domain values) := by
    refine TermCounts.eq_of_count (TermCounts.positive_add _ TermCounts.positive_empty)
      (TermCounts.positive_add _ TermCounts.positive_empty) fun t => ?_
    rw [TermCounts.count_add, TermCounts.count_add, hadmitted.count_eq]
  rw [tally_eq, tally_eq, hcounts, h.length_eq, hadmitted.length_eq]

end FacetResult

namespace Facets

/-! ## Every facet of an answer -/

/-- A facet counts exactly the matches that have a value: every match once, under a value or with the
others; values that some match has, each in one bucket with the number of matches that have it; and the
buckets by falling count, then by value. -/
structure CountsExactly (f : FacetResult) (matched : List Document)
    (has : Document → String → Bool) : Prop where
  total : (f.buckets.map (·.2)).sum + f.other = matched.length
  nodup : (f.buckets.map (·.1)).Nodup
  positive : ∀ v n, (v, n) ∈ f.buckets → 0 < n
  ordered : f.buckets.Pairwise fun a b => b.2 < a.2 ∨ a.2 = b.2 ∧ a.1 < b.1
  bucket_iff : ∀ v n, (v, n) ∈ f.buckets ↔ n = matched.countP (has · v) ∧ 0 < n

theorem countsExactly_tally (field : String) (domain : FacetDomain) (matched : List Document)
    (value? : Document → Option String) (has : Document → String → Bool)
    (hhas : ∀ d v, has d v = (domain.admits v && value? d == some v)) :
    CountsExactly (FacetResult.tally field domain (matched.map value?)) matched has where
  total := by
    rw [FacetResult.total_tally, List.length_map]
  nodup := FacetResult.nodup_buckets_tally _ _ _
  positive v n h := (FacetResult.mem_buckets_tally_iff.mp h).2
  ordered := FacetResult.pairwise_buckets_tally _ _ _
  bucket_iff v n := by
    have hcount : (matched.map value?).countP (fun u => domain.admits v && u == some v) =
        matched.countP (has · v) := by
      rw [List.countP_map]
      refine List.countP_congr fun d _ => ?_
      rw [hhas d v, Function.comp_apply]
    rw [FacetResult.mem_buckets_tally_iff, hcount]

/-- A document is of a planned type with a given name. -/
def hasType (plan : QueryPlan) (d : Document) (v : String) : Bool :=
  plan.types.contains d.entityType && d.entityType.name == v

/-- A document's type declares a field, the caller sees its value there, and that counts under a value of
the facet's domain. -/
def hasValue (schemas : SchemaRegistry) (plan : QueryPlan) (field : String) (domain : FacetDomain)
    (d : Document) (v : String) : Bool :=
  (schemas.schema? d.entityType).any (·.declares field) &&
    (plan.view.visibleValue? d field).bind FieldValue.facetValue? == some v && domain.admits v

theorem hasType_eq (plan : QueryPlan) (d : Document) (v : String) :
    hasType plan d v = ((FacetDomain.values (plan.types.map (·.name))).admits v &&
      some d.entityType.name == some v) := by
  rw [Bool.eq_iff_iff, hasType, Bool.and_eq_true, Bool.and_eq_true, List.contains_iff_mem, beq_iff_eq,
    beq_iff_eq, Option.some_inj, FacetDomain.admits, List.any_eq_true]
  simp only [List.mem_map, beq_iff_eq]
  constructor
  · rintro ⟨hmem, rfl⟩
    exact ⟨⟨_, ⟨_, hmem, rfl⟩, rfl⟩, rfl⟩
  · rintro ⟨⟨_, ⟨t, hmem, rfl⟩, hname⟩, rfl⟩
    exact ⟨EntityType.name_inj hname ▸ hmem, rfl⟩

theorem hasValue_eq (schemas : SchemaRegistry) (plan : QueryPlan) (field : String)
    (domain : FacetDomain) (d : Document) (v : String) :
    hasValue schemas plan field domain d v =
      (domain.admits v && value? schemas plan.view field d == some v) := by
  have hdeclares : schemas.declaresAny [d.entityType] field =
      (schemas.schema? d.entityType).any (·.declares field) := by
    rw [SchemaRegistry.declaresAny]
    cases hschema : schemas.schema? d.entityType with
    | none => rw [List.filterMap_cons_none hschema]; rfl
    | some schema =>
      rw [List.filterMap_cons_some hschema]
      exact Bool.or_false _
  rw [hasValue, value?, hdeclares, Bool.and_comm]
  cases (schemas.schema? d.entityType).any (·.declares field) with
  | true => rfl
  | false => rfl

/-- Facets partition the matches.  Of every registry, plan and list of matches the first facet counts the
matches of each planned type, and after it every facet that the planned types declare counts the matches
whose type declares the field and whose value the caller sees, under the values of its domain; and the
order in which the matches are listed does not matter. -/
theorem aggregate_partitions (schemas : SchemaRegistry) (matched : List Document)
    (plan : QueryPlan) :
    (∃ types rest, aggregate schemas matched plan = types :: rest ∧
      types.field = "type" ∧ CountsExactly types matched (hasType plan) ∧
      List.Forall₂ (fun facet (declared : String × FacetDomain) => facet.field = declared.1 ∧
        CountsExactly facet matched (hasValue schemas plan declared.1 declared.2))
        rest (schemas.facets plan.types)) ∧
    ∀ matched' : List Document, matched'.Perm matched →
      aggregate schemas matched' plan = aggregate schemas matched plan := by
  refine ⟨⟨_, _, rfl, rfl, ?types, ?declared⟩, ?reordered⟩
  case types => exact countsExactly_tally _ _ _ _ _ (hasType_eq plan)
  case declared =>
    rw [List.forall₂_map_left_iff, List.forall₂_same]
    intro declared _
    exact ⟨rfl, countsExactly_tally _ _ _ _ _ (hasValue_eq schemas plan declared.1 declared.2)⟩
  case reordered =>
    intro matched' hperm
    rw [aggregate, aggregate, FacetResult.tally_of_perm _ _ (hperm.map _)]
    congr 1
    refine List.map_congr_left fun declared _ => ?_
    exact FacetResult.tally_of_perm _ _ (hperm.map _)

end Facets

end CatalogSearch
