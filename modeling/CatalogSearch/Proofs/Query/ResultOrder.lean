import CatalogSearch.Proofs.Collections.OrderedMap
import CatalogSearch.Proofs.Number.TotalOrder
import CatalogSearch.Proofs.Query.Ranking

/-!
# Which result comes first

The comparison of results is spelled out as a relation between two of them: the number of the field that
is sorted by, if there is one, and then score, version, id, type and tenant.  Results of different keys
stand in a strict total order, and ranking lists them in it.
-/

set_option autoImplicit false

namespace CatalogSearch

open CatalogSearch.Time

namespace Ranking

/-! ## What comes before what -/

/-- One result comes before another. -/
def Before (plan : QueryPlan) (a b : ScoredDocument) : Prop := compareResults plan a b = .lt

/-- The number by which a plan sorts a document: that of its sort's field, as far as the caller sees
one. -/
def sortNumber? (plan : QueryPlan) (d : Document) : Option Float :=
  plan.sort.field?.bind fun field => sortValue? plan.view field d

/-- One number comes before another, in the direction of the sort; every number comes before none. -/
def NumberBefore (descending : Bool) : Option Float → Option Float → Prop
  | some x, some y =>
    if descending then Number.totalCompare y x = .lt else Number.totalCompare x y = .lt
  | some _, none => True
  | none, _ => False

/-- A greater score comes first, of one score a newer version, of one version a smaller id, of one id an
earlier type and of one type an earlier tenant. -/
def RelevanceBefore (a b : ScoredDocument) : Prop :=
  Number.totalCompare b.score a.score = .lt ∨ a.score = b.score ∧
    (b.document.updatedAt < a.document.updatedAt ∨ a.document.updatedAt = b.document.updatedAt ∧
      (a.document.id < b.document.id ∨ a.document.id = b.document.id ∧
        (compare a.document.entityType b.document.entityType = .lt ∨
          a.document.entityType = b.document.entityType ∧
            compare a.document.tenant b.document.tenant = .lt)))

/-- A relation is a strict total order on the members of a list. -/
structure StrictTotalOn {α : Type} (before : α → α → Prop) (l : List α) : Prop where
  irrefl : ∀ a ∈ l, ¬ before a a
  trans : ∀ a ∈ l, ∀ b ∈ l, ∀ c ∈ l, before a b → before b c → before a c
  total : ∀ a ∈ l, ∀ b ∈ l, a = b ∨ before a b ∨ before b a

/-! ## The comparison is that relation -/

theorem sortValue?_eq_some_iff {view : AccessView} {field : String} {d : Document} {x : Float} :
    sortValue? view field d = some x ↔
      view.isHidden d field = false ∧ d.field? field = some (.number x) ∧ x.isNaN = false := by
  have hnumber : ∀ v : FieldValue, v.number? = some x ↔ v = .number x := by
    intro v
    cases v <;> simp [FieldValue.number?]
  rw [sortValue?, Option.filter_eq_some_iff, Option.bind_eq_some_iff, AccessView.visibleValue?,
    Bool.not_eq_true']
  simp only [hnumber]
  cases view.isHidden d field with
  | true => simp
  | false => simp

theorem compareField_eq_lt_iff {descending : Bool} {a b : Option Float} :
    compareField descending a b = .lt ↔ NumberBefore descending a b := by
  cases a with
  | none => cases b <;> simp [compareField, NumberBefore]
  | some x =>
    cases b with
    | none => simp [compareField, NumberBefore]
    | some y => cases descending <;> simp [compareField, NumberBefore]

theorem compareField_eq_eq_iff {descending : Bool} {a b : Option Float} :
    compareField descending a b = .eq ↔ a = b := by
  cases a with
  | none => cases b <;> simp [compareField]
  | some x =>
    cases b with
    | none => simp [compareField]
    | some y =>
      have hplace : ∀ x y, Number.totalCompare x y = .eq ↔ x = y :=
        fun _ _ => Std.LawfulEqCmp.compare_eq_iff_eq
      rw [Option.some_inj]
      cases descending with
      | true => exact (hplace y x).trans eq_comm
      | false => exact hplace x y

theorem compare_string_eq_lt_iff {a b : String} : compare a b = .lt ↔ a < b :=
  compareOfLessAndEq_eq_lt

theorem compareRelevance_eq_lt_iff {a b : ScoredDocument} :
    compareRelevance a b = .lt ↔ RelevanceBefore a b := by
  have hscore : Number.totalCompare b.score a.score = .eq ↔ a.score = b.score :=
    Std.LawfulEqCmp.compare_eq_iff_eq.trans eq_comm
  have hversion : compare b.document.updatedAt a.document.updatedAt = .eq ↔
      a.document.updatedAt = b.document.updatedAt := Std.compare_eq_iff_eq.trans eq_comm
  rw [compareRelevance, RelevanceBefore, Ordering.then_eq_lt, Ordering.then_eq_lt,
    Ordering.then_eq_lt, Ordering.then_eq_lt, hscore, hversion, Instant.compare_eq_lt_iff,
    compare_string_eq_lt_iff, Std.compare_eq_iff_eq, Std.compare_eq_iff_eq]

/-- A comparison by a field that a plan does not have decides nothing. -/
theorem compareResults_eq_then (plan : QueryPlan) (a b : ScoredDocument) :
    compareResults plan a b =
      (compareField plan.sort.isDescending (sortNumber? plan a.document)
        (sortNumber? plan b.document)).then (compareRelevance a b) := by
  rw [compareResults, sortNumber?, sortNumber?]
  cases plan.sort.field? with
  | none => rfl
  | some field => rfl

theorem before_iff {plan : QueryPlan} {a b : ScoredDocument} :
    Before plan a b ↔
      NumberBefore plan.sort.isDescending (sortNumber? plan a.document) (sortNumber? plan b.document) ∨
      sortNumber? plan a.document = sortNumber? plan b.document ∧ RelevanceBefore a b := by
  rw [Before, compareResults_eq_then, Ordering.then_eq_lt, compareField_eq_lt_iff, compareField_eq_eq_iff,
    compareRelevance_eq_lt_iff]

/-! ## The order is strict and total -/

theorem before_irrefl (plan : QueryPlan) (a : ScoredDocument) : ¬ Before plan a a := by
  have hself : compareResults plan a a = .eq := Std.ReflCmp.compare_self
  rw [Before, hself]
  simp

theorem before_trans {plan : QueryPlan} {a b c : ScoredDocument} (hab : Before plan a b)
    (hbc : Before plan b c) : Before plan a c :=
  Std.TransCmp.lt_trans hab hbc

theorem before_asymm {plan : QueryPlan} (a b : ScoredDocument) (h : Before plan a b) :
    ¬ Before plan b a :=
  Std.OrientedCmp.not_lt_of_lt h

/-- Results of different keys come one before the other. -/
theorem before_total {plan : QueryPlan} {a b : ScoredDocument}
    (hkey : a.document.key ≠ b.document.key) : Before plan a b ∨ Before plan b a := by
  have hswap : compareResults plan b a = (compareResults plan a b).swap := Std.OrientedCmp.eq_swap
  rw [Before, Before, hswap]
  cases hcompare : compareResults plan a b with
  | lt => exact Or.inl rfl
  | gt => exact Or.inr rfl
  | eq => exact absurd (key_eq_of_compareResults hcompare) hkey

theorem strictTotalOn_before {l : List ScoredDocument} (plan : QueryPlan)
    (hkeys : (l.map (·.document.key)).Nodup) : StrictTotalOn (Before plan) l where
  irrefl a _ := before_irrefl plan a
  trans _ _ _ _ _ _ := before_trans
  total a ha b hb := by
    by_cases hkey : a.document.key = b.document.key
    · exact Or.inl (List.inj_on_of_nodup_map hkeys ha hb hkey)
    · exact Or.inr (before_total hkey)

/-! ## Ranking lists results in order -/

theorem rank_perm_scored (w : RankingWeights) (set : CandidateSet) (plan : QueryPlan) :
    (rank w set plan).Perm
      (set.candidates.map (scored w set.inverseFrequencies plan.phrase)) :=
  List.mergeSort_perm _ _

/-- Matches of different keys are listed in strict order. -/
theorem pairwise_before_rank (w : RankingWeights) (set : CandidateSet) (plan : QueryPlan)
    (hkeys : (set.candidates.map (·.document.key)).Nodup) :
    (rank w set plan).Pairwise (Before plan) := by
  have hkeys' : ((set.candidates.map (scored w set.inverseFrequencies plan.phrase)).map
      (·.document.key)).Nodup := by
    rw [List.map_map]
    exact hkeys
  rw [rank_eq]
  refine Sorting.pairwise_lt_mergeSort (compareResults plan) hkeys'.of_map ?_
  intro a ha b hb heq
  exact List.inj_on_of_nodup_map hkeys' ha hb (key_eq_of_compareResults heq)

/-- Where two matches stand says which of them comes before the other. -/
theorem lt_iff_before {w : RankingWeights} {set : CandidateSet} {plan : QueryPlan}
    (hkeys : (set.candidates.map (·.document.key)).Nodup) {i j : Nat} {a b : ScoredDocument}
    (ha : (rank w set plan)[i]? = some a) (hb : (rank w set plan)[j]? = some b) :
    i < j ↔ Before plan a b :=
  (OrderedMap.before_iff_of_ordered before_asymm (pairwise_before_rank w set plan hkeys) ha hb).symm

/-- Ranking is a canonical sort.  Of matches of different keys, each with its score, the comparison is a
strict total order; each is listed once, in that order, however the matches were listed before.  Sorted by
price, delivery or rating, a document with a number that the caller sees comes before every one without,
numbers rise, or fall for ratings, and what is equal in this respect is ordered by score, version, id,
type and tenant, as everything is without such a field. -/
theorem rank_is_canonical (w : RankingWeights) (set : CandidateSet) (plan : QueryPlan)
    (hkeys : (set.candidates.map (·.document.key)).Nodup) :
    let results := set.candidates.map (scored w set.inverseFrequencies plan.phrase)
    let ranked := rank w set plan
    StrictTotalOn (Before plan) results ∧
      ranked.Perm results ∧
      ranked.Pairwise (Before plan) ∧
      (∀ order : List Candidate, order.Perm set.candidates →
        rank w { set with candidates := order } plan = ranked) ∧
      (∀ field descending, (plan.sort, field, descending) ∈
          [(.price, "price", false), (.eta, "eta", false), (.rating, "rating", true)] →
        (∀ d x, sortNumber? plan d = some x ↔ plan.view.isHidden d field = false ∧
          d.field? field = some (.number x) ∧ x.isNaN = false) ∧
        ∀ (i j : Nat) a b, ranked[i]? = some a → ranked[j]? = some b →
          (i < j ↔
            NumberBefore descending (sortNumber? plan a.document) (sortNumber? plan b.document) ∨
            sortNumber? plan a.document = sortNumber? plan b.document ∧ RelevanceBefore a b)) ∧
      (plan.sort = .relevance → ∀ (i j : Nat) a b, ranked[i]? = some a → ranked[j]? = some b →
        (i < j ↔ RelevanceBefore a b)) := by
  intro results ranked
  have hresults : (results.map (·.document.key)).Nodup := by
    rw [List.map_map]
    exact hkeys
  refine ⟨strictTotalOn_before plan hresults, rank_perm_scored w set plan,
    pairwise_before_rank w set plan hkeys, fun order horder => rank_of_perm w set plan hkeys horder,
    ?byField, ?byRelevance⟩
  case byField =>
    intro field descending hsort
    obtain ⟨hfield, hdirection⟩ :
        plan.sort.field? = some field ∧ plan.sort.isDescending = descending := by
      simp only [List.mem_cons, List.not_mem_nil, or_false, Prod.mk.injEq] at hsort
      rcases hsort with ⟨hmode, rfl, rfl⟩ | ⟨hmode, rfl, rfl⟩ | ⟨hmode, rfl, rfl⟩ <;>
        rw [hmode] <;> exact ⟨rfl, rfl⟩
    refine ⟨?_, fun i j a b ha hb => ?_⟩
    · intro d x
      rw [sortNumber?, hfield, Option.bind_some, sortValue?_eq_some_iff]
    · rw [lt_iff_before hkeys ha hb, before_iff, hdirection]
  case byRelevance =>
    intro hmode i j a b ha hb
    have hnone : ∀ d, sortNumber? plan d = none := by
      intro d
      rw [sortNumber?, hmode]
      rfl
    rw [lt_iff_before hkeys ha hb, before_iff, hnone, hnone]
    simp [NumberBefore]

/-- For a guest who sorts by price the cheaper of two parts comes first and one whose price is kept back
comes last, though it costs the least. -/
theorem rank_is_canonical_of_prices :
    let part (id : String) (price : Float) : Document :=
      Document.withField { entityType := .part, id, title := id, updatedAt := ⟨1, 0⟩ } priceField
        (.number price)
    let hidden := (part "hidden" 1).withField priceRestrictedField (.bool true)
    let set : CandidateSet :=
      { candidates := [⟨hidden, []⟩, ⟨part "dear" 99, []⟩, ⟨part "cheap" 10, []⟩] }
    let plan : QueryPlan :=
      { tokens := ["part"], phrase := "part", types := [.part], filters := [], sort := .price,
        matchMode := .any, page := 1, pageSize := 10, view := AccessView.resolve .standard .guest }
    (rank {} set plan).map (·.document.id) = ["cheap", "dear", "hidden"] := by
  intro part hidden set plan
  have hkeys : (set.candidates.map (·.document.key)).Nodup := by decide
  obtain ⟨-, hperm, hordered, -⟩ := rank_is_canonical {} set plan hkeys
  have hcheap : sortNumber? plan (part "cheap" 10) = some 10 := by decide
  have hdear : sortNumber? plan (part "dear" 99) = some 99 := by decide
  have hhidden : sortNumber? plan hidden = none := by decide
  have hless : Number.totalCompare 10 99 = .lt := by decide
  let result (d : Document) : ScoredDocument := scored {} set.inverseFrequencies plan.phrase ⟨d, []⟩
  have hexpected : [result (part "cheap" 10), result (part "dear" 99), result hidden].Pairwise
      (Before plan) := by
    simp only [List.pairwise_cons, List.mem_cons, List.not_mem_nil, or_false, forall_eq_or_imp,
      forall_eq, before_iff, result, scored, hcheap, hdear, hhidden]
    simp [NumberBefore, plan, SortMode.isDescending, hless]
  have hranked : rank {} set plan =
      [result (part "cheap" 10), result (part "dear" 99), result hidden] := by
    refine OrderedMap.eq_of_ordered before_asymm hordered hexpected fun a => ?_
    rw [hperm.mem_iff, ← List.mem_reverse]
    rfl
  rw [hranked]
  rfl

end Ranking

end CatalogSearch
