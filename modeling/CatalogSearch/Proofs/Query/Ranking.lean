import CatalogSearch.Query.Plan
import CatalogSearch.Query.Ranking
import CatalogSearch.Proofs.Collections.Sorting
import CatalogSearch.Proofs.Time.Instant

/-!
# The order of results

Results are ordered by one comparison, and only results of one key are equal in it.  So the matches of a
plan are ranked in one way, in whatever order they are listed.
-/

set_option autoImplicit false

namespace CatalogSearch

open CatalogSearch.Time

namespace Ranking

/-! ## The comparison -/

instance transCmp_totalCompare : Std.TransCmp Number.totalCompare :=
  inferInstanceAs (Std.TransCmp (compareOn Number.orderKey))

instance transCmp_compareField (descending : Bool) : Std.TransCmp (compareField descending) where
  eq_swap := by
    have hswap : ∀ x y, Number.totalCompare x y = (Number.totalCompare y x).swap :=
      fun _ _ => Std.OrientedCmp.eq_swap
    intro a b
    cases a with
    | none => cases b <;> rfl
    | some x =>
      cases b with
      | none => rfl
      | some y =>
        cases descending with
        | true => exact hswap y x
        | false => exact hswap x y
  isLE_trans := by
    have htrans : ∀ x y z, (Number.totalCompare x y).isLE = true →
        (Number.totalCompare y z).isLE = true → (Number.totalCompare x z).isLE = true :=
      fun _ _ _ => Std.TransCmp.isLE_trans
    intro a b c hab hbc
    cases a with
    | none =>
      cases b with
      | none => exact hbc
      | some y => cases hab
    | some x =>
      cases c with
      | none => rfl
      | some z =>
        cases b with
        | none => cases hbc
        | some y =>
          cases descending with
          | true => exact htrans z y x hbc hab
          | false => exact htrans x y z hab hbc

instance transCmp_compareRelevance : Std.TransCmp compareRelevance := by
  have hscore := Sorting.transCmp_comap (fun x y => Number.totalCompare y x) ScoredDocument.score
  have hversion := Sorting.transCmp_comap (fun t u : Instant => compare u t)
    fun s : ScoredDocument => s.document.updatedAt
  exact inferInstanceAs (Std.TransCmp
    (compareLex (fun a b : ScoredDocument => Number.totalCompare b.score a.score)
      (compareLex (fun a b : ScoredDocument => compare b.document.updatedAt a.document.updatedAt)
        (compareLex (compareOn fun s => s.document.id)
          (compareLex (compareOn fun s => s.document.entityType)
            (compareOn fun s => s.document.tenant))))))

instance transCmp_compareResults (plan : QueryPlan) : Std.TransCmp (compareResults plan) := by
  unfold compareResults
  cases plan.sort.field? with
  | none => exact transCmp_compareRelevance
  | some field =>
    have hfield := Sorting.transCmp_comap (compareField plan.sort.isDescending)
      fun s : ScoredDocument => sortValue? plan.view field s.document
    exact inferInstanceAs (Std.TransCmp (compareLex
      (fun a b : ScoredDocument => compareField plan.sort.isDescending
        (sortValue? plan.view field a.document) (sortValue? plan.view field b.document))
      compareRelevance))

/-- Results that neither comes before the other have one key. -/
theorem key_eq_of_compareResults {plan : QueryPlan} {a b : ScoredDocument}
    (h : compareResults plan a b = .eq) : a.document.key = b.document.key := by
  have hrelevance : compareRelevance a b = .eq := by
    unfold compareResults at h
    split at h
    · exact h
    · exact (Ordering.then_eq_eq.mp h).2
  simp only [compareRelevance, Ordering.then_eq_eq, Std.compare_eq_iff_eq] at hrelevance
  obtain ⟨_, _, hid, htype, htenant⟩ := hrelevance
  rw [Document.key, Document.key, hid, htype, htenant]

/-! ## Listing and ranking -/

/-- A match with its score. -/
def scored (w : RankingWeights) (worths : List Float) (phrase : String) (c : Candidate) :
    ScoredDocument :=
  ⟨c.document, score w worths phrase c⟩

/-- Ranking sorts the scored matches. -/
theorem rank_eq (w : RankingWeights) (set : CandidateSet) (plan : QueryPlan) :
    rank w set plan = (set.candidates.map (scored w set.inverseFrequencies plan.phrase)).mergeSort
      fun a b => compareResults plan a b != .gt := rfl

/-- Ranking lists the matches, each once. -/
theorem rank_perm (w : RankingWeights) (set : CandidateSet) (plan : QueryPlan) :
    ((rank w set plan).map (·.document)).Perm (set.candidates.map (·.document)) := by
  have hperm := (List.mergeSort_perm
    (set.candidates.map (scored w set.inverseFrequencies plan.phrase))
    fun a b => compareResults plan a b != .gt).map ScoredDocument.document
  rw [List.map_map] at hperm
  exact hperm

theorem length_rank (w : RankingWeights) (set : CandidateSet) (plan : QueryPlan) :
    (rank w set plan).length = set.candidates.length := by
  have hlength := (rank_perm w set plan).length_eq
  rwa [List.length_map, List.length_map] at hlength

/-- However matches of different keys are listed, they are ranked in one order. -/
theorem rank_of_perm (w : RankingWeights) (set : CandidateSet) (plan : QueryPlan)
    (hkeys : (set.candidates.map (·.document.key)).Nodup) {order : List Candidate}
    (horder : order.Perm set.candidates) :
    rank w { set with candidates := order } plan = rank w set plan := by
  generalize hworths : set.inverseFrequencies = worths
  have hworths' : ({ set with candidates := order } : CandidateSet).inverseFrequencies = worths :=
    hworths
  have hnodup : ((set.candidates.map (scored w worths plan.phrase)).map
      (·.document.key)).Nodup := by
    rw [List.map_map]
    exact hkeys
  rw [rank_eq, rank_eq, hworths, hworths']
  refine Sorting.mergeSort_eq_of_perm (compareResults plan) (horder.map _) ?_
  -- results that are not apart in the order have one key, and there is one match of a key
  intro a ha b hb heq
  exact List.inj_on_of_nodup_map hnodup ha hb (key_eq_of_compareResults heq)

end Ranking

end CatalogSearch
