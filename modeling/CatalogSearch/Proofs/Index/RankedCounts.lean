import CatalogSearch.Engine.Suggestions
import CatalogSearch.Proofs.Collections.Sorting
import CatalogSearch.Proofs.Index.TermCounts

/-!
# Counts in order

Facets and suggestions list counted terms the most frequent first, and terms of one count in code-point
order.  No two terms tie, so the counts of all terms determine the list.
-/

set_option autoImplicit false

namespace CatalogSearch.TermCounts

/-! ## The order of counts -/

/-- A term counts more than another, or as much and comes first. -/
def RanksBefore (a b : String × Nat) : Prop := b.2 < a.2 ∨ a.2 = b.2 ∧ a.1 < b.1

theorem ranksBefore_asymm (a b : String × Nat) (h : RanksBefore a b) : ¬ RanksBefore b a := by
  rintro (hmore | ⟨heq, hlt⟩)
  · rcases h with hless | ⟨heq, _⟩
    · omega
    · omega
  · rcases h with hless | ⟨_, hlt'⟩
    · omega
    · exact String.lt_asymm hlt hlt'

/-- The comparison by which counted terms are sorted. -/
def compareCounts (a b : String × Nat) : Ordering := (compare b.2 a.2).then (compare a.1 b.1)

instance transCmp_compareCounts : Std.TransCmp compareCounts := by
  have hcount := Sorting.transCmp_comap (fun m n : Nat => compare n m) fun e : String × Nat => e.2
  exact inferInstanceAs (Std.TransCmp
    (compareLex (fun a b : String × Nat => compare b.2 a.2) (compareOn fun e => e.1)))

theorem compareCounts_eq_lt_iff {a b : String × Nat} : compareCounts a b = .lt ↔ RanksBefore a b := by
  have hterm : compare a.1 b.1 = .lt ↔ a.1 < b.1 := compareOfLessAndEq_eq_lt
  rw [compareCounts, Ordering.then_eq_lt, Nat.compare_eq_lt, Nat.compare_eq_eq, hterm, RanksBefore,
    eq_comm (a := a.2)]

theorem eq_of_compareCounts {a b : String × Nat} (h : compareCounts a b = .eq) : a = b := by
  rw [compareCounts, Ordering.then_eq_eq, Nat.compare_eq_eq, Std.compare_eq_iff_eq] at h
  exact Prod.ext h.2 h.1.symm

/-! ## Counts listed in that order -/

theorem nodup_toList (c : TermCounts) : c.toList.Nodup := OrderedMap.nodup_toList c.counts

/-- The terms are listed in strict order. -/
theorem pairwise_ranksBefore (c : TermCounts) : (c.toList.mergeSort rankLe).Pairwise RanksBefore := by
  have hsorted := Sorting.pairwise_lt_mergeSort compareCounts (nodup_toList c)
    fun _ _ _ _ => eq_of_compareCounts
  exact hsorted.imp compareCounts_eq_lt_iff.mp

/-- The terms listed are those that count, each with its count. -/
theorem mem_ranked_iff {c : TermCounts} (hc : c.Positive) {t : String} {n : Nat} :
    (t, n) ∈ c.toList.mergeSort rankLe ↔ n = c.count t ∧ 0 < n := by
  rw [List.mem_mergeSort, mem_toList_iff hc]

/-- The terms that count, the best first. -/
def rankedTerms (c : TermCounts) : List String := (c.toList.mergeSort rankLe).map (·.1)

theorem nodup_rankedTerms (c : TermCounts) : c.rankedTerms.Nodup := by
  have hterms : (c.toList.map (·.1)).Nodup := by
    rw [List.Nodup, List.pairwise_map]
    refine (ordered_toList c).imp ?_
    rintro a b hlt heq
    rw [heq] at hlt
    exact String.lt_irrefl _ hlt
  have hperm := (List.mergeSort_perm c.toList rankLe).map Prod.fst
  exact hperm.nodup_iff.mpr hterms

theorem best_eq_take (c : TermCounts) (limit : Nat) : c.best limit = c.rankedTerms.take limit := by
  rw [best, rankedTerms, List.map_take]

theorem mem_rankedTerms_iff {c : TermCounts} (hc : c.Positive) {t : String} :
    t ∈ c.rankedTerms ↔ 0 < c.count t := by
  rw [rankedTerms, List.mem_map]
  constructor
  · rintro ⟨⟨_, n⟩, hmem, rfl⟩
    obtain ⟨rfl, hpos⟩ := (mem_ranked_iff hc).mp hmem
    exact hpos
  · intro hpos
    exact ⟨(t, c.count t), (mem_ranked_iff hc).mpr ⟨rfl, hpos⟩, rfl⟩

/-- The terms stand in strict order of their counts. -/
theorem pairwise_rankedTerms {c : TermCounts} (hc : c.Positive) :
    c.rankedTerms.Pairwise fun a b => c.count b < c.count a ∨ c.count a = c.count b ∧ a < b := by
  rw [rankedTerms, List.pairwise_map]
  refine (pairwise_ranksBefore c).imp_of_mem ?_
  intro a b ha hb hab
  rw [← ((mem_ranked_iff hc).mp ha).1, ← ((mem_ranked_iff hc).mp hb).1]
  exact hab

/-! ## The sum of all counts -/

theorem sum_add_one (c : TermCounts) (t : String) :
    ((c.add [t]).toList.map (·.2)).sum = (c.toList.map (·.2)).sum + 1 := by
  have hcounts : (c.add [t]).counts = c.counts.insert t (c.count t + 1) := by
    refine Std.ExtTreeMap.ext_getElem? fun a => ?_
    rw [add, List.foldl_cons, List.foldl_nil, Std.ExtTreeMap.getElem?_alter,
      Std.ExtTreeMap.getElem?_insert]
    rfl
  rw [toList, hcounts, ((OrderedMap.toList_perm_insert _ _ _).map (·.2)).sum_nat, List.map_cons,
    List.sum_cons]
  have hrest : (c.toList.map (·.2)).sum = c.count t + ((c.counts.erase t).toList.map (·.2)).sum := by
    rw [toList, count]
    cases hfound : c.counts[t]? with
    | none => rw [OrderedMap.erase_eq_self hfound, Option.getD_none, Nat.zero_add]
    | some n =>
      rw [((OrderedMap.toList_perm_erase hfound).map (·.2)).sum_nat, List.map_cons, List.sum_cons,
        Option.getD_some]
  omega

/-- All counts together grow by the number of terms added. -/
theorem sum_add (terms : List String) (c : TermCounts) :
    ((c.add terms).toList.map (·.2)).sum = (c.toList.map (·.2)).sum + terms.length := by
  induction terms generalizing c with
  | nil => rfl
  | cons t rest ih =>
    have hstep : c.add (t :: rest) = (c.add [t]).add rest := rfl
    rw [hstep, ih, sum_add_one, List.length_cons]
    omega

end CatalogSearch.TermCounts
