import CatalogSearch.Proofs.Index.TermCounts

/-!
# Terms that come and go

Terms are added and removed in lists, in which a term may stand more than once or may not be held at all.
Whatever the steps, the terms held are those whose additions are not yet made up for by removals, and the
scan from a text on finds the ones that begin with it.  To remove the terms that were just added takes
every count back to what it was.
-/

set_option autoImplicit false

namespace CatalogSearch

/-- Every one of the terms is added, or every one is removed. -/
inductive TermStep where
  | add (terms : List String)
  | remove (terms : List String)

namespace TermStep

/-- A count of a term after a step: one more each time that the step adds the term, one less, but not less
than nothing, each time that it removes the term. -/
def recount (term : String) (n : Nat) : TermStep → Nat
  | .add terms => terms.foldl (fun n t => if t = term then n + 1 else n) n
  | .remove terms => terms.foldl (fun n t => if t = term then n - 1 else n) n

/-- What steps leave of a term. -/
def balance (steps : List TermStep) (term : String) : Nat := steps.foldl (recount term) 0

theorem recount_add (term : String) (terms : List String) (n : Nat) :
    recount term n (.add terms) = n + terms.count term := by
  change terms.foldl (fun n t => if t = term then n + 1 else n) n = _
  induction terms generalizing n with
  | nil => rfl
  | cons t rest ih =>
    rw [List.foldl_cons, ih, List.count_cons]
    by_cases h : t = term
    · rw [if_pos h, if_pos (beq_iff_eq.mpr h)]
      omega
    · rw [if_neg h, if_neg (mt beq_iff_eq.mp h), Nat.add_zero]

theorem recount_remove (term : String) (terms : List String) (n : Nat) :
    recount term n (.remove terms) = n - terms.count term := by
  change terms.foldl (fun n t => if t = term then n - 1 else n) n = _
  induction terms generalizing n with
  | nil => rfl
  | cons t rest ih =>
    rw [List.foldl_cons, ih, List.count_cons]
    by_cases h : t = term
    · rw [if_pos h, if_pos (beq_iff_eq.mpr h)]
      omega
    · rw [if_neg h, if_neg (mt beq_iff_eq.mp h), Nat.add_zero]

end TermStep

namespace TermCounts

variable {c : TermCounts}

/-- The terms after a step. -/
def after (c : TermCounts) : TermStep → TermCounts
  | .add terms => c.add terms
  | .remove terms => c.remove terms

/-- The terms after steps, one after the other. -/
def run (c : TermCounts) (steps : List TermStep) : TermCounts := steps.foldl after c

/-! ## Steps -/

theorem count_after (c : TermCounts) (step : TermStep) (term : String) :
    (c.after step).count term = step.recount term (c.count term) := by
  cases step with
  | add terms => exact (count_add terms c term).trans (TermStep.recount_add term terms _).symm
  | remove terms => exact (count_remove terms c term).trans (TermStep.recount_remove term terms _).symm

theorem Positive.after (hc : c.Positive) (step : TermStep) : (c.after step).Positive := by
  cases step with
  | add terms => exact positive_add terms hc
  | remove terms => exact positive_remove terms hc

theorem count_run (c : TermCounts) (steps : List TermStep) (term : String) :
    (c.run steps).count term = steps.foldl (TermStep.recount term) (c.count term) := by
  induction steps generalizing c with
  | nil => rfl
  | cons step rest ih => exact (ih (c.after step)).trans (by rw [count_after, List.foldl_cons])

theorem Positive.run (hc : c.Positive) (steps : List TermStep) : (c.run steps).Positive := by
  induction steps generalizing c with
  | nil => exact hc
  | cons step rest ih => exact ih (hc.after step)

/-- The terms just added are removed without a trace. -/
theorem remove_add (hc : c.Positive) (terms : List String) : (c.add terms).remove terms = c := by
  refine eq_of_count (positive_remove terms (positive_add terms hc)) hc fun term => ?_
  rw [count_remove, count_add, Nat.add_sub_cancel]

/-! ## The terms held -/

/-- There are as many terms as count. -/
theorem encard_counting (hc : c.Positive) : {term | 0 < c.count term}.encard = c.size := by
  have hheld : {term | 0 < c.count term} = {term | ∃ n, c.counts[term]? = some n ∧ true = true} := by
    ext term
    rw [Set.mem_ofPred_eq, Set.mem_ofPred_eq, getElem?_eq_of_positive hc]
    constructor
    · exact fun hcount => ⟨_, if_pos hcount, rfl⟩
    · rintro ⟨n, hn, -⟩
      exact (Option.ite_none_right_eq_some.mp hn).1
  rw [hheld, OrderedMap.encard_keys c.counts fun _ => true, List.countP_true,
    Std.ExtTreeMap.length_toList]
  rfl

theorem beginsWith_iff {start term : String} :
    beginsWith start term = true ↔ ∃ rest, term = start ++ rest := by
  rw [beginsWith, List.isPrefixOf_iff_prefix]
  constructor
  · rintro ⟨rest, hrest⟩
    refine ⟨String.ofList rest, String.toList_inj.mp ?_⟩
    rw [String.toList_append, String.toList_ofList, hrest]
  · rintro ⟨rest, rfl⟩
    exact ⟨rest.toList, String.toList_append.symm⟩

/-- After any steps every term counts what the steps leave of it, a term of which they leave nothing is not
held, and there are as many terms as are held.  For any text the scan from the text on finds, of all
terms, the held ones that begin with it, in order and each once with its count.  And to add terms and
then remove the same ones changes nothing. -/
theorem run_recounts (steps : List TermStep) :
    let c := empty.run steps
    (∀ term, c.count term = TermStep.balance steps term ∧
      ∀ n, c.counts[term]? = some n ↔ n = TermStep.balance steps term ∧ 0 < n) ∧
    (c.size : ℕ∞) = {term | 0 < TermStep.balance steps term}.encard ∧
    (∀ start, c.startingWith start = c.toList.filter (fun e => beginsWith start e.1) ∧
      (c.startingWith start).Pairwise (fun a b => a.1 < b.1) ∧
      ∀ term n, (term, n) ∈ c.startingWith start ↔
        (∃ rest, term = start ++ rest) ∧ n = TermStep.balance steps term ∧ 0 < n) ∧
    ∀ terms, (c.add terms).remove terms = c := by
  intro c
  have hc : c.Positive := positive_empty.run steps
  have hcount : ∀ term, c.count term = TermStep.balance steps term := count_run empty steps
  refine ⟨fun term => ⟨hcount term, fun n => ?held⟩, ?size, fun start => ?starting, remove_add hc⟩
  case held =>
    rw [← hcount, ← mem_toList_iff hc]
    exact Std.ExtTreeMap.mem_toList_iff_getElem?_eq_some.symm
  case size =>
    rw [← encard_counting hc]
    simp only [hcount]
  case starting =>
    have hfilter := startingWith_eq_filter c start
    refine ⟨hfilter, hfilter ▸ (ordered_toList c).filter _, fun term n => ?_⟩
    rw [hfilter, List.mem_filter, mem_toList_iff hc, hcount, beginsWith_iff, and_comm]

end TermCounts

end CatalogSearch
