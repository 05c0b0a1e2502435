import Mathlib.Data.List.Nodup

/-!
# Sorting by a comparison

What is sorted by a comparison in which no two different things are equal stands in strict order, in
whatever order it was listed before.
-/

set_option autoImplicit false

namespace CatalogSearch.Sorting

/-- Things compared by something else. -/
theorem transCmp_comap {α β : Type} (cmp : β → β → Ordering) [Std.TransCmp cmp] (f : α → β) :
    Std.TransCmp fun a b => cmp (f a) (f b) where
  eq_swap := Std.OrientedCmp.eq_swap
  isLE_trans := Std.TransCmp.isLE_trans

theorem not_gt_eq_isLE (o : Ordering) : (o != .gt) = o.isLE := by
  cases o <;> rfl

section

variable {α : Type} {cmp : α → α → Ordering} [Std.TransCmp cmp]

theorem not_gt_trans (a b c : α) (hab : (cmp a b != .gt) = true) (hbc : (cmp b c != .gt) = true) :
    (cmp a c != .gt) = true := by
  rw [not_gt_eq_isLE] at *
  exact Std.TransCmp.isLE_trans hab hbc

theorem not_gt_total (a b : α) : (cmp a b != .gt || cmp b a != .gt) = true := by
  have hswap : cmp a b = (cmp b a).swap := Std.OrientedCmp.eq_swap
  rw [hswap]
  cases cmp b a <;> rfl

/-- Things that may stand in either order are equal in the comparison. -/
theorem eq_of_not_gt {a b : α} (hab : (cmp a b != .gt) = true) (hba : (cmp b a != .gt) = true) :
    cmp a b = .eq := by
  have hswap : cmp b a = (cmp a b).swap := Std.OrientedCmp.eq_swap
  rw [hswap] at hba
  cases hcompare : cmp a b with
  | lt => rw [hcompare] at hba; cases hba
  | eq => rfl
  | gt => rw [hcompare] at hab; cases hab

variable {l l' : List α}

/-- However things are listed, they are sorted in one way. -/
theorem mergeSort_eq_of_perm (cmp : α → α → Ordering) [Std.TransCmp cmp]
    (hperm : l'.Perm l) (heq : ∀ a ∈ l, ∀ b ∈ l, cmp a b = .eq → a = b) :
    l'.mergeSort (fun a b => cmp a b != .gt) = l.mergeSort fun a b => cmp a b != .gt := by
  refine List.Perm.eq_of_pairwise ?_ (List.pairwise_mergeSort not_gt_trans not_gt_total _)
    (List.pairwise_mergeSort not_gt_trans not_gt_total _)
    ((List.mergeSort_perm _ _).trans (hperm.trans (List.mergeSort_perm _ _).symm))
  intro a b ha hb hab hba
  exact heq a (hperm.mem_iff.mp (List.mem_mergeSort.mp ha)) b (List.mem_mergeSort.mp hb)
    (eq_of_not_gt hab hba)

/-- Different things are sorted in strict order. -/
theorem pairwise_lt_mergeSort (cmp : α → α → Ordering) [Std.TransCmp cmp] (hnodup : l.Nodup)
    (heq : ∀ a ∈ l, ∀ b ∈ l, cmp a b = .eq → a = b) :
    (l.mergeSort fun a b => cmp a b != .gt).Pairwise fun a b => cmp a b = .lt := by
  have hsorted : (l.mergeSort fun a b => cmp a b != .gt).Pairwise fun a b =>
      (cmp a b != .gt) = true := List.pairwise_mergeSort not_gt_trans not_gt_total l
  have hdistinct : (l.mergeSort fun a b => cmp a b != .gt).Pairwise fun a b => a ≠ b :=
    (List.mergeSort_perm l _).nodup_iff.mpr hnodup
  refine (hsorted.and hdistinct).imp_of_mem ?_
  intro a b ha hb hab
  cases hcompare : cmp a b with
  | lt => rfl
  | eq =>
    exact absurd (heq a (List.mem_mergeSort.mp ha) b (List.mem_mergeSort.mp hb) hcompare) hab.2
  | gt =>
    have hle := hab.1
    rw [hcompare] at hle
    cases hle

end

end CatalogSearch.Sorting
