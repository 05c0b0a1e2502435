import Mathlib.Data.List.Forall2

/-!
# Lists related member by member

Two stores that differ in what a caller does not see are gone through in step.  This module says that
what is done with lists keeps them related: counting, sorting and showing.
-/

set_option autoImplicit false

namespace CatalogSearch.Related

variable {α β γ : Type} {R : α → β → Prop} {left : List α} {right : List β}

/-- Lists with the same marks in the same order are related, if members with one mark are. -/
theorem of_map_eq {f : α → γ} {g : β → γ} (hmap : left.map f = right.map g)
    (hR : ∀ a ∈ left, ∀ b ∈ right, f a = g b → R a b) : List.Forall₂ R left right := by
  induction left generalizing right with
  | nil =>
    rw [List.map_nil] at hmap
    rw [List.map_eq_nil_iff.mp hmap.symm]
    exact List.Forall₂.nil
  | cons a left ih =>
    cases right with
    | nil => cases hmap
    | cons b right =>
      rw [List.map_cons, List.map_cons] at hmap
      obtain ⟨hhead, htail⟩ := List.cons.inj hmap
      refine List.Forall₂.cons (hR a List.mem_cons_self b List.mem_cons_self hhead) ?_
      exact ih htail fun a' ha' b' hb' =>
        hR a' (List.mem_cons_of_mem _ ha') b' (List.mem_cons_of_mem _ hb')

theorem map_eq (h : List.Forall₂ R left right) {f : α → γ} {g : β → γ}
    (hfg : ∀ a b, R a b → f a = g b) : left.map f = right.map g := by
  induction h with
  | nil => rfl
  | cons hhead _ ih => rw [List.map_cons, List.map_cons, hfg _ _ hhead, ih]

theorem countP_eq (h : List.Forall₂ R left right) {p : α → Bool} {q : β → Bool}
    (hpq : ∀ a b, R a b → p a = q b) : left.countP p = right.countP q := by
  induction h with
  | nil => rfl
  | cons hhead _ ih => rw [List.countP_cons, List.countP_cons, hpq _ _ hhead, ih]

theorem filter (h : List.Forall₂ R left right) {p : α → Bool} {q : β → Bool}
    (hpq : ∀ a b, R a b → p a = q b) : List.Forall₂ R (left.filter p) (right.filter q) := by
  refine List.rel_filter ?_ h
  intro a b hab
  exact Bool.eq_iff_iff.mp (hpq a b hab)

/-- Sorting by orders that say the same of related members keeps lists related. -/
theorem mergeSort (h : List.Forall₂ R left right) {le : α → α → Bool} {le' : β → β → Bool}
    (hle : ∀ a b a' b', R a b → R a' b' → le a a' = le' b b') :
    List.Forall₂ R (left.mergeSort le) (right.mergeSort le') := by
  have hmem : ∀ p ∈ left.zip right, R p.1 p.2 := fun p hp => List.forall₂_zip h hp
  have hleft : left = (left.zip right).map (·.1) :=
    (List.map_fst_zip (Nat.le_of_eq h.length_eq)).symm
  have hright : right = (left.zip right).map (·.2) :=
    (List.map_snd_zip (Nat.le_of_eq h.length_eq.symm)).symm
  -- both lists are sorted by sorting the pairs of their members
  have hsortLeft : left.mergeSort le =
      ((left.zip right).mergeSort fun p q => le p.1 q.1).map (·.1) := by
    rw [List.map_mergeSort (s := le) (fun _ _ _ _ => rfl), ← hleft]
  have hsortRight : right.mergeSort le' =
      ((left.zip right).mergeSort fun p q => le p.1 q.1).map (·.2) := by
    rw [List.map_mergeSort (s := le')
      (fun p hp q hq => hle p.1 p.2 q.1 q.2 (hmem p hp) (hmem q hq)), ← hright]
  rw [hsortLeft, hsortRight, List.forall₂_map_left_iff, List.forall₂_map_right_iff,
    List.forall₂_same]
  intro p hp
  exact hmem p (List.mem_mergeSort.mp hp)

/-- What is there on both sides or on neither is related the other way around as well. -/
theorem option_swap {Q : β → α → Prop} (hQ : ∀ a b, R a b → Q b a) {x : Option α} {y : Option β}
    (h : Option.Rel R x y) : Option.Rel Q y x := by
  cases h with
  | some hab => exact Option.Rel.some (hQ _ _ hab)
  | none => exact Option.Rel.none

end CatalogSearch.Related
