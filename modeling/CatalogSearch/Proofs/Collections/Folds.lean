import Mathlib.Data.List.Basic

/-!
# Lists that are gone through step by step

A record is turned into a document by going through lists: each member is converted, unless one cannot be,
and what is made of them is put in one after the other.  This module says what such a run gives from what
each of its steps does.
-/

set_option autoImplicit false

namespace CatalogSearch

/-! ## Converting -/

section

variable {α β ε : Type} {f : α → Except ε β} {l : List α} {converted : List β}

/-- A list is converted by converting its first thing and the others. -/
theorem mapM_cons_eq_ok {a : α} (h : (a :: l).mapM f = .ok converted) :
    ∃ first others, f a = .ok first ∧ l.mapM f = .ok others ∧ converted = first :: others := by
  rw [List.mapM_cons] at h
  cases hfirst : f a with
  | error e =>
    rw [hfirst] at h
    cases h
  | ok first =>
    cases hrest : l.mapM f with
    | error e =>
      rw [hfirst, hrest] at h
      cases h
    | ok others =>
      rw [hfirst, hrest] at h
      cases h
      exact ⟨first, others, rfl, rfl, rfl⟩

/-- What a conversion of a list gives is each given for something of the list. -/
theorem exists_of_mem_mapM (h : l.mapM f = .ok converted) {b : β} (hb : b ∈ converted) :
    ∃ a ∈ l, f a = .ok b := by
  induction l generalizing converted with
  | nil =>
    cases h
    cases hb
  | cons a rest ih =>
    obtain ⟨first, others, hfirst, hrest, rfl⟩ := mapM_cons_eq_ok h
    rcases List.mem_cons.mp hb with rfl | hb
    · exact ⟨a, List.mem_cons_self, hfirst⟩
    · obtain ⟨a', ha', hf⟩ := ih hrest hb
      exact ⟨a', List.mem_cons_of_mem _ ha', hf⟩

/-- A conversion of a list gives something for everything of the list. -/
theorem exists_mem_of_mapM (h : l.mapM f = .ok converted) {a : α} (ha : a ∈ l) :
    ∃ b ∈ converted, f a = .ok b := by
  induction l generalizing converted with
  | nil => cases ha
  | cons first rest ih =>
    obtain ⟨b, others, hfirst, hrest, rfl⟩ := mapM_cons_eq_ok h
    rcases List.mem_cons.mp ha with rfl | ha
    · exact ⟨b, List.mem_cons_self, hfirst⟩
    · obtain ⟨b', hb', hf⟩ := ih hrest ha
      exact ⟨b', List.mem_cons_of_mem _ hb', hf⟩

/-- A list can be converted when everything of it can. -/
theorem exists_mapM_eq_ok (h : ∀ a ∈ l, ∃ b, f a = .ok b) :
    ∃ converted, l.mapM f = .ok converted := by
  induction l with
  | nil => exact ⟨[], rfl⟩
  | cons a rest ih =>
    obtain ⟨⟨first, hfirst⟩, hrest⟩ := List.forall_mem_cons.mp h
    obtain ⟨others, hothers⟩ := ih hrest
    refine ⟨first :: others, ?_⟩
    rw [List.mapM_cons, hfirst, hothers]
    rfl

end

/-! ## Putting in -/

section

variable {σ α β : Type} (step : σ → α → σ)

/-- What every step leaves as it is they leave together. -/
theorem foldl_keeps (read : σ → β) (hstep : ∀ s a, read (step s a) = read s) (l : List α) (s : σ) :
    read (l.foldl step s) = read s := by
  induction l generalizing s with
  | nil => rfl
  | cons a rest ih => rw [List.foldl_cons, ih, hstep]

/-- After steps that each bring something about on their own account or leave it as it is, it holds if it held
before or some step brought it about. -/
theorem holds_foldl_iff (P : σ → Prop) (Q : α → Prop) (hstep : ∀ s a, P (step s a) ↔ P s ∨ Q a)
    (l : List α) (s : σ) : P (l.foldl step s) ↔ P s ∨ ∃ a ∈ l, Q a := by
  induction l generalizing s with
  | nil => simp
  | cons a rest ih => rw [List.foldl_cons, ih, hstep, List.exists_mem_cons_iff, or_assoc]

end

end CatalogSearch
