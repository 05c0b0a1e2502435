import CatalogSearch.Index.TermCounts
import CatalogSearch.Proofs.Collections.OrderedMap
import Mathlib.Algebra.GroupWithZero.Nat

/-!
# Counted terms

What adding and removing terms does to the count of each of them, and which terms begin with a text:
the terms are in order, so the ones that begin with it stand together, and the scan that stops at the
first other term misses none.
-/

set_option autoImplicit false

namespace CatalogSearch.TermCounts

/-! ## Adding and removing -/

/-- Every term held counts. -/
def Positive (c : TermCounts) : Prop := ∀ (t : String) (n : Nat), c.counts[t]? = some n → 0 < n

theorem positive_empty : Positive {} := by
  intro t n h
  simp at h

/-- A term added as often as a list has it counts that much more. -/
theorem count_add (terms : List String) (c : TermCounts) (t : String) :
    (c.add terms).count t = c.count t + terms.count t := by
  induction terms generalizing c with
  | nil => simp [add]
  | cons a rest ih =>
    have hstep : c.add (a :: rest) = (c.add [a]).add rest := rfl
    rw [hstep, ih, List.count_cons]
    by_cases h : a = t
    · subst h
      simp only [add, count, List.foldl_cons, List.foldl_nil, Std.ExtTreeMap.getElem?_alter_self,
        Option.getD_some, beq_self_eq_true, if_true]
      omega
    · simp [add, count, Std.ExtTreeMap.getElem?_alter, h]

/-- A term removed as often as a list has it counts that much less, down to nothing. -/
theorem count_remove (terms : List String) (c : TermCounts) (t : String) :
    (c.remove terms).count t = c.count t - terms.count t := by
  induction terms generalizing c with
  | nil => simp [remove]
  | cons a rest ih =>
    have hstep : c.remove (a :: rest) = (c.remove [a]).remove rest := rfl
    rw [hstep, ih, List.count_cons]
    by_cases h : a = t
    · subst h
      have hone : (c.remove [a]).count a = c.count a - 1 := by
        simp only [remove, count, List.foldl_cons, List.foldl_nil,
          Std.ExtTreeMap.getElem?_alter_self]
        cases c.counts[a]? with
        | none => rfl
        | some n =>
          rw [Option.map_some, Option.filter_some]
          split
          · rfl
          · rename_i hn
            simp only [decide_eq_true_eq] at hn
            simp only [Option.getD_none, Option.getD_some]
            omega
      rw [hone, beq_self_eq_true, if_pos rfl]
      omega
    · simp [remove, count, Std.ExtTreeMap.getElem?_alter, h]

theorem positive_add (terms : List String) {c : TermCounts} (hc : c.Positive) :
    (c.add terms).Positive := by
  induction terms generalizing c with
  | nil => exact hc
  | cons a rest ih =>
    refine ih (c := c.add [a]) ?_
    intro t n h
    simp only [add, List.foldl_cons, List.foldl_nil, Std.ExtTreeMap.getElem?_alter] at h
    split at h
    · cases h
      exact Nat.succ_pos _
    · exact hc t n h

theorem positive_remove (terms : List String) {c : TermCounts} (hc : c.Positive) :
    (c.remove terms).Positive := by
  induction terms generalizing c with
  | nil => exact hc
  | cons a rest ih =>
    refine ih (c := c.remove [a]) ?_
    intro t n h
    simp only [remove, List.foldl_cons, List.foldl_nil, Std.ExtTreeMap.getElem?_alter] at h
    split at h
    · rw [Option.filter_eq_some_iff] at h
      exact of_decide_eq_true h.2
    · exact hc t n h

/-- The entry of a term is determined by its count. -/
theorem getElem?_eq_of_positive {c : TermCounts} (hc : c.Positive) (t : String) :
    c.counts[t]? = if 0 < c.count t then some (c.count t) else none := by
  cases h : c.counts[t]? with
  | none => simp [count, h]
  | some n =>
    have hcount : c.count t = n := by simp [count, h]
    rw [hcount, if_pos (hc t n h)]

/-- The entries are the terms that count, each with its count. -/
theorem mem_toList_iff {c : TermCounts} (hc : c.Positive) {term : String} {n : Nat} :
    (term, n) ∈ c.toList ↔ n = c.count term ∧ 0 < n := by
  rw [toList, Std.ExtTreeMap.mem_toList_iff_getElem?_eq_some, getElem?_eq_of_positive hc]
  by_cases hcount : 0 < c.count term
  · rw [if_pos hcount, Option.some_inj]
    constructor
    · rintro rfl
      exact ⟨rfl, hcount⟩
    · exact fun h => h.1.symm
  · rw [if_neg hcount]
    constructor
    · exact fun h => nomatch h
    · rintro ⟨rfl, hpos⟩
      exact absurd hpos hcount

/-! ## Terms that begin with a text -/

/-- What begins with a text does not stand before it. -/
theorem not_lt_of_isPrefixOf (start term : List Char) (h : start.isPrefixOf term = true) :
    ¬ term < start := by
  induction start generalizing term with
  | nil => exact List.not_lt_nil term
  | cons a start ih =>
    cases term with
    | nil => simp at h
    | cons b term =>
      simp only [List.isPrefixOf_cons_cons, Bool.and_eq_true, beq_iff_eq] at h
      obtain ⟨rfl, hrest⟩ := h
      rw [List.cons_lt_cons_iff]
      rintro (hlt | ⟨_, hlt⟩)
      · exact absurd hlt (Char.lt_irrefl a)
      · exact ih term hrest hlt

/-- What stands between a text and something that begins with it begins with it too. -/
theorem isPrefixOf_of_between (start middle term : List Char) (hstart : ¬ middle < start)
    (hterm : middle < term) (h : start.isPrefixOf term = true) :
    start.isPrefixOf middle = true := by
  induction start generalizing middle term with
  | nil => rfl
  | cons a start ih =>
    cases term with
    | nil => simp at h
    | cons b term =>
      simp only [List.isPrefixOf_cons_cons, Bool.and_eq_true, beq_iff_eq] at h
      obtain ⟨rfl, hrest⟩ := h
      cases middle with
      | nil => exact absurd (List.nil_lt_cons a start) hstart
      | cons x middle =>
        rw [List.cons_lt_cons_iff] at hstart hterm
        rw [not_or] at hstart
        rcases hterm with hlt | ⟨rfl, hlt⟩
        · exact absurd hlt hstart.1
        · have hmiddle : ¬ middle < start := fun hlt => hstart.2 ⟨rfl, hlt⟩
          simp only [List.isPrefixOf_cons_cons, beq_self_eq_true, Bool.true_and]
          exact ih middle term hmiddle hlt hrest

/-- Entries in strict order of term. -/
abbrev Ordered (l : List (String × Nat)) : Prop := l.Pairwise fun a b => a.1 < b.1

theorem ordered_toList (c : TermCounts) : Ordered c.toList := by
  refine c.counts.ordered_keys_toList.imp ?_
  intro a b h
  exact compareOfLessAndEq_eq_lt.mp h

/-- From the text on, the terms that begin with it come first. -/
theorem takeWhile_eq_filter (start : String) (l : List (String × Nat)) (hl : Ordered l)
    (hstart : ∀ e ∈ l, ¬ e.1 < start) :
    l.takeWhile (fun e => beginsWith start e.1) = l.filter (fun e => beginsWith start e.1) := by
  induction l with
  | nil => rfl
  | cons e rest ih =>
    obtain ⟨hfirst, hrest⟩ := List.pairwise_cons.mp hl
    cases hb : beginsWith start e.1 with
    | true =>
      rw [List.takeWhile_cons, List.filter_cons, hb, if_pos rfl, if_pos rfl,
        ih hrest fun x hx => hstart x (List.mem_cons_of_mem _ hx)]
    | false =>
      have hnone : rest.filter (fun e => beginsWith start e.1) = [] := by
        rw [List.filter_eq_nil_iff]
        intro x hx hbx
        have hbe : beginsWith start e.1 = true :=
          isPrefixOf_of_between start.toList e.1.toList x.1.toList
            (hstart e List.mem_cons_self) (hfirst x hx) hbx
        rw [hb] at hbe
        cases hbe
      rw [List.takeWhile_cons, List.filter_cons, hb, hnone]
      rfl

/-- The scan from a text on finds exactly the terms that begin with it. -/
theorem startingWith_eq_filter (c : TermCounts) (start : String) :
    c.startingWith start = c.toList.filter (fun e => beginsWith start e.1) := by
  have key : ∀ l : List (String × Nat), Ordered l →
      (l.dropWhile (fun e => decide (e.1 < start))).takeWhile (fun e => beginsWith start e.1) =
        l.filter (fun e => beginsWith start e.1) := by
    intro l
    induction l with
    | nil => intro _; rfl
    | cons e rest ih =>
      intro hl
      obtain ⟨hfirst, hrest⟩ := List.pairwise_cons.mp hl
      by_cases hlt : e.1 < start
      · have hb : ¬ beginsWith start e.1 = true := fun hb =>
          not_lt_of_isPrefixOf start.toList e.1.toList hb hlt
        rw [List.dropWhile_cons, if_pos (decide_eq_true hlt), List.filter_cons, if_neg hb]
        exact ih hrest
      · rw [List.dropWhile_cons, if_neg (by simpa using hlt)]
        refine takeWhile_eq_filter start _ hl ?_
        intro x hx
        rcases List.mem_cons.mp hx with rfl | hx
        · exact hlt
        · intro hxs
          exact hlt (String.lt_trans (hfirst x hx) hxs)
  exact key c.toList (ordered_toList c)

/-! ## Adding up -/

/-- Entries of terms, which may name a term more than once, added up. -/
def addUp (entries : List (String × Nat)) (c : TermCounts) : TermCounts :=
  ⟨entries.foldl (fun m (t, n) => m.alter t fun k => some (k.getD 0 + n)) c.counts⟩

/-- What the entries of a term add up to. -/
def share (entries : List (String × Nat)) (t : String) : Nat :=
  ((entries.filter fun e => decide (e.1 = t)).map (·.2)).sum

theorem share_append (left right : List (String × Nat)) (t : String) :
    share (left ++ right) t = share left t + share right t := by
  rw [share, List.filter_append, List.map_append, List.sum_append_nat]
  rfl

theorem count_addUp (entries : List (String × Nat)) (c : TermCounts) (t : String) :
    (addUp entries c).count t = c.count t + share entries t := by
  induction entries generalizing c with
  | nil => rfl
  | cons e rest ih =>
    have hstep : addUp (e :: rest) c = addUp rest (addUp [e] c) := rfl
    have hshare : share (e :: rest) t = share [e] t + share rest t := share_append [e] rest t
    rw [hstep, ih, hshare]
    by_cases h : e.1 = t
    · subst h
      simp only [addUp, count, share, List.foldl_cons, List.foldl_nil,
        Std.ExtTreeMap.getElem?_alter_self, Option.getD_some, List.filter_cons, decide_true,
        if_true, List.filter_nil, List.map_cons, List.map_nil, List.sum_cons, List.sum_nil]
      omega
    · simp [addUp, count, share, Std.ExtTreeMap.getElem?_alter, h]

theorem positive_addUp {entries : List (String × Nat)} (hentries : ∀ e ∈ entries, 0 < e.2)
    {c : TermCounts} (hc : c.Positive) : (addUp entries c).Positive := by
  induction entries generalizing c with
  | nil => exact hc
  | cons e rest ih =>
    refine ih (fun x hx => hentries x (List.mem_cons_of_mem _ hx)) (c := addUp [e] c) ?_
    intro t n h
    simp only [addUp, List.foldl_cons, List.foldl_nil, Std.ExtTreeMap.getElem?_alter] at h
    split at h
    · cases h
      exact Nat.add_pos_right _ (hentries e List.mem_cons_self)
    · exact hc t n h

/-- A term has one entry, that of its count. -/
theorem share_toList (c : TermCounts) (t : String) : share c.toList t = c.count t := by
  have hnone : ∀ m : Std.ExtTreeMap String Nat, m[t]? = none →
      m.toList.filter (fun e => decide (e.1 = t)) = [] := by
    intro m hm
    rw [List.filter_eq_nil_iff]
    rintro ⟨a, n⟩ he ha
    have hsome := Std.ExtTreeMap.mem_toList_iff_getElem?_eq_some.mp he
    have hat : a = t := of_decide_eq_true ha
    rw [hat, hm] at hsome
    cases hsome
  unfold share count toList
  cases h : c.counts[t]? with
  | none => rw [hnone _ h]; rfl
  | some n =>
    have hperm := (OrderedMap.toList_perm_erase h).filter fun e => decide (e.1 = t)
    rw [(hperm.map (·.2)).sum_nat, List.filter_cons, if_pos (decide_eq_true rfl),
      hnone _ Std.ExtTreeMap.getElem?_erase_self]
    rfl

theorem share_startingWith (c : TermCounts) (start t : String) :
    share (c.startingWith start) t = if beginsWith start t then c.count t else 0 := by
  rw [startingWith_eq_filter, ← share_toList]
  unfold share
  rw [List.filter_filter]
  by_cases hb : beginsWith start t = true
  · rw [if_pos hb]
    congr 2
    refine List.filter_congr ?_
    intro e _
    by_cases he : e.1 = t
    · rw [he, hb, Bool.and_true]
    · rw [decide_eq_false he, Bool.false_and]
  · have hnil : c.toList.filter (fun e => decide (e.1 = t) && beginsWith start e.1) = [] := by
      rw [List.filter_eq_nil_iff]
      intro e _ h
      obtain ⟨he, hbe⟩ := Bool.and_eq_true_iff.mp h
      rw [of_decide_eq_true he] at hbe
      exact hb hbe
    rw [if_neg hb, hnil]
    rfl

theorem pos_of_mem_startingWith {c : TermCounts} (hc : c.Positive) {start : String}
    {e : String × Nat} (he : e ∈ c.startingWith start) : 0 < e.2 := by
  rw [startingWith_eq_filter] at he
  exact hc e.1 e.2
    (Std.ExtTreeMap.mem_toList_iff_getElem?_eq_some.mp (List.mem_filter.mp he).1)

/-- Counts without idle terms are determined by the counts of all terms. -/
theorem eq_of_count {c c' : TermCounts} (hc : c.Positive) (hc' : c'.Positive)
    (h : ∀ t, c.count t = c'.count t) : c = c' := by
  have hcounts : c.counts = c'.counts := by
    refine Std.ExtTreeMap.ext_getElem? ?_
    intro t
    rw [getElem?_eq_of_positive hc, getElem?_eq_of_positive hc', h]
  cases c
  cases c'
  rw [mk.injEq]
  exact hcounts

end CatalogSearch.TermCounts
