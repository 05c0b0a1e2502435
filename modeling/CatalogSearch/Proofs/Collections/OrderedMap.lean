import Mathlib.Data.Set.Card
import Std.Data.ExtTreeMap
import Std.Data.ExtTreeSet

/-!
# Ordered maps and lists

The index keeps its documents, postings and counts in ordered maps and changes many entries of one
map at a time.  This module says what such a change does to a single entry and to the number of
entries with a property, and that an ordered list is determined by its members.
-/

set_option autoImplicit false

namespace CatalogSearch.OrderedMap

/-! ## Ordered lists -/

/-- A list in strict order is determined by its members. -/
theorem eq_of_ordered {α : Type} {before : α → α → Prop} {left right : List α}
    (asymm : ∀ a b, before a b → ¬ before b a)
    (hleft : left.Pairwise before) (hright : right.Pairwise before)
    (hmem : ∀ a, a ∈ left ↔ a ∈ right) : left = right := by
  have nodup : ∀ {l : List α}, l.Pairwise before → l.Nodup := by
    intro l hl
    refine hl.imp ?_
    rintro a b hab rfl
    exact asymm a a hab hab
  have hperm : left.Perm right :=
    (List.perm_ext_iff_of_nodup (nodup hleft) (nodup hright)).mpr hmem
  have hunique : ∀ a b, a ∈ left → b ∈ right → before a b → before b a → a = b := by
    intro a b _ _ hab hba
    exact absurd hba (asymm a b hab)
  exact List.Perm.eq_of_pairwise hunique hleft hright hperm

/-- In a list in strict order one thing stands before another when it comes before it. -/
theorem before_iff_of_ordered {α : Type} {before : α → α → Prop} {l : List α}
    (asymm : ∀ a b, before a b → ¬ before b a) (hl : l.Pairwise before) {i j : Nat} {a b : α}
    (ha : l[i]? = some a) (hb : l[j]? = some b) : before a b ↔ i < j := by
  rw [List.pairwise_iff_getElem] at hl
  obtain ⟨hi, rfl⟩ := List.getElem?_eq_some_iff.mp ha
  obtain ⟨hj, rfl⟩ := List.getElem?_eq_some_iff.mp hb
  refine ⟨fun hbefore => ?_, hl i j hi hj⟩
  rcases Nat.lt_trichotomy i j with hlt | rfl | hgt
  · exact hlt
  · exact absurd hbefore (asymm _ _ hbefore)
  · exact absurd (hl j i hj hi hgt) (asymm _ _ hbefore)

section

variable {α β ε : Type} [Ord α] [Std.TransOrd α]

/-- Keys in strict order are determined by their members. -/
theorem eq_of_ordered_keys {left right : List α}
    (hleft : left.Pairwise fun a b => compare a b = .lt)
    (hright : right.Pairwise fun a b => compare a b = .lt)
    (hmem : ∀ a, a ∈ left ↔ a ∈ right) : left = right := by
  have hasymm : ∀ a b : α, compare a b = .lt → ¬ compare b a = .lt := by
    intro a b hab hba
    exact Std.OrientedCmp.not_lt_of_lt hab hba
  exact eq_of_ordered hasymm hleft hright hmem

variable [Std.LawfulEqOrd α]

/-- Keys in order are those of the entries of a map with a property, if they have the same members. -/
theorem eq_keys_of_entries {m : Std.ExtTreeMap α β} {keys : List α} (p : α × β → Bool)
    (hkeys : keys.Pairwise fun a b => compare a b = .lt)
    (hmem : ∀ k, k ∈ keys ↔ ∃ v, m[k]? = some v ∧ p (k, v) = true) :
    keys = (m.toList.filter p).map (·.1) := by
  refine eq_of_ordered_keys hkeys ?_ ?_
  · rw [List.pairwise_map]
    exact m.ordered_keys_toList.filter p
  · intro k
    rw [hmem, List.mem_map]
    constructor
    · rintro ⟨v, hv, hp⟩
      exact ⟨(k, v), List.mem_filter.mpr
        ⟨Std.ExtTreeMap.mem_toList_iff_getElem?_eq_some.mpr hv, hp⟩, rfl⟩
    · rintro ⟨⟨a, v⟩, he, rfl⟩
      obtain ⟨hv, hp⟩ := List.mem_filter.mp he
      exact ⟨v, Std.ExtTreeMap.mem_toList_iff_getElem?_eq_some.mp hv, hp⟩

/-! ## Changing many entries -/

/-- After the entries of a list have been changed one after the other, each under a key of its own, an
entry is what its change made of it, or what it was. -/
theorem getElem?_foldl_alter [DecidableEq α] (key : ε → α) (change : ε → Option β → Option β)
    (k : α) :
    ∀ (l : List ε) (m : Std.ExtTreeMap α β),
      l.Pairwise (fun a b => key a ≠ key b) →
      (l.foldl (fun m e => m.alter (key e) (change e)) m)[k]? =
        match l.find? (fun e => decide (key e = k)) with
        | some e => change e m[k]?
        | none => m[k]? := by
  intro l
  induction l with
  | nil => intro m _; rfl
  | cons e rest ih =>
    intro m hdistinct
    rw [List.pairwise_cons] at hdistinct
    rw [List.foldl_cons, ih _ hdistinct.2, List.find?_cons]
    by_cases hk : key e = k
    · -- no later change is under the key of this one
      have hrest : rest.find? (fun e => decide (key e = k)) = none := by
        rw [List.find?_eq_none]
        intro other hother hsame
        exact hdistinct.1 other hother (hk.trans (of_decide_eq_true hsame).symm)
      rw [hrest]
      simp [hk]
    · simp only [hk, decide_false, Std.ExtTreeMap.getElem?_alter, Std.compare_eq_iff_eq, if_false]

/-- After the entries of a list of keys have been changed in one way, an entry under one of them has
been changed, and every other one is what it was. -/
theorem getElem?_foldl_alter_keys [DecidableEq α] (change : Option β → Option β) (k : α)
    (l : List α) (m : Std.ExtTreeMap α β) (hdistinct : l.Nodup) :
    (l.foldl (fun m a => m.alter a change) m)[k]? =
      if k ∈ l then change m[k]? else m[k]? := by
  rw [getElem?_foldl_alter (fun a => a) (fun _ => change) k l m hdistinct]
  cases hfind : l.find? (fun a => decide (a = k)) with
  | none =>
    rw [List.find?_eq_none] at hfind
    have hk : k ∉ l := by
      intro hk
      exact hfind k hk (decide_eq_true rfl)
    rw [if_neg hk]
  | some a =>
    have ha : a = k := by simpa using List.find?_some hfind
    have hk : k ∈ l := ha ▸ List.mem_of_find?_eq_some hfind
    rw [if_pos hk]

/-- After the entries of a map have changed those of another one, an entry is what the entry under its
key made of it, or what it was. -/
theorem getElem?_foldl_alter_toList {γ : Type} [DecidableEq α]
    (change : α → γ → Option β → Option β) (k : α) (changes : Std.ExtTreeMap α γ)
    (m : Std.ExtTreeMap α β) :
    (changes.toList.foldl (fun m e => m.alter e.1 (change e.1 e.2)) m)[k]? =
      match changes[k]? with
      | some c => change k c m[k]?
      | none => m[k]? := by
  have hdistinct : changes.toList.Pairwise fun a b => a.1 ≠ b.1 := by
    refine changes.distinct_keys_toList.imp ?_
    intro a b hab heq
    exact hab (by rw [heq]; exact Std.ReflCmp.compare_self)
  rw [getElem?_foldl_alter (fun e : α × γ => e.1) (fun e => change e.1 e.2) k _ m hdistinct]
  cases hfind : changes.toList.find? (fun e => decide (e.1 = k)) with
  | none =>
    rw [List.find?_eq_none] at hfind
    have hnone : changes[k]? = none := by
      cases hc : changes[k]? with
      | none => rfl
      | some c =>
        have hmem : (k, c) ∈ changes.toList :=
          Std.ExtTreeMap.mem_toList_iff_getElem?_eq_some.mpr hc
        exact absurd (decide_eq_true rfl) (hfind (k, c) hmem)
    rw [hnone]
  | some e =>
    obtain ⟨a, c⟩ := e
    have ha : a = k := by simpa using List.find?_some hfind
    subst ha
    have hc : changes[a]? = some c :=
      Std.ExtTreeMap.mem_toList_iff_getElem?_eq_some.mp (List.mem_of_find?_eq_some hfind)
    rw [hc]

/-- A set with the members of a list has a member when it had it or the list has it. -/
theorem mem_foldl_insert (l : List α) (s : Std.ExtTreeSet α) (k : α) :
    k ∈ l.foldl (·.insert ·) s ↔ k ∈ s ∨ k ∈ l := by
  induction l generalizing s with
  | nil => simp
  | cons a rest ih =>
    rw [List.foldl_cons, ih, Std.ExtTreeSet.mem_insert, Std.compare_eq_iff_eq, List.mem_cons]
    constructor
    · rintro ((rfl | h) | h)
      · exact Or.inr (Or.inl rfl)
      · exact Or.inl h
      · exact Or.inr (Or.inr h)
    · rintro (h | rfl | h)
      · exact Or.inl (Or.inr h)
      · exact Or.inl (Or.inl rfl)
      · exact Or.inr h

/-- The members of many lists, put into one set. -/
theorem mem_foldl_foldl_insert (members : ε → List α) (l : List ε) (s : Std.ExtTreeSet α) (k : α) :
    k ∈ l.foldl (fun s e => (members e).foldl (·.insert ·) s) s ↔
      k ∈ s ∨ ∃ e ∈ l, k ∈ members e := by
  induction l generalizing s with
  | nil => simp
  | cons e rest ih =>
    rw [List.foldl_cons, ih, mem_foldl_insert]
    simp only [List.mem_cons, exists_eq_or_imp]
    exact or_assoc

/-! ## Counting entries -/

/-- The entries of a map are pairwise different. -/
theorem nodup_toList (m : Std.ExtTreeMap α β) : m.toList.Nodup := by
  refine m.distinct_keys_toList.imp ?_
  rintro a b hab rfl
  exact hab Std.ReflCmp.compare_self

/-- The keys of the entries of a map with a property are pairwise different. -/
theorem nodup_keys_filter (m : Std.ExtTreeMap α β) (p : α × β → Bool) :
    ((m.toList.filter p).map (·.1)).Nodup := by
  refine List.pairwise_map.mpr ((m.distinct_keys_toList.filter p).imp ?_)
  intro a b hab heq
  exact hab (by rw [heq]; exact Std.ReflCmp.compare_self)

/-- The keys of the entries of a map with a property are as many as the entries. -/
theorem encard_keys [DecidableEq α] (m : Std.ExtTreeMap α β) (p : α × β → Bool) :
    {k | ∃ v, m[k]? = some v ∧ p (k, v) = true}.encard = m.toList.countP p := by
  let keys := (m.toList.filter p).map (·.1)
  have hkeys : {k | ∃ v, m[k]? = some v ∧ p (k, v) = true} = (keys.toFinset : Set α) := by
    ext k
    simp only [Set.mem_ofPred_eq, List.coe_toFinset, keys, List.mem_map, List.mem_filter]
    constructor
    · rintro ⟨v, hv, hp⟩
      exact ⟨(k, v), ⟨Std.ExtTreeMap.mem_toList_iff_getElem?_eq_some.mpr hv, hp⟩, rfl⟩
    · rintro ⟨⟨k, v⟩, ⟨hv, hp⟩, rfl⟩
      exact ⟨v, Std.ExtTreeMap.mem_toList_iff_getElem?_eq_some.mp hv, hp⟩
  rw [hkeys, Set.encard_coe_eq_coe_finsetCard,
    List.toFinset_card_of_nodup (nodup_keys_filter m p), List.length_map,
    List.countP_eq_length_filter]

/-- An entry taken out of a map and put in front of the others gives the entries of the map. -/
theorem toList_perm_erase {m : Std.ExtTreeMap α β} {k : α} {v : β} (h : m[k]? = some v) :
    m.toList.Perm ((k, v) :: (m.erase k).toList) := by
  refine (List.perm_ext_iff_of_nodup (nodup_toList m) ?_).mpr ?_
  · refine List.nodup_cons.mpr ⟨?_, nodup_toList _⟩
    rw [Std.ExtTreeMap.mem_toList_iff_getElem?_eq_some, Std.ExtTreeMap.getElem?_erase_self]
    simp
  · rintro ⟨a, b⟩
    rw [List.mem_cons, Std.ExtTreeMap.mem_toList_iff_getElem?_eq_some,
      Std.ExtTreeMap.mem_toList_iff_getElem?_eq_some, Std.ExtTreeMap.getElem?_erase]
    by_cases hk : k = a
    · subst hk
      simp [h, eq_comm]
    · simp [hk, Ne.symm hk]

/-- The number of entries with a property, once an entry has been taken out. -/
theorem countP_erase {m : Std.ExtTreeMap α β} {k : α} {v : β} (h : m[k]? = some v)
    (p : α × β → Bool) :
    m.toList.countP p = (m.erase k).toList.countP p + if p (k, v) then 1 else 0 := by
  rw [(toList_perm_erase h).countP_eq, List.countP_cons]

/-- An entry put in place of what was there, in front of the others. -/
theorem toList_perm_insert (m : Std.ExtTreeMap α β) (k : α) (v : β) :
    (m.insert k v).toList.Perm ((k, v) :: (m.erase k).toList) := by
  have hsome : (m.insert k v)[k]? = some v := Std.ExtTreeMap.getElem?_insert_self
  have hrest : (m.insert k v).erase k = m.erase k := by
    refine Std.ExtTreeMap.ext_getElem? ?_
    intro a
    rw [Std.ExtTreeMap.getElem?_erase, Std.ExtTreeMap.getElem?_erase]
    split
    · rfl
    · rw [Std.ExtTreeMap.getElem?_insert, if_neg ‹_›]
  rw [← hrest]
  exact toList_perm_erase hsome

/-- An entry of a map with an insertion is the one put in or was there before. -/
theorem mem_of_mem_toList_insert {m : Std.ExtTreeMap α β} {k : α} {v : β} {entry : α × β}
    (h : entry ∈ (m.insert k v).toList) : entry = (k, v) ∨ entry ∈ m.toList := by
  obtain ⟨a, b⟩ := entry
  rw [Std.ExtTreeMap.mem_toList_iff_getElem?_eq_some, Std.ExtTreeMap.getElem?_insert] at h
  rw [Std.ExtTreeMap.mem_toList_iff_getElem?_eq_some]
  split at h
  · rename_i hk
    rw [← Std.compare_eq_iff_eq.mp hk, ← Option.some.inj h]
    exact Or.inl rfl
  · exact Or.inr h

/-- The number of entries with a property, once an entry has been put in place of what was there. -/
theorem countP_insert (m : Std.ExtTreeMap α β) (k : α) (v : β) (p : α × β → Bool) :
    (m.insert k v).toList.countP p =
      (m.erase k).toList.countP p + if p (k, v) then 1 else 0 := by
  rw [(toList_perm_insert m k v).countP_eq, List.countP_cons]

/-- Taking out what is not there changes nothing. -/
theorem erase_eq_self {m : Std.ExtTreeMap α β} {k : α} (h : m[k]? = none) : m.erase k = m := by
  refine Std.ExtTreeMap.ext_getElem? ?_
  intro a
  rw [Std.ExtTreeMap.getElem?_erase]
  split
  · rename_i hk
    rw [← Std.ExtTreeMap.getElem?_congr hk, h]
  · rfl

end

end CatalogSearch.OrderedMap
