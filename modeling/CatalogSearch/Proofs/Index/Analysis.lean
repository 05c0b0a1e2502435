import CatalogSearch.Index.Analysis
import CatalogSearch.Proofs.Collections.OrderedMap

/-!
# What an analysis says

The analysis of a document holds a posting for every token of its title, description and keywords and
for no other, with the number of occurrences in each of them, and it suggests the tokens of the title
and the keywords.
-/

set_option autoImplicit false

namespace CatalogSearch

namespace Document

/-- How often a token occurs in the title, the description and the keywords of a document. -/
def occurrences (d : Document) (t : String) : Posting where
  title := d.titleTokens.count t
  description := d.descriptionTokens.count t
  other := d.keywordTokens.count t

/-- Whether a token occurs in a document. -/
def hasToken (d : Document) (t : String) : Bool :=
  d.titleTokens.contains t || d.descriptionTokens.contains t || d.keywordTokens.contains t

/-- Whether a document has a token that is suggested: one of its title or its keywords. -/
def suggests (d : Document) (t : String) : Bool :=
  d.titleTokens.contains t || d.keywordTokens.contains t

/-- The posting of a token in a document that has it. -/
def posting? (d : Document) (t : String) : Option Posting :=
  if d.hasToken t then some (d.occurrences t) else none

/-- A token that does not occur has no occurrences. -/
theorem occurrences_of_not_hasToken {d : Document} {t : String} (h : d.hasToken t = false) :
    d.occurrences t = {} := by
  simp only [hasToken, Bool.or_eq_false_iff, List.contains_eq_mem, decide_eq_false_iff_not] at h
  obtain ⟨⟨htitle, hdescription⟩, hkeywords⟩ := h
  simp only [occurrences, List.count_eq_zero_of_not_mem htitle,
    List.count_eq_zero_of_not_mem hdescription, List.count_eq_zero_of_not_mem hkeywords]

theorem getD_posting? (d : Document) (t : String) : (d.posting? t).getD {} = d.occurrences t := by
  unfold posting?
  split
  · rfl
  · rename_i h
    rw [occurrences_of_not_hasToken (by simpa using h)]
    rfl

theorem isSome_posting? (d : Document) (t : String) : (d.posting? t).isSome = d.hasToken t := by
  unfold posting?
  cases d.hasToken t <;> rfl

end Document

/-! ## Postings -/

/-- Tokens counted into postings: a token of the list counts as often as the list has it, and the
posting of any other token stays.  `times n` counts `n` times. -/
theorem Postings.getElem?_addAll (count : Posting → Posting) (times : Nat → Posting → Posting)
    (hzero : ∀ p, times 0 p = p) (hsucc : ∀ n p, times (n + 1) p = times n (count p))
    (t : String) (tokens : List String) (m : Postings) :
    (m.addAll count tokens)[t]? =
      if t ∈ tokens then some (times (tokens.count t) (m[t]?.getD {})) else m[t]? := by
  induction tokens generalizing m with
  | nil => rfl
  | cons a rest ih =>
    have hstep : m.addAll count (a :: rest) =
      Postings.addAll count rest (m.alter a fun p => some (count (p.getD {}))) := rfl
    rw [hstep, ih]
    by_cases ha : a = t
    · subst ha
      rw [Std.ExtTreeMap.getElem?_alter_self, Option.getD_some, if_pos List.mem_cons_self,
        List.count_cons_self, hsucc]
      by_cases hmem : a ∈ rest
      · rw [if_pos hmem]
      · rw [if_neg hmem, List.count_eq_zero_of_not_mem hmem, hzero]
    · have hmem : t ∈ a :: rest ↔ t ∈ rest := by
        rw [List.mem_cons]
        exact or_iff_right (Ne.symm ha)
      have hother : (m.alter a fun p => some (count (p.getD {})))[t]? = m[t]? := by
        rw [Std.ExtTreeMap.getElem?_alter, if_neg (by simpa using ha)]
      rw [hother, List.count_cons_of_ne ha]
      simp only [hmem]

/-- The postings of an analysis are those of the tokens that occur. -/
theorem Analysis.getElem?_postings (d : Document) (t : String) :
    (Analysis.ofDocument d).postings[t]? = d.posting? t := by
  have title := Postings.getElem?_addAll Posting.inTitle
    (fun n p => { p with title := p.title + n }) (fun _ => rfl)
    (fun n p => by simp only [Posting.inTitle, Nat.add_assoc, Nat.add_comm 1])
  have description := Postings.getElem?_addAll Posting.inDescription
    (fun n p => { p with description := p.description + n }) (fun _ => rfl)
    (fun n p => by simp only [Posting.inDescription, Nat.add_assoc, Nat.add_comm 1])
  have keywords := Postings.getElem?_addAll Posting.inKeywords
    (fun n p => { p with other := p.other + n }) (fun _ => rfl)
    (fun n p => by simp only [Posting.inKeywords, Nat.add_assoc, Nat.add_comm 1])
  simp only [ofDocument, keywords, description, title, Document.posting?, Document.hasToken,
    Document.occurrences, List.contains_eq_mem, Bool.or_eq_true, decide_eq_true_eq,
    Std.ExtTreeMap.getElem?_empty]
  by_cases ht : t ∈ d.titleTokens <;> by_cases hd : t ∈ d.descriptionTokens <;>
    by_cases hk : t ∈ d.keywordTokens <;>
    simp [ht, hd, hk, List.count_eq_zero_of_not_mem]

/-! ## Suggested tokens -/

theorem Analysis.mem_suggested (d : Document) (t : String) :
    t ∈ (Analysis.ofDocument d).suggested ↔ d.suggests t = true := by
  simp only [ofDocument, OrderedMap.mem_foldl_insert, Document.suggests, List.mem_append,
    Bool.or_eq_true, List.contains_eq_mem, decide_eq_true_eq]
  constructor
  · rintro (h | h)
    · exact absurd h Std.ExtTreeSet.not_mem_empty
    · exact h
  · exact Or.inr

/-- Every suggested token stands once among the suggested ones. -/
theorem Analysis.count_suggested (d : Document) (t : String) :
    (Analysis.ofDocument d).suggested.toList.count t = if d.suggests t then 1 else 0 := by
  have hnodup : (Analysis.ofDocument d).suggested.toList.Nodup := by
    refine (Analysis.ofDocument d).suggested.distinct_toList.imp ?_
    rintro a b hab rfl
    exact hab Std.ReflCmp.compare_self
  by_cases h : d.suggests t = true
  · have hmem : t ∈ (Analysis.ofDocument d).suggested.toList :=
      Std.ExtTreeSet.mem_toList.mpr ((mem_suggested d t).mpr h)
    rw [if_pos h, hnodup.count, if_pos hmem]
  · have hmem : t ∉ (Analysis.ofDocument d).suggested.toList := fun hmem =>
      h ((mem_suggested d t).mp (Std.ExtTreeSet.mem_toList.mp hmem))
    rw [if_neg h, List.count_eq_zero_of_not_mem hmem]

end CatalogSearch
