import CatalogSearch.Index.Partition
import CatalogSearch.Proofs.Index.Analysis
import CatalogSearch.Proofs.Index.TermCounts

/-!
# A partition agrees with itself

A partition keeps its documents three times: as they are, as posting lists, and as counts of suggested
terms.  It is consistent when the lists and the counts are those that the documents give, and stays so
when a document comes or goes.
-/

set_option autoImplicit false

namespace CatalogSearch.Partition

/-- The posting lists and the counts of a partition are those of its documents. -/
structure Consistent (p : Partition) : Prop where
  /-- Every document is kept with its analysis. -/
  analyzed : ∀ (key : DocumentKey) (x : IndexedDocument),
    p.documents[key]? = some x → x.analysis = .ofDocument x.document
  /-- A posting is there exactly when its document is and has the token, with its occurrences. -/
  postings : ∀ (t : String) (key : DocumentKey),
    (p.postingList t)[key]? = p.documents[key]?.bind fun x => x.document.posting? t
  /-- No posting list is empty. -/
  occupied : ∀ (t : String) (list : PostingList), p.postings[t]? = some list → list ≠ ∅
  /-- A term counts as often as there are documents that suggest it. -/
  suggestions : ∀ t : String,
    p.suggestions.count t = p.documents.toList.countP fun e => e.2.document.suggests t
  /-- No term is kept that does not count. -/
  positive : p.suggestions.Positive

theorem consistent_empty : Consistent {} where
  analyzed key x h := by simp at h
  postings t key := by simp [postingList]
  occupied t list h := by simp at h
  suggestions t := by
    have hnil : (∅ : Std.ExtTreeMap DocumentKey IndexedDocument).toList = [] :=
      Std.ExtTreeMap.toList_eq_nil_iff.mpr rfl
    simp [TermCounts.count, hnil]
  positive := TermCounts.positive_empty

variable {p : Partition} {key : DocumentKey}

/-! ## Taking a document away -/

theorem remove_of_absent (h : p.documents[key]? = none) : p.remove key = p := by
  simp only [remove, h]

theorem documents_remove (p : Partition) (key : DocumentKey) :
    (p.remove key).documents = p.documents.erase key := by
  cases h : p.documents[key]? with
  | none => rw [remove_of_absent h, OrderedMap.erase_eq_self h]
  | some x => simp only [remove, h]

/-- The posting lists lose the document, and a list that held no other one is gone. -/
theorem getElem?_postings_remove {x : IndexedDocument} (h : p.documents[key]? = some x)
    (hx : x.analysis = .ofDocument x.document) (t : String) :
    (p.remove key).postings[t]? =
      if x.document.hasToken t then
        (p.postings[t]?.map (·.erase key)).filter fun list => !list.isEmpty
      else p.postings[t]? := by
  have hmem : t ∈ x.analysis.postings.keys ↔ x.document.hasToken t = true := by
    rw [Std.ExtTreeMap.mem_keys, Std.ExtTreeMap.mem_iff_isSome_getElem?, hx,
      Analysis.getElem?_postings, Document.isSome_posting?]
  simp only [remove, h]
  rw [OrderedMap.getElem?_foldl_alter_keys
    (fun list : Option PostingList => (list.map (·.erase key)).filter fun list => !list.isEmpty)
    t _ _
    x.analysis.postings.nodup_keys]
  simp only [hmem]

theorem postingList_remove (hp : p.Consistent) (key : DocumentKey) (t : String) :
    (p.remove key).postingList t = (p.postingList t).erase key := by
  cases h : p.documents[key]? with
  | none =>
    have hnone : (p.postingList t)[key]? = none := by rw [hp.postings, h]; rfl
    rw [remove_of_absent h, OrderedMap.erase_eq_self hnone]
  | some x =>
    unfold postingList
    rw [getElem?_postings_remove h (hp.analyzed key x h)]
    by_cases ht : x.document.hasToken t = true
    · rw [if_pos ht]
      cases hlist : p.postings[t]? with
      | none => simp
      | some list =>
        rw [Option.map_some, Option.filter_some]
        split
        · rfl
        · rename_i hempty
          have hnone : list.erase key = ∅ := by
            rw [← Std.ExtTreeMap.isEmpty_iff]
            simpa only [Bool.not_eq_true', Bool.not_eq_false] using hempty
          rw [Option.getD_none, Option.getD_some, hnone]
    · -- a token that the document does not have keeps its list, where the document is not
      have hnone : (p.postingList t)[key]? = none := by
        rw [hp.postings, h, Option.bind_some, Document.posting?, if_neg ht]
      rw [if_neg ht]
      exact (OrderedMap.erase_eq_self hnone).symm

theorem suggestions_remove (hp : p.Consistent) (key : DocumentKey) (t : String) :
    (p.remove key).suggestions.count t =
      (p.documents.erase key).toList.countP fun e => e.2.document.suggests t := by
  cases h : p.documents[key]? with
  | none => rw [remove_of_absent h, OrderedMap.erase_eq_self h, hp.suggestions]
  | some x =>
    have hsuggestions : (p.remove key).suggestions =
      p.suggestions.remove x.analysis.suggested.toList := by simp only [remove, h]
    rw [hsuggestions, TermCounts.count_remove, hp.suggestions, hp.analyzed key x h,
      Analysis.count_suggested, OrderedMap.countP_erase h]
    exact Nat.add_sub_cancel _ _

/-- A partition that loses a document stays consistent. -/
theorem Consistent.remove (hp : p.Consistent) (key : DocumentKey) :
    (p.remove key).Consistent where
  analyzed other x h := by
    rw [documents_remove, Std.ExtTreeMap.getElem?_erase] at h
    split at h
    · cases h
    · exact hp.analyzed other x h
  postings t other := by
    rw [postingList_remove hp, documents_remove, Std.ExtTreeMap.getElem?_erase,
      Std.ExtTreeMap.getElem?_erase, hp.postings]
    split
    · rfl
    · rfl
  occupied t list hlist := by
    cases h : p.documents[key]? with
    | none =>
      rw [remove_of_absent h] at hlist
      exact hp.occupied t list hlist
    | some x =>
      rw [getElem?_postings_remove h (hp.analyzed key x h)] at hlist
      split at hlist
      · rw [Option.filter_eq_some_iff] at hlist
        intro hempty
        rw [hempty] at hlist
        simp at hlist
      · exact hp.occupied t list hlist
  suggestions t := by rw [suggestions_remove hp, documents_remove]
  positive := by
    cases h : p.documents[key]? with
    | none =>
      rw [remove_of_absent h]
      exact hp.positive
    | some x =>
      simp only [Partition.remove, h]
      exact TermCounts.positive_remove _ hp.positive

/-! ## Placing a document -/

theorem documents_insert (p : Partition) (key : DocumentKey) (x : IndexedDocument) :
    (p.insert key x).documents = p.documents.insert key x := by
  simp only [insert, documents_remove]
  refine Std.ExtTreeMap.ext_getElem? ?_
  intro other
  rw [Std.ExtTreeMap.getElem?_insert, Std.ExtTreeMap.getElem?_insert, Std.ExtTreeMap.getElem?_erase]
  split
  · rfl
  · rfl

/-- The posting lists of the tokens of a document get it. -/
theorem getElem?_postings_insert (p : Partition) (key : DocumentKey) (d : Document) (t : String) :
    (p.insert key ⟨d, .ofDocument d⟩).postings[t]? =
      match d.posting? t with
      | some posting => some (((p.remove key).postingList t).insert key posting)
      | none => (p.remove key).postings[t]? := by
  have h := OrderedMap.getElem?_foldl_alter_toList
    (fun _ posting list => some ((list.getD ∅).insert key posting)) t
    (Analysis.ofDocument d).postings (p.remove key).postings
  rw [Analysis.getElem?_postings] at h
  refine h.trans ?_
  cases d.posting? t with
  | none => rfl
  | some posting => rfl

theorem postingList_insert (p : Partition) (key : DocumentKey) (d : Document) (t : String) :
    (p.insert key ⟨d, .ofDocument d⟩).postingList t =
      match d.posting? t with
      | some posting => ((p.remove key).postingList t).insert key posting
      | none => (p.remove key).postingList t := by
  unfold postingList
  rw [getElem?_postings_insert]
  cases d.posting? t with
  | none => rfl
  | some posting => rfl

/-- A partition in which a document is placed stays consistent. -/
theorem Consistent.insert (hp : p.Consistent) (key : DocumentKey) (d : Document) :
    (p.insert key ⟨d, .ofDocument d⟩).Consistent where
  analyzed other x h := by
    rw [documents_insert, Std.ExtTreeMap.getElem?_insert] at h
    split at h
    · cases h
      rfl
    · exact hp.analyzed other x h
  postings t other := by
    rw [postingList_insert, documents_insert, Std.ExtTreeMap.getElem?_insert]
    have hrest := (hp.remove key).postings t other
    rw [documents_remove, Std.ExtTreeMap.getElem?_erase] at hrest
    cases hposting : d.posting? t with
    | none =>
      simp only [hrest]
      split
      · exact hposting.symm
      · rfl
    | some posting =>
      simp only [Std.ExtTreeMap.getElem?_insert, hrest]
      split
      · exact hposting.symm
      · rfl
  occupied t list hlist := by
    rw [getElem?_postings_insert] at hlist
    cases hposting : d.posting? t with
    | none =>
      simp only [hposting] at hlist
      exact (hp.remove key).occupied t list hlist
    | some posting =>
      simp only [hposting, Option.some.injEq] at hlist
      rw [← hlist]
      exact Std.ExtTreeMap.insert_ne_empty
  suggestions t := by
    have hsuggestions : (p.insert key ⟨d, .ofDocument d⟩).suggestions =
      (p.remove key).suggestions.add (Analysis.ofDocument d).suggested.toList := rfl
    rw [hsuggestions, TermCounts.count_add, suggestions_remove hp, Analysis.count_suggested,
      documents_insert, OrderedMap.countP_insert]
  positive := TermCounts.positive_add _ (hp.remove key).positive

end CatalogSearch.Partition
