import CatalogSearch.Proofs.Text.Lowercase
import CatalogSearch.Text.Token

/-!
# What tokens are made of

Tokens are cut at everything that is no letter or digit, and lower-casing makes no space of a letter:
so no token holds a space, and tokens put together with spaces can be told apart again.  A token need not
be a token of itself, though: its lower case may be longer than a token may be, or hold a mark that is no
letter.
-/

set_option autoImplicit false

namespace CatalogSearch.Text

/-! ## Runs -/

/-- Runs are not empty and hold nothing but kept characters of the text, which have what the kept ones
among them and the run read so far have. -/
theorem forall_mem_runsFrom {keep : Char → Bool} {P : Char → Prop} {cs run : List Char}
    (hrun : ∀ c ∈ run, P c) (hcs : ∀ c ∈ cs, keep c = true → P c) :
    ∀ r ∈ runsFrom keep run cs, r ≠ [] ∧ ∀ c ∈ r, P c := by
  have hread : ∀ run : List Char, run.isEmpty = false → (∀ c ∈ run, P c) →
      run.reverse ≠ [] ∧ ∀ c ∈ run.reverse, P c := by
    intro run hne hrun
    refine ⟨fun h => ?_, fun c hc => hrun c (List.mem_reverse.mp hc)⟩
    rw [List.reverse_eq_nil_iff.mp h] at hne
    cases hne
  induction cs generalizing run with
  | nil =>
    intro r hr
    unfold runsFrom at hr
    split at hr
    · cases hr
    · rename_i hne
      rw [List.mem_singleton.mp hr]
      exact hread run (Bool.eq_false_iff.mpr hne) hrun
  | cons c rest ih =>
    obtain ⟨hc, hrest⟩ := List.forall_mem_cons.mp hcs
    intro r hr
    unfold runsFrom at hr
    split at hr
    · rename_i hkeep
      exact ih (List.forall_mem_cons.mpr ⟨hc hkeep, hrun⟩) hrest r hr
    · split at hr
      · exact ih (fun _ h => absurd h List.not_mem_nil) hrest r hr
      · rename_i hne
        rcases List.mem_cons.mp hr with rfl | hr
        · exact hread run (Bool.eq_false_iff.mpr hne) hrun
        · exact ih (fun _ h => absurd h List.not_mem_nil) hrest r hr

/-- A text of kept characters is one run. -/
theorem runs_of_all {keep : Char → Bool} {cs : List Char} (hne : cs ≠ [])
    (h : ∀ c ∈ cs, keep c = true) : runs keep cs = [cs] := by
  have hfrom : ∀ (cs run : List Char), (∀ c ∈ cs, keep c = true) → run.reverse ++ cs ≠ [] →
      runsFrom keep run cs = [run.reverse ++ cs] := by
    intro cs
    induction cs with
    | nil =>
      intro run _ hne
      rw [List.append_nil] at hne ⊢
      unfold runsFrom
      rw [if_neg]
      intro hempty
      rw [List.isEmpty_iff.mp hempty] at hne
      exact hne rfl
    | cons c rest ih =>
      intro run h _
      obtain ⟨hc, hrest⟩ := List.forall_mem_cons.mp h
      have hcons : (c :: run).reverse ++ rest = run.reverse ++ c :: rest := by
        rw [List.reverse_cons, List.append_assoc, List.singleton_append]
      unfold runsFrom
      rw [if_pos hc, ih (c :: run) hrest (by simp), hcons]
  exact hfrom cs [] h hne

/-! ## Tokens -/

/-- A token is a run of letters and digits of the text that is not too long, in lower case. -/
theorem mem_tokens_iff {s t : String} : t ∈ tokens s ↔
    ∃ run ∈ runs isAlphanumeric s.toList,
      (String.ofList run).utf8ByteSize < tokenByteLimit ∧ String.ofList (lowerChars run) = t := by
  unfold tokens
  simp only [List.mem_map, List.mem_filter, decide_eq_true_eq, and_assoc]

/-- No token holds a space. -/
theorem space_not_mem_of_mem_tokens {s t : String} (h : t ∈ tokens s) : ' ' ∉ t.toList := by
  obtain ⟨run, hrun, _, rfl⟩ := mem_tokens_iff.mp h
  obtain ⟨_, hkept⟩ := forall_mem_runsFrom (P := (isAlphanumeric · = true))
    (fun _ h => absurd h List.not_mem_nil) (fun _ _ h => h) run hrun
  rw [String.toList_ofList, lowerChars, List.mem_flatMap]
  rintro ⟨c, hc, hspace⟩
  refine space_not_mem_lowerChar ?_ hspace
  rintro rfl
  exact absurd (hkept ' ' hc) (by decide)

/-! ## Tokens of tokens -/

/-- Whether a token is cut in one piece when it is read again: it is not too long in its lower case, and
is of letters and digits alone. -/
def staysWhole (t : String) : Bool :=
  decide (t.utf8ByteSize < tokenByteLimit) && t.toList.all isAlphanumeric

theorem lowerChar_of_mem_token {s t : String} (h : t ∈ tokens s) :
    t ≠ "" ∧ ∀ c ∈ t.toList, lowerChar c = [c] := by
  obtain ⟨run, hrun, _, rfl⟩ := mem_tokens_iff.mp h
  obtain ⟨hne, _⟩ := forall_mem_runsFrom (P := fun _ => True)
    (fun _ h => absurd h List.not_mem_nil) (fun _ _ _ => trivial) run hrun
  rw [String.toList_ofList]
  refine ⟨fun hempty => ?_, fun x hx => ?_⟩
  · obtain ⟨c, hc⟩ := List.exists_mem_of_ne_nil run hne
    have hnil : lowerChars run = [] := String.ofList_eq_empty_iff.mp hempty
    exact lowerChar_ne_nil c (List.flatMap_eq_nil_iff.mp hnil c hc)
  · obtain ⟨c, _, hx⟩ := List.mem_flatMap.mp hx
    exact lowerChar_of_mem hx

/-- A token that stays whole is the one token of itself. -/
theorem tokens_of_staysWhole {s t : String} (ht : t ∈ tokens s) (h : staysWhole t = true) :
    tokens t = [t] := by
  obtain ⟨hne, hlower⟩ := lowerChar_of_mem_token ht
  simp only [staysWhole, Bool.and_eq_true, decide_eq_true_eq, List.all_eq_true] at h
  have hruns : runs isAlphanumeric t.toList = [t.toList] := by
    refine runs_of_all (fun hnil => ?_) h.2
    exact hne (String.toList_eq_nil_iff.mp hnil)
  have hsize : (String.ofList t.toList).utf8ByteSize < tokenByteLimit := by
    rw [String.ofList_toList]
    exact h.1
  rw [tokens, hruns, List.filter_cons, if_pos (decide_eq_true hsize), List.filter_nil, List.map_cons,
    List.map_nil, lowerChars_eq_self hlower, String.ofList_toList]

/-- A token of a token stays whole. -/
theorem staysWhole_of_mem {s k t : String} (hk : k ∈ tokens s) (ht : t ∈ tokens k) :
    staysWhole t = true := by
  obtain ⟨_, hlower⟩ := lowerChar_of_mem_token hk
  obtain ⟨run, hrun, hsize, rfl⟩ := mem_tokens_iff.mp ht
  obtain ⟨_, hrun⟩ := forall_mem_runsFrom
    (P := fun c => lowerChar c = [c] ∧ isAlphanumeric c = true)
    (fun _ h => absurd h List.not_mem_nil) (fun c hc h => ⟨hlower c hc, h⟩) run hrun
  rw [lowerChars_eq_self fun c hc => (hrun c hc).1]
  simp only [staysWhole, Bool.and_eq_true, decide_eq_true_eq, List.all_eq_true,
    String.toList_ofList]
  exact ⟨hsize, fun c hc => (hrun c hc).2⟩

/-- Of the tokens of tokens, one of the first is there when it stays whole. -/
theorem mem_tokens_of_tokens_iff {s t : String} {keywords : List String} (ht : t ∈ tokens s)
    (hkeywords : ∀ k ∈ keywords, ∃ s, k ∈ tokens s) (hmem : t ∈ keywords) :
    t ∈ keywords.flatMap tokens ↔ staysWhole t = true := by
  rw [List.mem_flatMap]
  constructor
  · rintro ⟨k, hk, htoken⟩
    obtain ⟨s', hs'⟩ := hkeywords k hk
    exact staysWhole_of_mem hs' htoken
  · intro h
    refine ⟨t, hmem, ?_⟩
    rw [tokens_of_staysWhole ht h]
    exact List.mem_singleton_self t

end CatalogSearch.Text
