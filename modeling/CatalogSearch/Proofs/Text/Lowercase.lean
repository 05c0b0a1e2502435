import CatalogSearch.Proofs.Text.Blank
import CatalogSearch.Text.Lowercase

/-!
# What lower-casing leaves

Lower-casing makes no space of any other character, nor white space of what is none, and what it makes
it leaves alone afterwards: no lower case of a character is a capital.  So a text that was trimmed and
then lower-cased stays as it is when both are done again.
-/

set_option autoImplicit false

namespace CatalogSearch.Text

/-! ## ASCII -/

theorem toNat_toLower (c : Char) : c.toLower.toNat =
    if 65 ≤ c.toNat ∧ c.toNat ≤ 90 then c.toNat + 32 else c.toNat := by
  have hcapital : (c.val ≥ 'A'.val ∧ c.val ≤ 'Z'.val) ↔ 65 ≤ c.toNat ∧ c.toNat ≤ 90 := Iff.rfl
  unfold Char.toLower
  by_cases h : 65 ≤ c.toNat ∧ c.toNat ≤ 90
  · rw [dif_pos (hcapital.mpr h), if_pos h]
    have hshift : ('a'.val - 'A'.val).toNat = 32 := by decide
    have hsum : (c.val + ('a'.val - 'A'.val)).toNat = (c.toNat + 32) % 2 ^ 32 := by
      rw [UInt32.toNat_add, hshift]
      rfl
    exact hsum.trans (Nat.mod_eq_of_lt (by omega))
  · rw [dif_neg (mt hcapital.mp h), if_neg h]

theorem toLower_eq_self {c : Char} (h : ¬ (65 ≤ c.toNat ∧ c.toNat ≤ 90)) : c.toLower = c := by
  have hnat := toNat_toLower c
  rw [if_neg h] at hnat
  exact Char.toNat_inj.mp hnat

/-! ## The table of capitals -/

/-- A character made of a number has that number, or none if there is no such character. -/
theorem toNat_ofNat (n : Nat) : (Char.ofNat n).toNat = n ∨ (Char.ofNat n).toNat = 0 := by
  by_cases hvalid : n.isValidChar
  · rw [Char.ofNat, dif_pos hvalid]
    exact Or.inl rfl
  · rw [Char.ofNat, dif_neg hvalid]
    exact Or.inr rfl

namespace CaseRun

/-- The lower case of the first capital of a run. -/
def lowerFirst (r : CaseRun) : Nat := ((r.first : Int) + r.shift).toNat

/-- Whether the lower case of a run lies before or behind the capitals of another one, or in the gaps
between them. -/
def misses (r r' : CaseRun) : Bool :=
  Nat.blt (r.lowerFirst + (r.last - r.first)) r'.first || Nat.blt r'.last r.lowerFirst ||
    ((r.step == 2 || r.first == r.last) && r'.step == 2 && (r.lowerFirst + r'.first) % 2 == 1)

theorem contains_eq_false_of_misses {r r' : CaseRun} (h : r.misses r' = true) {code : Nat}
    (hcode : r.contains code = true) :
    r'.contains (r.lowerFirst + (code - r.first)) = false := by
  simp only [contains, Bool.and_eq_true, decide_eq_true_eq, beq_iff_eq] at hcode
  simp only [misses, Nat.blt_eq, Bool.or_eq_true, Bool.and_eq_true, beq_iff_eq] at h
  obtain ⟨⟨hfirst, hlast⟩, hstep⟩ := hcode
  rw [Bool.eq_false_iff]
  simp only [contains, ne_eq, Bool.and_eq_true, decide_eq_true_eq, beq_iff_eq]
  rintro ⟨⟨hfirst', hlast'⟩, hstep'⟩
  rcases h with (h | h) | ⟨⟨hevery, htwo⟩, hgap⟩
  · omega
  · omega
  · rw [htwo] at hstep'
    rcases hevery with hevery | hevery
    · rw [hevery] at hstep
      omega
    · omega

end CaseRun

/-- The lower case of every capital stands after the space. -/
theorem space_lt_shifted : ∀ r ∈ caseRuns, 32 < (r.first : Int) + r.shift := by
  -- the table is longer than the default depth
  set_option maxRecDepth 2000 in decide

/-- The dotted capital I, which no run holds. -/
def dottedRun : CaseRun := ⟨0x130, 0x130, 2, 0⟩

/-- The lower case of a capital is no capital. -/
theorem misses_caseRuns : ∀ r ∈ caseRuns, ∀ r' ∈ dottedRun :: caseRuns, r.misses r' = true := by
  have hall : (caseRuns.all fun r => (dottedRun :: caseRuns).all r.misses) = true := by decide +kernel
  simpa only [List.all_eq_true] using hall

/-! ## Characters -/

theorem lowerChar_eq_self {c : Char} (h : ∀ r ∈ dottedRun :: caseRuns, r.contains c.toNat = false) :
    lowerChar c = [c] := by
  have hdotted : c.toNat ≠ 0x130 := by
    intro heq
    have hdotted := h dottedRun List.mem_cons_self
    rw [heq] at hdotted
    exact absurd hdotted (by decide)
  have hruns : caseRuns.find? (fun r => r.contains c.toNat) = none := by
    refine List.find?_eq_none.mpr fun r hr => ?_
    rw [h r (List.mem_cons_of_mem _ hr)]
    exact Bool.false_ne_true
  have hascii : ¬ (65 ≤ c.toNat ∧ c.toNat ≤ 90) := by
    rintro ⟨hfirst, hlast⟩
    have hrun := h ⟨0x41, 0x5A, 1, 32⟩ (List.mem_cons_of_mem _ List.mem_cons_self)
    simp only [CaseRun.contains, Nat.mod_one, beq_self_eq_true, Bool.and_true,
      Bool.and_eq_false_iff, decide_eq_false_iff_not] at hrun
    omega
  unfold lowerChar
  rw [toLower_eq_self hascii, if_neg hdotted, hruns, ite_self]

/-- Lower-casing leaves what it makes. -/
theorem lowerChar_of_mem {c x : Char} (h : x ∈ lowerChar c) : lowerChar x = [x] := by
  unfold lowerChar at h
  split at h
  · rename_i hascii
    rw [List.mem_singleton.mp h]
    have hlower := toNat_toLower c
    have hagain : c.toLower.toLower = c.toLower := by
      refine toLower_eq_self ?_
      rw [hlower]
      split <;> omega
    rw [lowerChar, if_pos (by rw [hlower]; split <;> omega), hagain]
  · rename_i hascii
    split at h
    · have hdot : ∀ r ∈ dottedRun :: caseRuns, r.contains '\u0307'.toNat = false := by
        set_option maxRecDepth 2000 in decide
      rcases List.mem_cons.mp h with rfl | h
      · rfl
      · rw [List.mem_singleton.mp h]
        exact lowerChar_eq_self hdot
    · rename_i hdotted
      split at h
      · rename_i r hr
        have hcontains := List.find?_some hr
        have hr' := List.mem_of_find?_eq_some hr
        have hfirst : r.first ≤ c.toNat := by
          simp only [CaseRun.contains, Bool.and_eq_true, decide_eq_true_eq] at hcontains
          exact hcontains.1.1
        have htarget : ((c.toNat : Int) + r.shift).toNat = r.lowerFirst + (c.toNat - r.first) := by
          have hshift := space_lt_shifted r hr'
          unfold CaseRun.lowerFirst
          omega
        rw [List.mem_singleton.mp h, htarget]
        rcases toNat_ofNat (r.lowerFirst + (c.toNat - r.first)) with hnat | hnat
        · refine lowerChar_eq_self fun r'' hr'' => ?_
          rw [hnat]
          exact CaseRun.contains_eq_false_of_misses (misses_caseRuns r hr' r'' hr'') hcontains
        · -- a number that is no character stands for the null character
          rw [Char.toNat_inj.mp (hnat.trans (by decide : (0 : Nat) = '\u0000'.toNat))]
          decide
      · rename_i hruns
        rw [List.mem_singleton.mp h, lowerChar, if_neg hascii, if_neg hdotted, hruns]

theorem lowerChar_ne_nil (c : Char) : lowerChar c ≠ [] := by
  unfold lowerChar
  split
  · exact List.cons_ne_nil _ _
  · split
    · exact List.cons_ne_nil _ _
    · split
      · exact List.cons_ne_nil _ _
      · exact List.cons_ne_nil _ _

theorem lowerChars_eq_self {cs : List Char} (h : ∀ c ∈ cs, lowerChar c = [c]) :
    lowerChars cs = cs := by
  induction cs with
  | nil => rfl
  | cons c rest ih =>
    obtain ⟨hc, hrest⟩ := List.forall_mem_cons.mp h
    rw [lowerChars, List.flatMap_cons, hc]
    exact congrArg (c :: ·) (ih hrest)

/-! ## Spaces -/

theorem space_ne_toLower {c : Char} (hc : c ≠ ' ') : ' ' ≠ c.toLower := by
  intro heq
  have hnat := toNat_toLower c
  rw [← heq] at hnat
  split at hnat
  · have hspace : ' '.toNat = 32 := by decide
    omega
  · exact hc (Char.toNat_inj.mp hnat).symm

/-- No other character has the space for its lower case. -/
theorem space_not_mem_lowerChar {c : Char} (hc : c ≠ ' ') : ' ' ∉ lowerChar c := by
  unfold lowerChar
  split
  · rw [List.mem_singleton]
    exact space_ne_toLower hc
  · split
    · decide
    · split
      · rename_i r hr
        have hcontains := List.find?_some hr
        have hshift := space_lt_shifted r (List.mem_of_find?_eq_some hr)
        simp only [CaseRun.contains, Bool.and_eq_true, decide_eq_true_eq] at hcontains
        rw [List.mem_singleton]
        intro heq
        have hspace : ' '.toNat = 32 := by decide
        rcases toNat_ofNat ((c.toNat : Int) + r.shift).toNat with h | h
        · rw [← heq, hspace] at h
          omega
        · rw [← heq, hspace] at h
          cases h
      · rw [List.mem_singleton]
        exact Ne.symm hc

/-! ## White space -/

theorem exists_range_of_contains {ranges : List CodeRange} {code : Nat}
    (h : CodeRange.contains ranges code = true) : ∃ r ∈ ranges, r.1 ≤ code ∧ code ≤ r.2 := by
  induction ranges with
  | nil => cases h
  | cons r rest ih =>
    rw [CodeRange.contains] at h
    split at h
    · rename_i hlast
      exact ⟨r, List.mem_cons_self, of_decide_eq_true h, hlast⟩
    · obtain ⟨r', hr', hcode⟩ := ih h
      exact ⟨r', List.mem_cons_of_mem _ hr', hcode⟩

/-- The lower cases of the capitals of a run stand before or behind each range of white space. -/
theorem blankRanges_miss_caseRuns : ∀ r ∈ caseRuns, ∀ b ∈ blankRanges,
    r.lowerFirst + (r.last - r.first) < b.1 ∨ b.2 < r.lowerFirst := by
  set_option maxRecDepth 2000 in decide

/-- No small ASCII letter is in a range of white space. -/
theorem blankRanges_miss_letters : ∀ b ∈ blankRanges, b.2 < 97 ∨ 122 < b.1 := by decide

theorem blankRanges_pos : ∀ b ∈ blankRanges, 0 < b.1 := by decide

/-- What is no white space does not become white space. -/
theorem isBlank_of_mem_lowerChar {c x : Char} (hx : x ∈ lowerChar c) (hc : isBlank c = false) :
    isBlank x = false := by
  unfold lowerChar at hx
  split at hx
  · rw [List.mem_singleton.mp hx]
    by_cases hcapital : 65 ≤ c.toNat ∧ c.toNat ≤ 90
    · have hlower := toNat_toLower c
      rw [if_pos hcapital] at hlower
      refine Bool.eq_false_iff.mpr fun hblank => ?_
      obtain ⟨r, hr, hfirst, hlast⟩ := exists_range_of_contains hblank
      have hmiss := blankRanges_miss_letters r hr
      omega
    · rwa [toLower_eq_self hcapital]
  · split at hx
    · simp only [List.mem_cons, List.not_mem_nil, or_false] at hx
      rcases hx with rfl | rfl
      · decide
      · decide
    · split at hx
      · rename_i r hr
        have hcontains := List.find?_some hr
        have hr' := List.mem_of_find?_eq_some hr
        have hshift := space_lt_shifted r hr'
        simp only [CaseRun.contains, Bool.and_eq_true, decide_eq_true_eq] at hcontains
        obtain ⟨⟨hfirst, hlast⟩, _⟩ := hcontains
        rw [List.mem_singleton.mp hx]
        refine Bool.eq_false_iff.mpr fun hblank => ?_
        obtain ⟨b, hb, hstart, hend⟩ := exists_range_of_contains hblank
        have hmiss := blankRanges_miss_caseRuns r hr' b hb
        unfold CaseRun.lowerFirst at hmiss
        rcases toNat_ofNat ((c.toNat : Int) + r.shift).toNat with hnat | hnat
        · omega
        · have hzero := blankRanges_pos b hb
          omega
      · rwa [List.mem_singleton.mp hx]

/-! ## Whole texts -/

/-- The lower case of a character in its place is its lower case, or the final form of a sigma. -/
theorem exists_lowerInContext_cons (before : List Char) (c : Char) (rest : List Char) :
    ∃ made, made ≠ [] ∧ (∀ x ∈ made, x ∈ lowerChar c ∨ c = 'Σ' ∧ x = 'ς') ∧
      lowerInContext before (c :: rest) = made ++ lowerInContext (c :: before) rest := by
  refine ⟨_, ?_, ?_, rfl⟩
  · split
    · exact List.cons_ne_nil _ _
    · exact lowerChar_ne_nil c
  · intro x hx
    split at hx
    · rename_i hsigma
      subst hsigma
      have hsmall : lowerChar 'Σ' = ['σ'] := by decide
      rw [hsmall]
      rw [List.mem_singleton] at hx ⊢
      split at hx
      · exact Or.inr ⟨rfl, hx⟩
      · exact Or.inl hx
    · exact Or.inl hx

theorem lowerChar_of_mem_lowerInContext {before cs : List Char} {x : Char}
    (hx : x ∈ lowerInContext before cs) : lowerChar x = [x] := by
  induction cs generalizing before with
  | nil => cases hx
  | cons c rest ih =>
    obtain ⟨made, _, hmade, hcons⟩ := exists_lowerInContext_cons before c rest
    rw [hcons, List.mem_append] at hx
    rcases hx with hx | hx
    · rcases hmade x hx with hlower | ⟨_, rfl⟩
      · exact lowerChar_of_mem hlower
      · decide
    · exact ih hx

/-- A text without capitals stays as it is. -/
theorem lowerInContext_eq_self {before cs : List Char} (h : ∀ c ∈ cs, lowerChar c = [c]) :
    lowerInContext before cs = cs := by
  induction cs generalizing before with
  | nil => rfl
  | cons c rest ih =>
    obtain ⟨hc, hrest⟩ := List.forall_mem_cons.mp h
    have hsigma : c ≠ 'Σ' := by
      rintro rfl
      exact absurd hc (by decide)
    rw [lowerInContext, if_neg hsigma, hc, ih hrest, List.singleton_append]

theorem lower_lower (s : String) : lower (lower s) = lower s := by
  have hchars : lowerInContext [] (lower s).toList = lowerInContext [] s.toList := by
    rw [lower, String.toList_ofList]
    exact lowerInContext_eq_self fun c hc => lowerChar_of_mem_lowerInContext hc
  rw [lower, hchars, ← lower]

/-- A character at the end of a lower-cased text comes from the character at the end of the text. -/
theorem isBlank_getLast?_lowerInContext {before cs : List Char} {x : Char}
    (hlast : ∀ c, cs.getLast? = some c → isBlank c = false)
    (hx : (lowerInContext before cs).getLast? = some x) : isBlank x = false := by
  induction cs generalizing before with
  | nil => cases hx
  | cons c rest ih =>
    obtain ⟨made, hne, hmade, hcons⟩ := exists_lowerInContext_cons before c rest
    rw [hcons] at hx
    cases rest with
    | nil =>
      rw [lowerInContext, List.append_nil] at hx
      rcases hmade x (List.mem_of_getLast? hx) with hlower | ⟨_, rfl⟩
      · exact isBlank_of_mem_lowerChar hlower (hlast c rfl)
      · decide
    | cons next more =>
      obtain ⟨made', hne', _, hcons'⟩ := exists_lowerInContext_cons (c :: before) next more
      have hrest : lowerInContext (c :: before) (next :: more) ≠ [] := by
        rw [hcons']
        exact List.append_ne_nil_of_left_ne_nil hne' _
      rw [List.getLast?_append, Option.or_of_isSome (List.getLast?_isSome.mpr hrest)] at hx
      exact ih (fun y hy => hlast y (by rw [List.getLast?_cons_cons]; exact hy)) hx

/-- The lower case of a trimmed text is trimmed. -/
theorem TrimmedChars.lowerInContext {cs : List Char} (h : TrimmedChars cs) (before : List Char) :
    TrimmedChars (lowerInContext before cs) where
  first x hx := by
    cases cs with
    | nil => cases hx
    | cons c rest =>
      obtain ⟨made, hne, hmade, hcons⟩ := exists_lowerInContext_cons before c rest
      rw [hcons, List.head?_append, Option.or_of_isSome (List.isSome_head?.mpr hne)] at hx
      rcases hmade x (List.mem_of_head? hx) with hlower | ⟨_, rfl⟩
      · exact isBlank_of_mem_lowerChar hlower (h.first c rfl)
      · decide
  last x hx := isBlank_getLast?_lowerInContext h.last hx

/-- Trimming and lower-casing leave the lower case of a trimmed text. -/
theorem lower_trim_lower {s : String} (h : trim s = s) : lower (trim (lower s)) = lower s := by
  have htrimmed : TrimmedChars s.toList := by
    rw [← h, trim, String.toList_ofList]
    exact trimmed_trimChars s.toList
  have hlower : trim (lower s) = lower s := by
    have hchars : TrimmedChars (lower s).toList := by
      rw [lower, String.toList_ofList]
      exact htrimmed.lowerInContext []
    rw [trim, trimChars_eq_self hchars, String.ofList_toList]
  rw [hlower, lower_lower]

/-- Trimming and lower-casing twice is doing it once. -/
theorem lower_trim_lower_trim (s : String) : lower (trim (lower (trim s))) = lower (trim s) :=
  lower_trim_lower (trim_trim s)

end CatalogSearch.Text
