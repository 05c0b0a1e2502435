import CatalogSearch.Text.Blank
import Mathlib.Data.List.TakeWhile

/-!
# Trimmed texts

A text that neither begins nor ends with white space is left as it is by trimming, and trimming gives such
a text.  A text without any white space is one.
-/

set_option autoImplicit false

namespace CatalogSearch.Text

/-- Characters that neither begin nor end with white space. -/
structure TrimmedChars (cs : List Char) : Prop where
  first : ∀ c, cs.head? = some c → isBlank c = false
  last : ∀ c, cs.getLast? = some c → isBlank c = false

theorem trimStartChars_eq_self {cs : List Char} (h : ∀ c, cs.head? = some c → isBlank c = false) :
    trimStartChars cs = cs := by
  cases cs with
  | nil => rfl
  | cons c rest =>
    rw [trimStartChars, List.dropWhile_cons, if_neg]
    rw [h c rfl]
    exact Bool.false_ne_true

theorem head?_trimStartChars {cs : List Char} {c : Char} (h : (trimStartChars cs).head? = some c) :
    isBlank c = false := by
  have hfirst := List.head?_dropWhile_not isBlank cs
  rw [← trimStartChars, h] at hfirst
  exact hfirst

/-- Trimming the front leaves the end. -/
theorem getLast?_trimStartChars {cs : List Char} {c : Char}
    (h : (trimStartChars cs).getLast? = some c) : cs.getLast? = some c := by
  obtain ⟨blanks, hblanks⟩ : trimStartChars cs <:+ cs := List.dropWhile_suffix isBlank
  rw [← hblanks, List.getLast?_append, h]
  rfl

theorem trimChars_eq_self {cs : List Char} (h : TrimmedChars cs) : trimChars cs = cs := by
  have hlast : ∀ c, cs.reverse.head? = some c → isBlank c = false := by
    intro c hc
    rw [List.head?_reverse] at hc
    exact h.last c hc
  rw [trimChars, trimStartChars_eq_self h.first, trimStartChars_eq_self hlast, List.reverse_reverse]

theorem trimmed_trimChars (cs : List Char) : TrimmedChars (trimChars cs) where
  first c hc := by
    rw [trimChars, List.head?_reverse] at hc
    have hfirst := getLast?_trimStartChars hc
    rw [List.getLast?_reverse] at hfirst
    exact head?_trimStartChars hfirst
  last c hc := by
    rw [trimChars, List.getLast?_reverse] at hc
    exact head?_trimStartChars hc

/-- Trimming only leaves characters out. -/
theorem trimChars_sublist (cs : List Char) : (trimChars cs).Sublist cs := by
  have hfront : (trimStartChars cs).Sublist cs := List.dropWhile_sublist isBlank
  have hback : (trimStartChars (trimStartChars cs).reverse).Sublist (trimStartChars cs).reverse :=
    List.dropWhile_sublist isBlank
  rw [trimChars]
  exact (List.reverse_sublist.mp (by rwa [List.reverse_reverse])).trans hfront

/-- Trimming twice is trimming once. -/
theorem trim_trim (s : String) : trim (trim s) = trim s := by
  have hchars : trimChars (trim s).toList = trimChars s.toList := by
    rw [trim, String.toList_ofList, trimChars_eq_self (trimmed_trimChars s.toList)]
  rw [trim, hchars, ← trim]

/-- White space at the end is trimmed. -/
theorem trimChars_append_blank {c : Char} (hblank : isBlank c = true) (cs : List Char) :
    trimChars (cs ++ [c]) = trimChars cs := by
  have hone : [c].dropWhile isBlank = [] := by simp [hblank]
  simp only [trimChars, trimStartChars, List.dropWhile_append, hone]
  split
  · rename_i hempty
    rw [List.isEmpty_iff.mp hempty]
  · rw [List.reverse_append, List.reverse_singleton, List.singleton_append, List.dropWhile_cons,
      if_pos hblank]

/-- Trimming leaves what is no white space. -/
theorem mem_trimStartChars {cs : List Char} {c : Char} (hc : c ∈ cs) (hblank : isBlank c = false) :
    c ∈ trimStartChars cs := by
  rw [← List.takeWhile_append_dropWhile (p := isBlank) (l := cs)] at hc
  refine (List.mem_append.mp hc).resolve_left fun hfront => ?_
  rw [List.mem_takeWhile_imp hfront] at hblank
  cases hblank

/-- A text that is not blank is not when it is trimmed. -/
theorem isBlankText_trim {s : String} (h : isBlankText s = false) : isBlankText (trim s) = false := by
  rw [isBlankText, List.all_eq_false] at h ⊢
  obtain ⟨c, hc, hblank⟩ := h
  have hsolid : isBlank c = false := Bool.eq_false_iff.mpr hblank
  refine ⟨c, ?_, hblank⟩
  rw [trim, String.toList_ofList, trimChars, List.mem_reverse]
  exact mem_trimStartChars (List.mem_reverse.mpr (mem_trimStartChars hc hsolid)) hsolid

/-! ## Texts without white space -/

/-- No character is white space. -/
def Solid (cs : List Char) : Prop := ∀ c ∈ cs, isBlank c = false

instance (cs : List Char) : Decidable (Solid cs) :=
  List.decidableBAll (fun c => isBlank c = false) cs

theorem Solid.trimmed {cs : List Char} (h : Solid cs) : TrimmedChars cs where
  first c hc := h c (List.mem_of_head? hc)
  last c hc := h c (List.mem_of_getLast? hc)

theorem trim_eq_self_of_solid {s : String} (h : Solid s.toList) : trim s = s := by
  rw [trim, trimChars_eq_self h.trimmed, String.ofList_toList]

theorem Solid.append {cs cs' : List Char} (h : Solid cs) (h' : Solid cs') : Solid (cs ++ cs') := by
  intro c hc
  rcases List.mem_append.mp hc with hc | hc
  · exact h c hc
  · exact h' c hc

theorem Solid.cons {c : Char} {cs : List Char} (hc : isBlank c = false) (h : Solid cs) :
    Solid (c :: cs) :=
  List.forall_mem_cons.mpr ⟨hc, h⟩

theorem Solid.take {cs : List Char} (h : Solid cs) (n : Nat) : Solid (cs.take n) :=
  fun c hc => h c (List.mem_of_mem_take hc)

theorem Solid.drop {cs : List Char} (h : Solid cs) (n : Nat) : Solid (cs.drop n) :=
  fun c hc => h c (List.mem_of_mem_drop hc)

theorem solid_replicate {c : Char} (hc : isBlank c = false) (n : Nat) :
    Solid (List.replicate n c) := by
  intro x hx
  rw [List.eq_of_mem_replicate hx]
  exact hc

/-- Digits are no white space. -/
theorem solid_toDigits (n : Nat) : Solid (Nat.toDigits 10 n) := by
  intro c hc
  obtain ⟨hlow, hhigh⟩ :=
    Char.isDigit_iff_toNat.mp (Nat.isDigit_of_mem_toDigits (by decide) (by decide) hc)
  have hzero : '0'.toNat = 48 := rfl
  have hnine : '9'.toNat = 57 := rfl
  -- digits stand between the second range of white space and the third
  rw [isBlank, blankRanges, CodeRange.contains, if_neg (by omega), CodeRange.contains,
    if_neg (by omega), CodeRange.contains, if_pos (by omega), decide_eq_false (by omega)]

end CatalogSearch.Text
