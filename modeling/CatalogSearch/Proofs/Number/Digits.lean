import CatalogSearch.Number.Literal
import Mathlib.Algebra.Group.Nat.Defs

/-!
# Digits

The digits of a natural number are read as that number, and zeros in front of them do not count.
-/

set_option autoImplicit false

namespace CatalogSearch.Number

/-- The characters are digits. -/
def Digits (cs : List Char) : Prop := ∀ c ∈ cs, isDigit c = true

theorem Digits.append {cs cs' : List Char} (h : Digits cs) (h' : Digits cs') : Digits (cs ++ cs') := by
  intro c hc
  rcases List.mem_append.mp hc with hc | hc
  · exact h c hc
  · exact h' c hc

theorem digits_digitsText (n : Nat) : Digits (digitsText n) :=
  fun _ hc => Nat.isDigit_of_mem_toDigits (by decide) (by decide) hc

theorem digits_zeros (n : Nat) : Digits (List.replicate n '0') := by
  intro c hc
  rw [List.eq_of_mem_replicate hc]
  decide

theorem digitsValue_eq (cs : List Char) : digitsValue cs = Nat.ofDigitChars 10 cs 0 := by
  rw [digitsValue, Nat.ofDigitChars_eq_foldl]
  simp only [Nat.mul_comm]

theorem digitsValue_digitsText (n : Nat) : digitsValue (digitsText n) = n := by
  rw [digitsValue_eq]
  exact Nat.ofDigitChars_ten_toDigits

/-- Zeros behind digits multiply them by a power of ten. -/
theorem digitsValue_append_zeros (cs : List Char) (n : Nat) :
    digitsValue (cs ++ List.replicate n '0') = 10 ^ n * digitsValue cs := by
  rw [digitsValue_eq, digitsValue_eq, Nat.ofDigitChars_append, Nat.ofDigitChars_replicate_zero]

/-- Zeros in front of digits do not count. -/
theorem digitsValue_zeros_append (n : Nat) (cs : List Char) :
    digitsValue (List.replicate n '0' ++ cs) = digitsValue cs := by
  rw [digitsValue_eq, digitsValue_eq, Nat.ofDigitChars_append, Nat.ofDigitChars_replicate_zero,
    Nat.mul_zero]

/-- Digits stand for a number below the power of ten that their count gives. -/
theorem digitsValue_lt {cs : List Char} (h : Digits cs) : digitsValue cs < 10 ^ cs.length := by
  have hinit : ∀ init, Nat.ofDigitChars 10 cs init < (init + 1) * 10 ^ cs.length := by
    induction cs with
    | nil =>
      intro init
      rw [Nat.ofDigitChars_nil, List.length_nil, Nat.pow_zero, Nat.mul_one]
      exact Nat.lt_succ_self init
    | cons c cs ih =>
      intro init
      have hnine : c.toNat ≤ '9'.toNat := (Char.isDigit_iff_toNat.mp (h c List.mem_cons_self)).2
      have hdigit : 10 * init + (c.toNat - '0'.toNat) + 1 ≤ (init + 1) * 10 := by
        have hten : '9'.toNat - '0'.toNat = 9 := rfl
        omega
      rw [Nat.ofDigitChars_cons, List.length_cons, Nat.pow_succ']
      calc Nat.ofDigitChars 10 cs (10 * init + (c.toNat - '0'.toNat))
        _ < (10 * init + (c.toNat - '0'.toNat) + 1) * 10 ^ cs.length :=
            ih (fun c' hc' => h c' (List.mem_cons_of_mem c hc')) _
        _ ≤ (init + 1) * 10 * 10 ^ cs.length := Nat.mul_le_mul_right _ hdigit
        _ = (init + 1) * (10 * 10 ^ cs.length) := Nat.mul_assoc _ _ _
  have hvalue := hinit 0
  rw [Nat.zero_add, Nat.one_mul] at hvalue
  rw [digitsValue_eq]
  exact hvalue

theorem ne_of_isDigit {c c' : Char} (h : isDigit c = true) (h' : isDigit c' = false) : c ≠ c' := by
  rintro rfl
  rw [h] at h'
  cases h'

end CatalogSearch.Number
