import CatalogSearch.Text.Utf8

/-!
# Bytes and their characters

Bytes are read as the characters of which they are the encoding, and as no others; where they are no
encoding they are not read.  In an encoding a byte below 128 is always a character of its own, so an
encoding can be cut at such a byte.
-/

set_option autoImplicit false

namespace CatalogSearch.Text

/-- The bytes of some characters. -/
def encodeUtf8 (cs : List Char) : List UInt8 := cs.flatMap String.utf8EncodeChar

/-! ## Bytes as numbers -/

theorem byteWidth_eq (b : UInt8) :
    byteWidth b =
      if b.toNat < 0x80 then 1
      else if 0xC2 ≤ b.toNat ∧ b.toNat ≤ 0xDF then 2
      else if 0xE0 ≤ b.toNat ∧ b.toNat ≤ 0xEF then 3
      else if 0xF0 ≤ b.toNat ∧ b.toNat ≤ 0xF4 then 4
      else 0 := by
  simp only [byteWidth, UInt8.lt_iff_toNat_lt, UInt8.le_iff_toNat_le]
  rfl

theorem byteWidth_eq_one_iff {b : UInt8} : byteWidth b = 1 ↔ b.toNat < 0x80 := by
  rw [byteWidth_eq]
  repeat' split
  all_goals omega

theorem byteWidth_eq_two_iff {b : UInt8} :
    byteWidth b = 2 ↔ 0xC2 ≤ b.toNat ∧ b.toNat ≤ 0xDF := by
  rw [byteWidth_eq]
  repeat' split
  all_goals omega

theorem byteWidth_eq_three_iff {b : UInt8} :
    byteWidth b = 3 ↔ 0xE0 ≤ b.toNat ∧ b.toNat ≤ 0xEF := by
  rw [byteWidth_eq]
  repeat' split
  all_goals omega

theorem byteWidth_eq_four_iff {b : UInt8} :
    byteWidth b = 4 ↔ 0xF0 ≤ b.toNat ∧ b.toNat ≤ 0xF4 := by
  rw [byteWidth_eq]
  repeat' split
  all_goals omega

theorem isTail_iff {b : UInt8} : isTail b = true ↔ 0x80 ≤ b.toNat ∧ b.toNat ≤ 0xBF := by
  simp only [isTail, Bool.and_eq_true, decide_eq_true_eq, UInt8.le_iff_toNat_le]
  rfl

/-- The second byte of a long character is a tail, within narrower bounds after some first bytes. -/
theorem isSecond_iff {a b : UInt8} :
    isSecond a b = true ↔
      (0x80 ≤ b.toNat ∧ b.toNat ≤ 0xBF) ∧ (a.toNat = 0xE0 → 0xA0 ≤ b.toNat) ∧
        (a.toNat = 0xED → b.toNat ≤ 0x9F) ∧ (a.toNat = 0xF0 → 0x90 ≤ b.toNat) ∧
        (a.toNat = 0xF4 → b.toNat ≤ 0x8F) := by
  have heq : ∀ n : UInt8, a = n ↔ a.toNat = n.toNat := fun n => UInt8.toNat_inj.symm
  simp only [isSecond, heq, UInt8.reduceToNat]
  split
  · simp only [Bool.and_eq_true, decide_eq_true_eq, UInt8.le_iff_toNat_le, UInt8.reduceToNat]
    omega
  · split
    · simp only [Bool.and_eq_true, decide_eq_true_eq, UInt8.le_iff_toNat_le, UInt8.reduceToNat]
      omega
    · split
      · simp only [Bool.and_eq_true, decide_eq_true_eq, UInt8.le_iff_toNat_le, UInt8.reduceToNat]
        omega
      · split
        · simp only [Bool.and_eq_true, decide_eq_true_eq, UInt8.le_iff_toNat_le, UInt8.reduceToNat]
          omega
        · rw [isTail_iff]
          omega

/-! ## The encodings of numbers -/

/-- Some bytes are the encoding of a number. -/
inductive Encoding : List UInt8 → Nat → Prop where
  | one (a : UInt8) {n : Nat} (hwidth : byteWidth a = 1) (hn : a.toNat = n) : Encoding [a] n
  | two (a b : UInt8) {n : Nat} (hwidth : byteWidth a = 2) (hb : isTail b = true)
      (hn : a.toNat % 32 * 64 + tailBits b = n) : Encoding [a, b] n
  | three (a b c : UInt8) {n : Nat} (hwidth : byteWidth a = 3) (hb : isSecond a b = true)
      (hc : isTail c = true) (hn : (a.toNat % 16 * 64 + tailBits b) * 64 + tailBits c = n) :
    Encoding [a, b, c] n
  | four (a b c d : UInt8) {n : Nat} (hwidth : byteWidth a = 4) (hb : isSecond a b = true)
      (hc : isTail c = true) (hd : isTail d = true)
      (hn : ((a.toNat % 8 * 64 + tailBits b) * 64 + tailBits c) * 64 + tailBits d = n) :
    Encoding [a, b, c, d] n

/-- A character made of a number has that number, if there is such a character. -/
theorem toNat_ofNat_of_valid {n : Nat} (hvalid : n.isValidChar) : (Char.ofNat n).toNat = n := by
  rw [Char.ofNat, dif_pos hvalid]
  rfl

namespace Encoding

variable {bytes : List UInt8} {n : Nat}

/-- Every character is encoded. -/
theorem utf8EncodeChar (c : Char) : Encoding (String.utf8EncodeChar c) c.toNat := by
  have hvalid : c.toNat < 0xD800 ∨ 0xDFFF < c.toNat ∧ c.toNat < 0x110000 := c.valid
  have hval : c.val.toNat = c.toNat := rfl
  simp only [String.utf8EncodeChar, hval]
  generalize c.toNat = n at hvalid
  split
  · refine .one _ ?_ ?_
    · rw [byteWidth_eq_one_iff, UInt8.toNat_ofNat']
      omega
    · rw [UInt8.toNat_ofNat']
      omega
  · split
    · refine .two _ _ ?_ ?_ ?_
      · rw [byteWidth_eq_two_iff, UInt8.toNat_ofNat']
        omega
      · rw [isTail_iff, UInt8.toNat_ofNat']
        omega
      · simp only [tailBits, UInt8.toNat_ofNat']
        omega
    · split
      · refine .three _ _ _ ?_ ?_ ?_ ?_
        · rw [byteWidth_eq_three_iff, UInt8.toNat_ofNat']
          omega
        · simp only [isSecond_iff, UInt8.toNat_ofNat']
          omega
        · rw [isTail_iff, UInt8.toNat_ofNat']
          omega
        · simp only [tailBits, UInt8.toNat_ofNat']
          omega
      · refine .four _ _ _ _ ?_ ?_ ?_ ?_ ?_
        · rw [byteWidth_eq_four_iff, UInt8.toNat_ofNat']
          omega
        · simp only [isSecond_iff, UInt8.toNat_ofNat']
          omega
        · rw [isTail_iff, UInt8.toNat_ofNat']
          omega
        · rw [isTail_iff, UInt8.toNat_ofNat']
          omega
        · simp only [tailBits, UInt8.toNat_ofNat']
          omega

/-- An encoding is that of a character. -/
theorem valid (h : Encoding bytes n) : n.isValidChar := by
  have hvalid : n < 0xD800 ∨ 0xDFFF < n ∧ n < 0x110000 := by
    cases h with
    | one a hwidth hn =>
      rw [byteWidth_eq_one_iff] at hwidth
      omega
    | two a b hwidth hb hn =>
      rw [byteWidth_eq_two_iff] at hwidth
      rw [tailBits] at hn
      omega
    | three a b c hwidth hb hc hn =>
      rw [byteWidth_eq_three_iff] at hwidth
      rw [isSecond_iff] at hb
      simp only [tailBits] at hn
      omega
    | four a b c d hwidth hb hc hd hn =>
      rw [byteWidth_eq_four_iff] at hwidth
      rw [isSecond_iff] at hb
      simp only [tailBits] at hn
      omega
  exact hvalid

/-- The bytes are those of the character. -/
theorem utf8EncodeChar_eq (h : Encoding bytes n) : String.utf8EncodeChar (Char.ofNat n) = bytes := by
  have hval : (Char.ofNat n).val.toNat = n := toNat_ofNat_of_valid h.valid
  simp only [String.utf8EncodeChar, hval]
  cases h with
  | one a hwidth hn =>
    rw [byteWidth_eq_one_iff] at hwidth
    rw [if_pos (by omega), ← hn, UInt8.ofNat_toNat]
  | two a b hwidth hb hn =>
    rw [byteWidth_eq_two_iff] at hwidth
    rw [isTail_iff] at hb
    rw [tailBits] at hn
    rw [if_neg (by omega), if_pos (by omega)]
    simp only [List.cons.injEq, and_true, ← UInt8.toNat_inj, UInt8.toNat_ofNat']
    omega
  | three a b c hwidth hb hc hn =>
    rw [byteWidth_eq_three_iff] at hwidth
    rw [isSecond_iff] at hb
    rw [isTail_iff] at hc
    simp only [tailBits] at hn
    rw [if_neg (by omega), if_neg (by omega), if_pos (by omega)]
    simp only [List.cons.injEq, and_true, ← UInt8.toNat_inj, UInt8.toNat_ofNat']
    omega
  | four a b c d hwidth hb hc hd hn =>
    rw [byteWidth_eq_four_iff] at hwidth
    rw [isSecond_iff] at hb
    rw [isTail_iff] at hc hd
    simp only [tailBits] at hn
    rw [if_neg (by omega), if_neg (by omega), if_neg (by omega)]
    simp only [List.cons.injEq, and_true, ← UInt8.toNat_inj, UInt8.toNat_ofNat']
    omega

/-- In the bytes of a character of two bytes or more there is none below 128. -/
theorem eq_of_mem_ascii (h : Encoding bytes n) {b : UInt8} (hmem : b ∈ bytes)
    (hascii : b.toNat < 0x80) : bytes = [b] ∧ n = b.toNat := by
  cases h with
  | one a hwidth hn =>
    rw [List.mem_singleton] at hmem
    subst hmem
    exact ⟨rfl, hn.symm⟩
  | two a second hwidth hsecond hn =>
    rw [byteWidth_eq_two_iff] at hwidth
    rw [isTail_iff] at hsecond
    simp only [List.mem_cons, List.not_mem_nil, or_false] at hmem
    rcases hmem with rfl | rfl
    · omega
    · omega
  | three a second third hwidth hsecond hthird hn =>
    rw [byteWidth_eq_three_iff] at hwidth
    rw [isSecond_iff] at hsecond
    rw [isTail_iff] at hthird
    simp only [List.mem_cons, List.not_mem_nil, or_false] at hmem
    rcases hmem with rfl | rfl | rfl
    · omega
    · omega
    · omega
  | four a second third fourth hwidth hsecond hthird hfourth hn =>
    rw [byteWidth_eq_four_iff] at hwidth
    rw [isSecond_iff] at hsecond
    rw [isTail_iff] at hthird hfourth
    simp only [List.mem_cons, List.not_mem_nil, or_false] at hmem
    rcases hmem with rfl | rfl | rfl | rfl
    · omega
    · omega
    · omega
    · omega

end Encoding

/-! ## Reading -/

theorem encodeUtf8_append (cs cs' : List Char) :
    encodeUtf8 (cs ++ cs') = encodeUtf8 cs ++ encodeUtf8 cs' := List.flatMap_append

theorem encodeUtf8_ascii {b : UInt8} (hascii : b.toNat < 0x80) :
    encodeUtf8 [Char.ofNat b.toNat] = [b] := by
  rw [encodeUtf8, List.flatMap_singleton]
  exact (Encoding.one b (byteWidth_eq_one_iff.mpr hascii) rfl).utf8EncodeChar_eq

/-- An encoding that ends in a byte below 128 is one without it, of all characters but the last. -/
theorem encodeUtf8_eq_append_ascii_iff {cs : List Char} {bytes : List UInt8} {b : UInt8}
    (hascii : b.toNat < 0x80) :
    bytes ++ [b] = encodeUtf8 cs ↔
      ∃ cs', cs = cs' ++ [Char.ofNat b.toNat] ∧ bytes = encodeUtf8 cs' := by
  constructor
  · intro h
    rcases List.eq_nil_or_concat cs with rfl | ⟨cs', c, rfl⟩
    · exact absurd h (List.append_ne_nil_of_right_ne_nil _ (List.cons_ne_nil _ _))
    · have hsingle : encodeUtf8 [c] = String.utf8EncodeChar c := List.flatMap_singleton _ _
      rw [List.concat_eq_append] at h ⊢
      rw [encodeUtf8_append, hsingle] at h
      have hencoding := Encoding.utf8EncodeChar c
      -- the last character has the byte among its own, and so has no other
      have hlast : b ∈ String.utf8EncodeChar c := by
        rcases List.eq_nil_or_concat (String.utf8EncodeChar c) with hnil | ⟨front, last, hchar⟩
        · have hlength := String.length_utf8EncodeChar c
          rw [hnil] at hlength
          exact absurd hlength.symm (Nat.ne_of_gt c.utf8Size_pos)
        · rw [List.concat_eq_append] at hchar
          rw [hchar, ← List.append_assoc] at h
          have hb : b = last := by simpa using (List.append_inj' h rfl).2
          rw [hchar, hb]
          exact List.mem_append_right _ List.mem_cons_self
      obtain ⟨hbytes, hn⟩ := hencoding.eq_of_mem_ascii hlast hascii
      rw [hbytes] at h
      refine ⟨cs', ?_, (List.append_inj' h rfl).1⟩
      rw [← hn, Char.ofNat_toNat]
  · rintro ⟨cs', rfl, rfl⟩
    rw [encodeUtf8_append, encodeUtf8_ascii hascii]

end CatalogSearch.Text
