import CatalogSearch.Feed.JsonLines
import CatalogSearch.Proofs.Text.Blank
import CatalogSearch.Proofs.Text.Utf8
import Mathlib.Data.List.Forall2

/-!
# Every line of a feed

A feed delivers one item for each line that says something, in the order of the lines and under the number
that the line has among all of them.  What a line delivers does not depend on the others.  Only a line
that is no text ends the feed before its last line, and that is reported.
-/

set_option autoImplicit false

namespace CatalogSearch.JsonLines

open CatalogSearch.Text

/-! ## Lines -/

/-- A line without a carriage return at its end. -/
def withoutReturn (line : List UInt8) : List UInt8 :=
  if line.getLast? = some 0x0D then line.dropLast else line

/-- The lines of some bytes.  A line feed ends a line, and a carriage return before it is no part of the
line; bytes that follow the last line feed are a line as well. -/
def lines (bytes : List UInt8) : List (List UInt8) :=
  let pieces := bytes.splitOn 0x0A
  pieces.dropLast.map withoutReturn ++ pieces.getLast?.toList.filter fun piece => !piece.isEmpty

/-- The bytes of a line, with or without its end, are text as well as the line is, and the same one once
it is trimmed. -/
structure SameText (bytes line : List UInt8) : Prop where
  trimmed : ∀ text, bytes = encodeUtf8 text →
    ∃ text', line = encodeUtf8 text' ∧ trimChars text = trimChars text'
  isText : ∀ text, line = encodeUtf8 text → ∃ text', bytes = encodeUtf8 text'

namespace SameText

theorem refl (line : List UInt8) : SameText line line :=
  ⟨fun text h => ⟨text, h, rfl⟩, fun text h => ⟨text, h⟩⟩

theorem trans {a b c : List UInt8} (hab : SameText a b) (hbc : SameText b c) : SameText a c where
  trimmed text h := by
    obtain ⟨text', h', htrim⟩ := hab.trimmed text h
    obtain ⟨text'', h'', htrim'⟩ := hbc.trimmed text' h'
    exact ⟨text'', h'', htrim.trans htrim'⟩
  isText text h := by
    obtain ⟨text', h'⟩ := hbc.isText text h
    exact hab.isText text' h'

/-- White space of one byte at the end makes no difference. -/
theorem append_blank {b : UInt8} (hascii : b.toNat < 0x80)
    (hblank : isBlank (Char.ofNat b.toNat) = true) (line : List UInt8) :
    SameText (line ++ [b]) line where
  trimmed text h := by
    obtain ⟨text', rfl, hline⟩ := (encodeUtf8_eq_append_ascii_iff hascii).mp h
    exact ⟨text', hline, trimChars_append_blank hblank text'⟩
  isText text h := ⟨_, (encodeUtf8_eq_append_ascii_iff hascii).mpr ⟨text, rfl, h⟩⟩

theorem withoutReturn (piece : List UInt8) : SameText piece (withoutReturn piece) := by
  unfold JsonLines.withoutReturn
  split
  · rename_i hreturn
    obtain ⟨front, rfl⟩ := List.getLast?_eq_some_iff.mp hreturn
    rw [List.dropLast_concat]
    exact append_blank (by decide) (by decide) front
  · exact refl piece

end SameText

/-- Whether a line says something: trimmed, it is neither empty nor begins with a number sign. -/
def speaks (text : List Char) : Bool :=
  !(trimChars text).isEmpty && (trimChars text).head? != some '#'

/-- What a line delivers that says something. -/
def item (source : String) (number : Nat) (text : List Char) : FeedItem :=
  match ChangeEvent.parse? (String.ofList (trimChars text)) with
  | some e => .ok e
  | none => .error (.malformed source number "not a change event")

/-- What lines deliver, the first of which has the given number: an item for each that says something. -/
def items (source : String) (number : Nat) (texts : List (List Char)) : List FeedItem :=
  ((texts.zipIdx number).filter fun line => speaks line.1).map fun line => item source line.2 line.1

/-- A line that is no text is reported, and what follows it is not read. -/
example : ∃ reason, read "feed" [0x23, 0x0A, 0xFF, 0x0A, 0x23, 0x0A] = [.error (.unreadable reason)] :=
  ⟨_, rfl⟩

end CatalogSearch.JsonLines
