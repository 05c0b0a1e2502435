import CatalogSearch.Text.Alphanumeric
import CatalogSearch.Text.Blank
import CatalogSearch.Text.Lowercase

/-!
# Tokens

Documents, queries and keywords are compared by their tokens: the maximal runs of letters and
digits, in lower case.  Long runs (hashes, encoded data) are no words and are left out; the limit is
in bytes of UTF-8 and is applied before lower-casing.
-/

set_option autoImplicit false

namespace CatalogSearch.Text

/-- Runs of this many bytes or more are no tokens. -/
def tokenByteLimit : Nat := 40

/-- The tokens of a text, in order and with repetitions. -/
def tokens (s : String) : List String :=
  ((runs isAlphanumeric s.toList).filter
      (fun run => decide ((String.ofList run).utf8ByteSize < tokenByteLimit))).map
    (fun run => String.ofList (lowerChars run))

/-- The tokens of a text, each at its first place only. -/
def distinctTokens (s : String) : List String := (tokens s).eraseDups

/-- A text as a phrase: lower-cased, with single spaces between its words. -/
def phrase (s : String) : String := lower (" ".intercalate (words s))

end CatalogSearch.Text
