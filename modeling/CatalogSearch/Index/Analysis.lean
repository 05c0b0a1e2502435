import CatalogSearch.Catalog.Document
import CatalogSearch.Text.Token

/-!
# Analysis of a document

Which tokens a document has, how often each occurs in its title, its description and its keywords,
and which of them are suggested.  Titles and keywords are suggested, descriptions are not.
-/

set_option autoImplicit false

namespace CatalogSearch

open CatalogSearch.Text

/-- How often a token occurs in a document. -/
structure Posting where
  title : Nat := 0
  description : Nat := 0
  /-- Occurrences among the keywords. -/
  other : Nat := 0
  deriving DecidableEq, Repr, Inhabited

namespace Posting

/-- Whether the token does not occur. -/
def isEmpty (p : Posting) : Bool := p.title == 0 && p.description == 0 && p.other == 0

/-- One more occurrence in the title. -/
def inTitle (p : Posting) : Posting := { p with title := p.title + 1 }

/-- One more occurrence in the description. -/
def inDescription (p : Posting) : Posting := { p with description := p.description + 1 }

/-- One more occurrence among the keywords. -/
def inKeywords (p : Posting) : Posting := { p with other := p.other + 1 }

end Posting

/-- Postings by token. -/
abbrev Postings := Std.ExtTreeMap String Posting

/-- Postings with one more occurrence of each of the tokens. -/
def Postings.addAll (count : Posting → Posting) (tokens : List String) (m : Postings) : Postings :=
  tokens.foldl (fun m t => m.alter t fun p => some (count (p.getD {}))) m

namespace Document

/-- The tokens of the title, with repetitions. -/
def titleTokens (d : Document) : List String := tokens d.title

/-- The tokens of the description, with repetitions. -/
def descriptionTokens (d : Document) : List String := tokens d.description

/-- The tokens of the keywords, keyword by keyword. -/
def keywordTokens (d : Document) : List String := d.keywords.toList.flatMap tokens

end Document

/-- The tokens of a document. -/
structure Analysis where
  postings : Postings
  /-- The tokens that are suggested, each once. -/
  suggested : NameSet

namespace Analysis

/-- The analysis of a document. -/
def ofDocument (d : Document) : Analysis where
  postings :=
    (((∅ : Postings).addAll Posting.inTitle d.titleTokens).addAll Posting.inDescription
      d.descriptionTokens).addAll Posting.inKeywords d.keywordTokens
  suggested := (d.titleTokens ++ d.keywordTokens).foldl (·.insert ·) ∅

end Analysis

end CatalogSearch
