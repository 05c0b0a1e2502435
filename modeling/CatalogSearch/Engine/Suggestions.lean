import CatalogSearch.Catalog.EntityType
import CatalogSearch.Index.TermCounts

/-!
# Remembered suggestions

Suggestions are ordered by how many documents have the term.  Answers are remembered under all that
they depend on, the generation of the index included, so that a write makes every older answer
unreachable.
-/

set_option autoImplicit false

namespace CatalogSearch

/-- Terms by falling count, then in code-point order. -/
def TermCounts.rankLe (a b : String × Nat) : Bool := (compare b.2 a.2).then (compare a.1 b.1) != .gt

/-- The first terms by falling count. -/
def TermCounts.best (c : TermCounts) (limit : Nat) : List String :=
  ((c.toList.mergeSort rankLe).take limit).map (·.1)

/-- All that suggestions depend on. -/
structure SuggestionKey where
  /-- The generation of the index that they were worked out from. -/
  generation : Nat
  scope : String
  types : List EntityType
  query : String
  limit : Nat
  deriving DecidableEq, Repr

/-- Suggestions by what they depend on, the last remembered first. -/
structure SuggestionCache where
  entries : List (SuggestionKey × List String) := []

namespace SuggestionCache

instance : Inhabited SuggestionCache := ⟨{}⟩

/-- The suggestions remembered under a key. -/
def find? (c : SuggestionCache) (key : SuggestionKey) : Option (List String) :=
  (c.entries.find? (fun e => e.1 == key)).map (·.2)

/-- Remember suggestions. -/
def remember (c : SuggestionCache) (key : SuggestionKey) (suggestions : List String) :
    SuggestionCache :=
  ⟨(key, suggestions) :: c.entries⟩

/-- The suggestions under a key: those remembered, or those worked out now, which are then
remembered; and whether they were remembered.  A failure is not remembered. -/
def getOrCompute {ε : Type} (c : SuggestionCache) (key : SuggestionKey)
    (compute : Except ε (List String)) : Except ε (List String × Bool) × SuggestionCache :=
  match c.find? key with
  | some suggestions => (.ok (suggestions, true), c)
  | none =>
    match compute with
    | .ok suggestions => (.ok (suggestions, false), c.remember key suggestions)
    | .error e => (.error e, c)

end SuggestionCache

end CatalogSearch
