import Std.Data.ExtTreeMap

/-!
# Counted terms

Terms with the number of documents that have them, in code-point order, so that the terms with a
given beginning stand together.
-/

set_option autoImplicit false

namespace CatalogSearch

/-- Terms and how often each was added; a term whose count falls to zero is forgotten. -/
structure TermCounts where
  counts : Std.ExtTreeMap String Nat := ∅

namespace TermCounts

instance : Inhabited TermCounts := ⟨{}⟩

/-- No terms. -/
def empty : TermCounts := {}

/-- One more of each of the terms. -/
def add (c : TermCounts) (terms : List String) : TermCounts :=
  ⟨terms.foldl (fun m t => m.alter t fun n => some (n.getD 0 + 1)) c.counts⟩

/-- One fewer of each of the terms; a term that is not there stays away. -/
def remove (c : TermCounts) (terms : List String) : TermCounts :=
  ⟨terms.foldl
    (fun m t => m.alter t fun n => (n.map (· - 1)).filter (fun n => decide (0 < n))) c.counts⟩

/-- How often a term counts. -/
def count (c : TermCounts) (term : String) : Nat := c.counts[term]?.getD 0

/-- The number of terms. -/
def size (c : TermCounts) : Nat := c.counts.size

/-- Whether there are no terms. -/
def isEmpty (c : TermCounts) : Bool := c.counts.isEmpty

/-- The terms, in order, with their counts. -/
def toList (c : TermCounts) : List (String × Nat) := c.counts.toList

/-- Whether a term begins with the given text. -/
def beginsWith (start term : String) : Bool := start.toList.isPrefixOf term.toList

/-- The terms that begin with the given text, in order: they start at that text and stand together. -/
def startingWith (c : TermCounts) (start : String) : List (String × Nat) :=
  (c.toList.dropWhile (fun e => decide (e.1 < start))).takeWhile (fun e => beginsWith start e.1)

end TermCounts

end CatalogSearch
