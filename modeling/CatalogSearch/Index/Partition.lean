import CatalogSearch.Catalog.PartitionKey
import CatalogSearch.Index.Analysis
import CatalogSearch.Index.TermCounts
import CatalogSearch.Query.Plan

/-!
# A partition

The documents that are kept together, the postings of their tokens and the counts of their suggested
terms.  The three are always changed together: what a document adds when it comes is what it takes
away when it goes.
-/

set_option autoImplicit false

namespace CatalogSearch

/-- A document with the analysis under which it is indexed. -/
structure IndexedDocument where
  document : Document
  analysis : Analysis

/-- The postings of one token, by document. -/
abbrev PostingList := Std.ExtTreeMap DocumentKey Posting

/-- A partition of the index. -/
structure Partition where
  documents : Std.ExtTreeMap DocumentKey IndexedDocument := ∅
  postings : Std.ExtTreeMap String PostingList := ∅
  suggestions : TermCounts := {}

namespace Partition

instance : Inhabited Partition := ⟨{}⟩

/-- The partition without a document.  A token that no other document has loses its posting list. -/
def remove (p : Partition) (key : DocumentKey) : Partition :=
  match p.documents[key]? with
  | none => p
  | some indexed =>
    { documents := p.documents.erase key
      postings := indexed.analysis.postings.keys.foldl
        (fun m t => m.alter t fun list => (list.map (·.erase key)).filter (fun list => !list.isEmpty))
        p.postings
      suggestions := p.suggestions.remove indexed.analysis.suggested.toList }

/-- The partition with a document, in place of what it held under the key. -/
def insert (p : Partition) (key : DocumentKey) (indexed : IndexedDocument) : Partition :=
  let p := p.remove key
  { documents := p.documents.insert key indexed
    postings := indexed.analysis.postings.toList.foldl
      (fun m (t, posting) => m.alter t fun list => some ((list.getD ∅).insert key posting))
      p.postings
    suggestions := p.suggestions.add indexed.analysis.suggested.toList }

/-- The posting list of a token. -/
def postingList (p : Partition) (token : String) : PostingList := p.postings[token]?.getD ∅

/-- The posting of a token in a document; an empty one if it does not occur. -/
def posting (p : Partition) (token : String) (key : DocumentKey) : Posting :=
  (p.postingList token)[key]?.getD {}

/-- The documents that have every token: those of the rarest token that are in the other lists. -/
def keysWithAll (p : Partition) (tokens : List String) : List DocumentKey :=
  match (tokens.map p.postingList).mergeSort (fun a b => decide (a.size ≤ b.size)) with
  | [] => []
  | rarest :: rest => rarest.keys.filter fun key => rest.all (·.contains key)

/-- The documents that have at least one of the tokens, each once. -/
def keysWithAny (p : Partition) (tokens : List String) : List DocumentKey :=
  ((tokens.map p.postingList).foldl (fun s list => list.keys.foldl (·.insert ·) s)
    (∅ : Std.ExtTreeSet DocumentKey)).toList

/-- The documents that have the tokens, in order of key. -/
def matching (p : Partition) (tokens : List String) : MatchMode → List DocumentKey
  | .all => p.keysWithAll tokens
  | .any => p.keysWithAny tokens

end Partition

end CatalogSearch
