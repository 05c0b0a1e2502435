import CatalogSearch.Index.Partition

/-!
# Matches of a plan

What a lookup finds: the matching documents with the postings of the query's tokens, and the figures
from which the worth of a token is worked out.
-/

set_option autoImplicit false

namespace CatalogSearch

/-- A matching document with the postings of the query's tokens, in their order. -/
structure Candidate where
  document : Document
  postings : List Posting

/-- The matches of a query in the partitions that were looked through. -/
structure CandidateSet where
  tokens : List String := []
  /-- For each token the number of documents that have it. -/
  documentFrequency : List Nat := []
  /-- The number of documents looked through. -/
  population : Nat := 0
  candidates : List Candidate := []

namespace CandidateSet

/-- The worth of a token from the number of documents that have it: the rarer the token the greater,
and nothing for a token that none has. -/
def worth (population frequency : Nat) : Float :=
  if frequency = 0 then 0
  else (1 + Float.ofNat population / Float.ofNat frequency).log

/-- The worth of the token at an index. -/
def inverseFrequency (s : CandidateSet) (index : Nat) : Float :=
  worth s.population (s.documentFrequency[index]?.getD 0)

/-- The worth of every token. -/
def inverseFrequencies (s : CandidateSet) : List Float :=
  (List.range s.tokens.length).map s.inverseFrequency

end CandidateSet

end CatalogSearch
