import CatalogSearch.Index.Candidates
import CatalogSearch.Number.Binary64

/-!
# Ranking

A document's score adds up, over the query's tokens, the worth of the token times its weighted
occurrences; a title that is the query earns a fixed boost.  Results are ordered by the field that
was asked for, as far as the caller sees it, then by score, version and key, so that no two documents
tie.
-/

set_option autoImplicit false

namespace CatalogSearch

open CatalogSearch.Text CatalogSearch.Time

/-- A document with its score. -/
structure ScoredDocument where
  document : Document
  score : Float

namespace Ranking

/-- What a token adds to a score: its worth times its weighted occurrences. -/
def tokenScore (w : RankingWeights) (worth : Float) (p : Posting) : Float :=
  worth * (w.title * Float.ofNat p.title + w.description * Float.ofNat p.description +
    w.other * Float.ofNat p.other)

/-- The score of a match. -/
def score (w : RankingWeights) (worths : List Float) (phrase : String) (c : Candidate) : Float :=
  let sum := ((c.postings.zip worths).map fun (p, worth) => tokenScore w worth p).foldl (· + ·) (-0.0)
  if Text.phrase c.document.title == phrase then sum + w.exactTitleBoost else sum

/-- A field to sort by: the number that the caller sees there, if there is one. -/
def sortValue? (view : AccessView) (field : String) (d : Document) : Option Float :=
  ((view.visibleValue? d field).bind FieldValue.number?).filter (fun x => !x.isNaN)

/-- Documents by the numbers of a field; those without one come last whichever way it goes. -/
def compareField (descending : Bool) (a b : Option Float) : Ordering :=
  match a, b with
  | some x, some y => if descending then Number.totalCompare y x else Number.totalCompare x y
  | some _, none => .lt
  | none, some _ => .gt
  | none, none => .eq

/-- The better score first, then the newer version, then by id, type and tenant. -/
def compareRelevance (a b : ScoredDocument) : Ordering :=
  (Number.totalCompare b.score a.score).then <|
  (compare b.document.updatedAt a.document.updatedAt).then <|
  (compare a.document.id b.document.id).then <|
  (compare a.document.entityType b.document.entityType).then <|
  compare a.document.tenant b.document.tenant

/-- The order of results. -/
def compareResults (plan : QueryPlan) (a b : ScoredDocument) : Ordering :=
  match plan.sort.field? with
  | none => compareRelevance a b
  | some field =>
    (compareField plan.sort.isDescending (sortValue? plan.view field a.document)
      (sortValue? plan.view field b.document)).then (compareRelevance a b)

/-- The matches of a plan with their scores, best first. -/
def rank (w : RankingWeights) (set : CandidateSet) (plan : QueryPlan) : List ScoredDocument :=
  let worths := set.inverseFrequencies
  let scored : List ScoredDocument :=
    set.candidates.map fun c => ⟨c.document, score w worths plan.phrase c⟩
  scored.mergeSort fun a b => compareResults plan a b != .gt

end Ranking

end CatalogSearch
