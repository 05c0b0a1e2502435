import CatalogSearch.Engine.Suggestions
import CatalogSearch.Engine.Tally
import CatalogSearch.Feed.Normalization
import CatalogSearch.Index.Store
import CatalogSearch.Query.Facets

/-!
# The engine

The engine holds the index, the schemas and the policy, and answers requests one after the other.  A
search is planned, looked up, ranked and counted, and only then cut to a page and redacted for its
caller; before each stage it may find its deadline passed.
-/

set_option autoImplicit false

namespace CatalogSearch

open CatalogSearch.Text CatalogSearch.Time

/-! ## Answers -/

/-- A result as its caller is shown it. -/
structure SearchHit where
  entityType : EntityType
  id : String
  tenant : Option String
  title : String
  description : String
  fields : FieldMap
  score : Float

/-- The answer to a search. -/
structure SearchResponse where
  /-- The results on the page. -/
  results : List SearchHit
  /-- The counts over all matches. -/
  facets : List FacetResult
  /-- The number of matches. -/
  total : Nat
  page : Nat
  pageSize : Nat

/-- What became of a change. -/
inductive ApplyOutcome where
  | upserted (outcome : UpsertOutcome)
  | deleted (outcome : DeleteOutcome)
  deriving DecidableEq, Repr

/-- How the engine is. -/
structure Health where
  healthy : Bool
  indexAvailable : Bool
  generation : Nat
  /-- The number of answers remembered. -/
  cachedSuggestions : Nat
  deriving DecidableEq, Repr

/-- The stages before which a search looks at the time. -/
inductive Stage where
  | lookup
  | ranking
  | facets
  | visibility
  deriving DecidableEq, Repr

/-- The name of a stage. -/
def Stage.name : Stage → String
  | .lookup => "lookup"
  | .ranking => "ranking"
  | .facets => "facet aggregation"
  | .visibility => "visibility filtering"

/-- The stage before which the time of a search is up, if it is. -/
structure Deadline where
  passedBefore : Option Stage := none
  deriving DecidableEq, Repr

/-- A search stops before the stage at which its time is up. -/
def Deadline.check (d : Deadline) (stage : Stage) : Except SearchError Unit :=
  if d.passedBefore = some stage then .error (.timeout ("deadline passed before " ++ stage.name))
  else .ok ()

/-! ## Showing a page -/

/-- A result as its caller is shown it. -/
def AccessView.hit (v : AccessView) (placeholder : String) (s : ScoredDocument) : SearchHit where
  entityType := s.document.entityType
  id := s.document.id
  tenant := s.document.tenant
  title := s.document.title
  description := s.document.description
  fields := v.redact placeholder s.document
  score := s.score

/-- Results as their caller is shown them, without those that it may not find at all. -/
def AccessView.present (v : AccessView) (placeholder : String) (page : List ScoredDocument) :
    List SearchHit :=
  (page.filter fun s => v.scope.admits s.document).map (v.hit placeholder)

/-! ## The engine -/

/-- An engine with all that it holds. -/
structure Engine where
  settings : SearchSettings := {}
  schemas : SchemaRegistry := .standard
  policy : AccessPolicy := .standard
  store : Store := {}
  suggestions : SuggestionCache := {}
  tally : Tally := {}

namespace Engine

instance : Inhabited Engine := ⟨{}⟩

/-- The engine after one more of something. -/
def count (g : Engine) (c : Counter) : Engine := { g with tally := g.tally.record c }

/-! ### Writing -/

/-- Index a document. -/
def index (g : Engine) (d : Document) : Except SearchError UpsertOutcome × Engine :=
  match g.store.upsert d with
  | .error e => (.error e, g)
  | .ok (outcome, store) =>
    (.ok outcome, { g with store }.count (.mutation d.entityType.name outcome.name))

/-- Delete a document. -/
def remove (g : Engine) (key : DocumentKey) (deletedAt : Instant) :
    Except SearchError DeleteOutcome × Engine :=
  match g.store.delete key deletedAt with
  | .error e => (.error e, g)
  | .ok (outcome, store) =>
    (.ok outcome, { g with store }.count (.mutation key.entityType.name outcome.name))

/-- Apply a change of a record. -/
def apply (g : Engine) (e : ChangeEvent) : Except SearchError ApplyOutcome × Engine :=
  match e.operation with
  | .upsert =>
    match e.toDocument g.schemas with
    | .error fault => (.error (.invalidDocument fault), g)
    | .ok d =>
      let (outcome, g) := g.index d
      (outcome.map .upserted, g)
  | .delete =>
    let (outcome, g) := g.remove e.key e.updatedAt
    (outcome.map .deleted, g)

/-- Forget the deletions that are older than a number of seconds; if that is before all time, none
is. -/
def purgeOlderThan (g : Engine) (now : Instant) (seconds : Nat) : Nat × Engine :=
  match now.secondsBefore? seconds with
  | some cutoff =>
    let (purged, store) := g.store.purge cutoff
    (purged, { g with store })
  | none => (0, g)

/-! ### Searching -/

/-- The plan of a search, with the page as large as its caller may have it. -/
def plan (g : Engine) (r : SearchRequest) (caller : Caller) : Except SearchError QueryPlan := do
  let plan ← QueryPlan.make g.schemas g.policy g.settings r caller
  return { plan with pageSize := plan.view.pageSize g.settings.guestPageCap plan.pageSize }

/-- Where the page of a plan begins among so many results. -/
def pageStart (plan : QueryPlan) (total : Nat) : Nat := min plan.offset total

/-- Where the page of a plan ends among so many results; the end is added up in 64 bits. -/
def pageStop (plan : QueryPlan) (total : Nat) : Nat :=
  min (min (pageStart plan total + plan.pageSize) Number.nat64Most) total

/-- The page of a plan, cut from all its results. -/
def pageOf {α : Type} (plan : QueryPlan) (ranked : List α) : List α :=
  ranked.extract (pageStart plan ranked.length) (pageStop plan ranked.length)

/-- The answer to a plan. -/
def execute (g : Engine) (plan : QueryPlan) (deadline : Deadline) :
    Except SearchError (SearchResponse × List ScoredDocument) := do
  deadline.check .lookup
  let found ← g.store.lookup plan
  deadline.check .ranking
  let ranked := Ranking.rank g.settings.weights found plan
  deadline.check .facets
  let facets := Facets.aggregate g.schemas (ranked.map (·.document)) plan
  deadline.check .visibility
  let page := pageOf plan ranked
  let strays := page.filter fun s => !plan.view.scope.admits s.document
  return (
    { results := plan.view.present g.settings.pricePlaceholder page
      facets
      total := ranked.length
      page := plan.page
      pageSize := plan.pageSize },
    strays)

/-- The answer to a search, with the documents that were kept from its caller at the last moment. -/
def respond (g : Engine) (r : SearchRequest) (caller : Caller) (deadline : Deadline) :
    Except SearchError (SearchResponse × List ScoredDocument) := do
  let plan ← g.plan r caller
  g.execute plan deadline

/-- Search the catalog. -/
def search (g : Engine) (r : SearchRequest) (caller : Caller) (deadline : Deadline) :
    Except SearchError SearchResponse × Engine :=
  let counted := g.count (.search caller.stateName)
  match g.respond r caller deadline with
  | .ok (response, strays) =>
    let counted := strays.foldl (fun g s => g.count (.violation s.document.entityType.name)) counted
    (.ok response, counted.count (.timing "search"))
  | .error e => (.error e, (counted.count (.timing "search")).count (.error e.kind))

/-! ### Suggesting -/

/-- What a request for suggestions comes down to. -/
structure SuggestionPlan where
  /-- The tokens before the last one. -/
  stem : List String
  /-- The token to be completed. -/
  start : String
  types : List EntityType
  scope : TenantScope
  limit : Nat

/-- The plan of suggestions; none if the text is too short for any. -/
def planSuggestions (g : Engine) (r : AutocompleteRequest) (caller : Caller) :
    Except SearchError (Option SuggestionPlan) := do
  let tokens := tokens r.query
  let some start := tokens.getLast? | throw .emptyQuery
  let types ← EntityType.parseFilter r.entityType
  if (trim r.query).length < g.settings.autocompleteMinChars then return none
  let most := g.settings.autocompleteLimit
  return some {
    stem := tokens.dropLast
    start
    types
    scope := (AccessView.resolve g.policy caller).scope
    limit := min (max (r.limit.getD most) 1) (max most 1)
  }

/-- All that the suggestions of a plan depend on. -/
def suggestionKey (g : Engine) (p : SuggestionPlan) : SuggestionKey where
  generation := g.store.generation
  scope := p.scope.cacheKey
  types := p.types
  query := " ".intercalate (p.stem ++ [p.start])
  limit := p.limit

/-- A term put after the stem of the query. -/
def complete (stem : List String) (term : String) : String :=
  let stem := " ".intercalate stem
  if stem.isEmpty then term else stem ++ " " ++ term

/-- The suggestions of a plan, worked out from the index. -/
def computeSuggestions (g : Engine) (p : SuggestionPlan) : Except SearchError (List String) :=
  (g.store.suggest p.types p.scope p.start).map fun counts =>
    (counts.best p.limit).map (complete p.stem)

/-- Suggestions, remembered or worked out; and whether they were remembered. -/
def suggest (g : Engine) (r : AutocompleteRequest) (caller : Caller) :
    Except SearchError (List String × Bool) × Engine :=
  match g.planSuggestions r caller with
  | .error e => (.error e, g)
  | .ok none => (.ok ([], false), g)
  | .ok (some p) =>
    let (answer, suggestions) :=
      g.suggestions.getOrCompute (g.suggestionKey p) (g.computeSuggestions p)
    (answer, { g with suggestions })

/-- Complete the beginning of a query. -/
def autocomplete (g : Engine) (r : AutocompleteRequest) (caller : Caller) :
    Except SearchError (List String) × Engine :=
  let (answer, g) := (g.count .autocomplete).suggest r caller
  match answer with
  | .ok (suggestions, remembered) =>
    let g := if remembered then g.count .cacheHit else g
    (.ok suggestions, g.count (.timing "autocomplete"))
  | .error e => (.error e, (g.count (.timing "autocomplete")).count (.error e.kind))

/-! ### Looking after -/

/-- How the engine is. -/
def health (g : Engine) : Health :=
  ⟨g.store.available, g.store.available, g.store.generation, g.suggestions.entries.length⟩

end Engine

end CatalogSearch
