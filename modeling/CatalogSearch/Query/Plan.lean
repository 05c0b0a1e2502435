import CatalogSearch.Number.Integer
import CatalogSearch.Query.Request
import CatalogSearch.Settings.Basic

/-!
# Plans

A request is understood once, before anything is looked up: its tokens, types, order, page and the
caller's view.  A plan is only made of filters that the requested types declare and the caller may
read, so that what is filtered cannot tell what is hidden.
-/

set_option autoImplicit false

namespace CatalogSearch

open CatalogSearch.Text

/-- A request that has been understood. -/
structure QueryPlan where
  /-- The tokens of the query, each once. -/
  tokens : List String
  /-- The query as a phrase, to be compared with titles. -/
  phrase : String
  types : List EntityType
  /-- What fields must hold, in order of name. -/
  filters : List (String × String)
  sort : SortMode
  matchMode : MatchMode
  /-- The page, counted from one. -/
  page : Nat
  pageSize : Nat
  view : AccessView

namespace QueryPlan

/-- The number of matches before the page, as far as 64 bits can say. -/
def offset (p : QueryPlan) : Nat := min ((p.page - 1) * p.pageSize) Number.nat64Most

/-- Whether every filter holds of the fields that the caller can see. -/
def matchesFilters (p : QueryPlan) (d : Document) : Bool :=
  p.filters.all fun (field, wanted) =>
    match p.view.visibleValue? d field with
    | some value => value.matchesFilter wanted
    | none => false

/-- The page asked for; anything below one is the first page. -/
def pageNumber (wanted : Option Int) : Nat :=
  match wanted with
  | some p => if 1 ≤ p then p.toNat else 1
  | none => 1

/-- The page size asked for, within its limit; anything below one is the default. -/
def pageLength (settings : SearchSettings) (wanted : Option Int) : Nat :=
  match wanted with
  | some s => if 1 ≤ s then min s.toNat settings.maxPageSize else settings.defaultPageSize
  | none => settings.defaultPageSize

/-- The requested type in messages. -/
def typeText (r : SearchRequest) : String :=
  match r.entityType.map trim with
  | some t => if t.isEmpty then "all" else lower t
  | none => "all"

/-- A filter is refused if no requested type declares its field, or if one of them declares it
confidential and the caller may not read it there. -/
def checkFilter (schemas : SchemaRegistry) (r : SearchRequest) (types : List EntityType)
    (view : AccessView) (field : String) : Except SearchError Unit :=
  if !schemas.declaresAny types field then .error (.unknownFilterField (typeText r) field)
  else if types.any fun t => schemas.isSensitive t field && !view.canReadSensitiveType t then
    .error (.restrictedFilterField field)
  else .ok ()

/-- The plan of a request: the query is looked at first, then the type, the order and the filters in
order of their names. -/
def make (schemas : SchemaRegistry) (policy : AccessPolicy) (settings : SearchSettings)
    (r : SearchRequest) (caller : Caller) : Except SearchError QueryPlan := do
  let tokens := distinctTokens r.query
  if tokens.isEmpty then throw .emptyQuery
  let types ← EntityType.parseFilter r.entityType
  let sort ← SortMode.ofText r.sort
  let view := AccessView.resolve policy caller
  let filters := r.filters.toList
  filters.forM fun (field, _) => checkFilter schemas r types view field
  return {
    tokens
    phrase := Text.phrase r.query
    types
    filters
    sort
    matchMode := r.matchMode.getD .all
    page := pageNumber r.page
    pageSize := pageLength settings r.pageSize
    view
  }

end QueryPlan

end CatalogSearch
