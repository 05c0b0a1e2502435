import CatalogSearch.Access.View
import CatalogSearch.Catalog.Data
import CatalogSearch.Error
import CatalogSearch.Number.Integer

/-!
# Requests

What a caller asks for, in words that have still to be understood: a query, a type, filters, an order
and a page; or the beginning of a query to be completed.
-/

set_option autoImplicit false

namespace CatalogSearch

open CatalogSearch.Text

/-! ## Types, orders and matching -/

/-- The types that a text asks for: all of them for none, a blank one or the word `all`. -/
def EntityType.parseFilter (text : Option String) : Except SearchError (List EntityType) :=
  match text.map trim with
  | none => .ok EntityType.all
  | some name =>
    if name.isEmpty || equalIgnoringAsciiCase name "all" then .ok EntityType.all
    else
      match EntityType.parse? name with
      | some t => .ok [t]
      | none => .error (.unknownEntityType name)

/-- The order of results. -/
inductive SortMode where
  /-- The best match first. -/
  | relevance
  /-- The highest rating first. -/
  | rating
  /-- The cheapest first. -/
  | price
  /-- The soonest delivery first. -/
  | eta
  deriving DecidableEq, Repr, Inhabited

namespace SortMode

/-- Every order. -/
def all : List SortMode := [.relevance, .rating, .price, .eta]

/-- The name of an order. -/
def name : SortMode → String
  | .relevance => "relevance"
  | .rating => "rating"
  | .price => "price"
  | .eta => "eta"

/-- The order with exactly this name. -/
def ofName? (s : String) : Option SortMode := all.find? (fun m => m.name == s)

/-- The order with this name, in whatever ASCII case. -/
def parse? (s : String) : Option SortMode := all.find? (fun m => equalIgnoringAsciiCase m.name s)

/-- The numeric field that an order compares first. -/
def field? : SortMode → Option String
  | .relevance => none
  | .rating => some "rating"
  | .price => some priceField
  | .eta => some "eta"

/-- Whether larger values come first. -/
def isDescending : SortMode → Bool
  | .rating => true
  | _ => false

/-- The order that a text asks for: by relevance for none and a blank one. -/
def ofText (text : Option String) : Except SearchError SortMode :=
  match text.map trim with
  | none => .ok .relevance
  | some name =>
    if name.isEmpty then .ok .relevance
    else
      match parse? name with
      | some mode => .ok mode
      | none => .error (.unknownSortMode name)

end SortMode

/-- How many of the query's tokens a document must have. -/
inductive MatchMode where
  | all
  | any
  deriving DecidableEq, Repr, Inhabited

namespace MatchMode

/-- The name of a match mode. -/
def name : MatchMode → String
  | .all => "all"
  | .any => "any"

/-- The match mode with exactly this name. -/
def ofName? (s : String) : Option MatchMode := [MatchMode.all, .any].find? (fun m => m.name == s)

/-- The match mode with this name, in whatever ASCII case. -/
def parse? (s : String) : Option MatchMode :=
  [MatchMode.all, .any].find? (fun m => equalIgnoringAsciiCase m.name s)

end MatchMode

/-! ## Searches -/

/-- A search as asked for. -/
structure SearchRequest where
  query : String
  entityType : Option String := none
  /-- What fields must hold, by name. -/
  filters : Std.ExtTreeMap String String := ∅
  sort : Option String := none
  matchMode : Option MatchMode := none
  /-- The page, counted from one. -/
  page : Option Int := none
  pageSize : Option Int := none

namespace SearchRequest

/-- A signed integer of 64 bits. -/
def int64? : Json → Option Int := Json.intWithin? Number.int64Least Number.int64Most

/-- A search from JSON. -/
def ofJson? (j : Json) : Option SearchRequest := do
  let query ← j.required "query" Json.text?
  let entityType ← j.optional "type" Json.text?
  let filters ← j.defaulted "filters" (Json.tableOf? Json.text?) []
  let sort ← j.optional "sort" Json.text?
  let matchMode ← j.optional "match_mode" (fun m => m.word? >>= MatchMode.ofName?)
  let page ← j.optional "page" int64?
  let pageSize ← j.optional "page_size" int64?
  some ⟨query, entityType, filters.foldl (fun m (field, value) => m.insert field value) ∅, sort,
    matchMode, page, pageSize⟩

/-- A search inside data. -/
def toJson (r : SearchRequest) : Json :=
  .object
    [("query", .string r.query), ("type", .ofText? r.entityType),
      ("filters", .object (r.filters.toList.map fun (field, value) => (field, .string value))),
      ("sort", .ofText? r.sort), ("match_mode", .ofText? (r.matchMode.map (·.name))),
      ("page", (r.page.map Json.int).getD .null), ("page_size", (r.pageSize.map Json.int).getD .null)]

end SearchRequest

/-! ## Suggestions -/

/-- The beginning of a query to be completed. -/
structure AutocompleteRequest where
  query : String
  entityType : Option String := none
  limit : Option Nat := none

namespace AutocompleteRequest

/-- A request for suggestions from JSON. -/
def ofJson? (j : Json) : Option AutocompleteRequest := do
  let query ← j.required "query" Json.text?
  let entityType ← j.optional "type" Json.text?
  let limit ← j.optional "limit" Json.nat?
  some ⟨query, entityType, limit⟩

/-- A request for suggestions inside data. -/
def toJson (r : AutocompleteRequest) : Json :=
  .object
    [("query", .string r.query), ("type", .ofText? r.entityType),
      ("limit", (r.limit.map Json.nat).getD .null)]

end AutocompleteRequest

/-! ## Callers -/

/-- A caller from JSON. -/
def Caller.ofJson? (j : Json) : Option Caller := do
  if !j.isObject then none
  let user ← j.optional "user_id" Json.text?
  let tenant ← j.optional "tenant_id" Json.text?
  let roles ← j.defaulted "roles" Json.texts? []
  some ⟨user, tenant, roles⟩

end CatalogSearch
