import CatalogSearch.Access.Policy
import CatalogSearch.Error
import CatalogSearch.Number.Integer

/-!
# Settings

Everything an operator can set, with its default, and the settings that a catalog cannot run with.
-/

set_option autoImplicit false

namespace CatalogSearch

/-- What the places of a token in a document are worth. -/
structure RankingWeights where
  title : Float := 3
  description : Float := 1
  /-- The worth of a token among the keywords. -/
  other : Float := 0.5
  /-- Added when the title is the query. -/
  exactTitleBoost : Float := 10
  deriving Inhabited

/-- Settings of searches and suggestions. -/
structure SearchSettings where
  /-- The size of a page when none is asked for. -/
  defaultPageSize : Nat := 10
  maxPageSize : Nat := 100
  /-- The most results on a page for a guest. -/
  guestPageCap : Nat := 10
  autocompleteLimit : Nat := 10
  /-- Shorter texts get no suggestions. -/
  autocompleteMinChars : Nat := 2
  weights : RankingWeights := {}
  /-- From this many matches on, scores are worked out side by side; the order does not depend on it. -/
  parallelScoringThreshold : Nat := 2048
  searchTimeoutMs : Nat := 2000
  lockTimeoutMs : Nat := 250
  /-- Shown in place of a price that is kept back. -/
  pricePlaceholder : String := "Contact for pricing"
  suggestionCacheCapacity : Nat := 10000
  suggestionCacheTtlSecs : Nat := 60
  deriving Inhabited

/-- Settings of feeds and bulk loads. -/
structure IngestionSettings where
  /-- How often a change is tried again while the catalog is unavailable. -/
  maxRetries : Nat := 3
  /-- The wait before the first retry; each later one waits twice as long. -/
  retryBackoffMs : Nat := 100
  channelCapacity : Nat := 1024
  /-- Documents in a batch of a bulk load. -/
  batchSize : Nat := 500
  batchPauseMs : Nat := 50
  /-- Deletions older than this are forgotten. -/
  tombstoneRetentionSecs : Nat := 86400
  /-- Changes between two purges of old deletions; with zero they are purged only at the end. -/
  purgeIntervalEvents : Nat := 10000
  deriving Inhabited

namespace IngestionSettings

/-- The wait before a retry, counted from one: doubled each time up to ten times, and no longer than
64 bits of milliseconds can say. -/
def backoffMs (s : IngestionSettings) (attempt : Nat) : Nat :=
  min (s.retryBackoffMs * Nat.pow 2 (min (attempt - 1) 10)) Number.nat64Most

/-- Whether old deletions are purged after a number of changes. -/
def purgeDue (s : IngestionSettings) (changes : Nat) : Bool :=
  decide (0 < s.purgeIntervalEvents) && decide (0 < changes) &&
    changes % s.purgeIntervalEvents == 0

end IngestionSettings

/-- Settings of logs and counters. -/
structure Observability where
  logLevel : String := "info"
  jsonLogs : Bool := false
  countersEnabled : Bool := true
  deriving Inhabited

/-- All settings. -/
structure Settings where
  search : SearchSettings := {}
  ingestion : IngestionSettings := {}
  observability : Observability := {}
  policy : AccessPolicy := .standard
  deriving Inhabited

namespace Settings

/-- The first setting that a catalog cannot run with. -/
def fault? (s : Settings) : Option ServiceError :=
  if s.search.maxPageSize = 0 then
    some (.configuration "search.max_page_size must be at least 1")
  else if s.search.defaultPageSize = 0 || s.search.maxPageSize < s.search.defaultPageSize then
    some (.configuration ("search.default_page_size must be within 1..=" ++
      FieldValue.intText s.search.maxPageSize))
  else if s.search.guestPageCap = 0 then
    some (.configuration "search.guest_page_cap must be at least 1")
  else if s.search.autocompleteLimit = 0 then
    some (.configuration "search.autocomplete_limit must be at least 1")
  else if s.ingestion.channelCapacity = 0 then
    some (.configuration "ingestion.channel_capacity must be at least 1")
  else none

end Settings

end CatalogSearch
