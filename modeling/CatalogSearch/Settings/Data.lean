import CatalogSearch.Catalog.Data
import CatalogSearch.Json.Shape
import CatalogSearch.Number.Integer
import CatalogSearch.Settings.Basic

/-!
# Settings as data

Settings are read by one set of rules from any source of values that says how it reads truth values,
numbers, texts, lists and tables: strictly from JSON, leniently from layered configuration.  Every
setting has a default; settings that nobody knows are ignored.  Settings that belong together form a
group, which layered configuration may also give as a list in the order in which it is written.
-/

set_option autoImplicit false

namespace CatalogSearch

/-! ## Writing -/

/-- A number among settings. -/
def floatJson (x : Float) : Json := (FieldValue.number x).toJson

/-- Ranking weights inside data. -/
def RankingWeights.toJson (w : RankingWeights) : Json :=
  .object
    [("title", floatJson w.title), ("description", floatJson w.description),
      ("other", floatJson w.other), ("exact_title_boost", floatJson w.exactTitleBoost)]

/-- Settings of searches inside data. -/
def SearchSettings.toJson (s : SearchSettings) : Json :=
  .object
    [("default_page_size", .nat s.defaultPageSize), ("max_page_size", .nat s.maxPageSize),
      ("guest_page_cap", .nat s.guestPageCap), ("autocomplete_limit", .nat s.autocompleteLimit),
      ("autocomplete_min_chars", .nat s.autocompleteMinChars), ("weights", s.weights.toJson),
      ("parallel_scoring_threshold", .nat s.parallelScoringThreshold),
      ("search_timeout_ms", .nat s.searchTimeoutMs), ("lock_timeout_ms", .nat s.lockTimeoutMs),
      ("price_placeholder", .string s.pricePlaceholder),
      ("suggestion_cache_capacity", .nat s.suggestionCacheCapacity),
      ("suggestion_cache_ttl_secs", .nat s.suggestionCacheTtlSecs)]

/-- Settings of feeds inside data. -/
def IngestionSettings.toJson (s : IngestionSettings) : Json :=
  .object
    [("max_retries", .nat s.maxRetries), ("retry_backoff_ms", .nat s.retryBackoffMs),
      ("channel_capacity", .nat s.channelCapacity), ("batch_size", .nat s.batchSize),
      ("batch_pause_ms", .nat s.batchPauseMs),
      ("tombstone_retention_secs", .nat s.tombstoneRetentionSecs),
      ("purge_interval_events", .nat s.purgeIntervalEvents)]

/-- Settings of logs and counters inside data. -/
def Observability.toJson (s : Observability) : Json :=
  .object
    [("log_level", .string s.logLevel), ("json_logs", .bool s.jsonLogs),
      ("prometheus_enabled", .bool s.countersEnabled)]

/-- A role's grant inside data. -/
def RoleGrant.toJson (g : RoleGrant) : Json :=
  .object [("global_read", .bool g.globalRead), ("permissions", .strings g.permissions)]

/-- A policy inside data, its roles in order of name. -/
def AccessPolicy.toJson (p : AccessPolicy) : Json :=
  .object [("roles", .object (p.roles.toList.map fun (name, g) => (name, g.toJson)))]

/-- All settings inside data. -/
def Settings.toJson (s : Settings) : Json :=
  .object
    [("search", s.search.toJson), ("ingestion", s.ingestion.toJson),
      ("observability", s.observability.toJson), ("policy", s.policy.toJson)]

/-! ## Reading -/

/-- How settings are read from values of a type. -/
structure SettingSource (ν : Type) where
  bool? : ν → Option Bool
  /-- A natural number of 64 bits. -/
  nat? : ν → Option Nat
  /-- A natural number of 32 bits. -/
  nat32? : ν → Option Nat
  float? : ν → Option Float
  text? : ν → Option String
  items? : ν → Option (List ν)
  table? : ν → Option (List (String × ν))
  /-- The settings of a group by name; the names it knows are given in order. -/
  group? : List String → ν → Option (List (String × ν))

namespace SettingSource

variable {ν α : Type}

/-- JSON, in which every setting must have its own type. -/
def json : SettingSource Json where
  bool? := Json.bool?
  nat? := Json.nat?
  nat32? := Json.natWithin? Number.nat32Most
  float? := Json.float?
  text? := Json.text?
  items? := Json.items?
  table? := Json.members?
  group? _ := Json.members?

/-- The names of the settings of a group, in the order in which they are written. -/
def namesIn (group : Json) : List String := (group.members?.getD []).map (·.1)

/-- A setting of a group, or its default when it is not set. -/
def get (table : List (String × ν)) (name : String) (read : ν → Option α) (default : α) :
    Option α :=
  match table.find? (fun m => m.1 == name) with
  | none => some default
  | some (_, value) => read value

/-- Ranking weights. -/
def weights? (src : SettingSource ν) (v : ν) : Option RankingWeights := do
  let d : RankingWeights := {}
  let t ← src.group? (namesIn d.toJson) v
  let title ← get t "title" src.float? d.title
  let description ← get t "description" src.float? d.description
  let other ← get t "other" src.float? d.other
  let exactTitleBoost ← get t "exact_title_boost" src.float? d.exactTitleBoost
  some ⟨title, description, other, exactTitleBoost⟩

/-- Settings of searches. -/
def search? (src : SettingSource ν) (v : ν) : Option SearchSettings := do
  let d : SearchSettings := {}
  let t ← src.group? (namesIn d.toJson) v
  let defaultPageSize ← get t "default_page_size" src.nat? d.defaultPageSize
  let maxPageSize ← get t "max_page_size" src.nat? d.maxPageSize
  let guestPageCap ← get t "guest_page_cap" src.nat? d.guestPageCap
  let autocompleteLimit ← get t "autocomplete_limit" src.nat? d.autocompleteLimit
  let autocompleteMinChars ← get t "autocomplete_min_chars" src.nat? d.autocompleteMinChars
  let weights ← get t "weights" src.weights? d.weights
  let parallelScoringThreshold ←
    get t "parallel_scoring_threshold" src.nat? d.parallelScoringThreshold
  let searchTimeoutMs ← get t "search_timeout_ms" src.nat? d.searchTimeoutMs
  let lockTimeoutMs ← get t "lock_timeout_ms" src.nat? d.lockTimeoutMs
  let pricePlaceholder ← get t "price_placeholder" src.text? d.pricePlaceholder
  let suggestionCacheCapacity ←
    get t "suggestion_cache_capacity" src.nat? d.suggestionCacheCapacity
  let suggestionCacheTtlSecs ← get t "suggestion_cache_ttl_secs" src.nat? d.suggestionCacheTtlSecs
  some ⟨defaultPageSize, maxPageSize, guestPageCap, autocompleteLimit, autocompleteMinChars, weights,
    parallelScoringThreshold, searchTimeoutMs, lockTimeoutMs, pricePlaceholder,
    suggestionCacheCapacity, suggestionCacheTtlSecs⟩

/-- Settings of feeds. -/
def ingestion? (src : SettingSource ν) (v : ν) : Option IngestionSettings := do
  let d : IngestionSettings := {}
  let t ← src.group? (namesIn d.toJson) v
  let maxRetries ← get t "max_retries" src.nat32? d.maxRetries
  let retryBackoffMs ← get t "retry_backoff_ms" src.nat? d.retryBackoffMs
  let channelCapacity ← get t "channel_capacity" src.nat? d.channelCapacity
  let batchSize ← get t "batch_size" src.nat? d.batchSize
  let batchPauseMs ← get t "batch_pause_ms" src.nat? d.batchPauseMs
  let tombstoneRetentionSecs ← get t "tombstone_retention_secs" src.nat? d.tombstoneRetentionSecs
  let purgeIntervalEvents ← get t "purge_interval_events" src.nat? d.purgeIntervalEvents
  some ⟨maxRetries, retryBackoffMs, channelCapacity, batchSize, batchPauseMs,
    tombstoneRetentionSecs, purgeIntervalEvents⟩

/-- Settings of logs and counters. -/
def observability? (src : SettingSource ν) (v : ν) : Option Observability := do
  let d : Observability := {}
  let t ← src.group? (namesIn d.toJson) v
  let logLevel ← get t "log_level" src.text? d.logLevel
  let jsonLogs ← get t "json_logs" src.bool? d.jsonLogs
  let countersEnabled ← get t "prometheus_enabled" src.bool? d.countersEnabled
  some ⟨logLevel, jsonLogs, countersEnabled⟩

/-- A role's grant. -/
def grant? (src : SettingSource ν) (v : ν) : Option RoleGrant := do
  let d : RoleGrant := {}
  let t ← src.group? (namesIn d.toJson) v
  let globalRead ← get t "global_read" src.bool? d.globalRead
  let permissions ← get t "permissions" (fun p => src.items? p >>= (·.mapM src.text?)) d.permissions
  some ⟨globalRead, permissions⟩

/-- An access policy, with the names of its roles as written. -/
def policy? (src : SettingSource ν) (v : ν) : Option AccessPolicy := do
  let d := AccessPolicy.standard
  let t ← src.group? (namesIn d.toJson) v
  let roles ← get t "roles"
    (fun r => do
      let entries ← src.table? r
      entries.foldlM (fun m (name, g) => (src.grant? g).map (m.insert name ·)) ∅)
    d.roles
  some ⟨roles⟩

/-- All settings. -/
def settings? (src : SettingSource ν) (v : ν) : Option Settings := do
  let d : Settings := {}
  let t ← src.group? (namesIn d.toJson) v
  let search ← get t "search" src.search? d.search
  let ingestion ← get t "ingestion" src.ingestion? d.ingestion
  let observability ← get t "observability" src.observability? d.observability
  let policy ← get t "policy" src.policy? d.policy
  some ⟨search, ingestion, observability, policy⟩

end SettingSource

end CatalogSearch
