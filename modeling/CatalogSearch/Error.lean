import CatalogSearch.Catalog.Document

/-!
# Errors

What can go wrong with a search or a write, with a feed of changes, and with the service as a whole.
Each error is a cause; its wording, and whether trying again may help, follow from the cause.
-/

set_option autoImplicit false

namespace CatalogSearch

/-! ## Searches and writes -/

/-- Why a search or a write failed. -/
inductive SearchError where
  /-- The query has no tokens. -/
  | emptyQuery
  | unknownEntityType (text : String)
  /-- A filter names a field that no requested type declares. -/
  | unknownFilterField (entityType field : String)
  /-- A filter names a field that the caller may not read. -/
  | restrictedFilterField (field : String)
  | unknownSortMode (text : String)
  | invalidDocument (fault : DocumentFault)
  | indexUnavailable (reason : String)
  /-- The deadline passed. -/
  | timeout (reason : String)

namespace SearchError

/-- The name of the kind of an error. -/
def kind : SearchError → String
  | .emptyQuery => "empty_query"
  | .unknownEntityType _ => "unknown_entity_type"
  | .unknownFilterField _ _ => "unknown_filter_field"
  | .restrictedFilterField _ => "restricted_filter_field"
  | .unknownSortMode _ => "unknown_sort_mode"
  | .invalidDocument _ => "invalid_document"
  | .indexUnavailable _ => "index_unavailable"
  | .timeout _ => "timeout"

/-- The error in words. -/
def message : SearchError → String
  | .emptyQuery => "Query is empty after tokenization"
  | .unknownEntityType text => "Unknown entity type: " ++ text
  | .unknownFilterField entityType field =>
    "Unknown filter field '" ++ field ++ "' for entity type '" ++ entityType ++ "'"
  | .restrictedFilterField field => "Filtering on restricted field '" ++ field ++ "' is not permitted"
  | .unknownSortMode text => "Unknown sort mode: " ++ text
  | .invalidDocument fault => "Invalid document: " ++ fault.message
  | .indexUnavailable reason => "Index unavailable: " ++ reason
  | .timeout reason => "Search timed out: " ++ reason

/-- Whether the same request may succeed later. -/
def isRetryable : SearchError → Bool
  | .indexUnavailable _ | .timeout _ => true
  | _ => false

/-- Whether the request itself is at fault. -/
def isClientError (e : SearchError) : Bool := !e.isRetryable

/-- Whether a document was at fault. -/
def isInvalidDocument : SearchError → Bool
  | .invalidDocument _ => true
  | _ => false

/-- Nothing can be read or written while the store is offline. -/
def offline : SearchError := .indexUnavailable "index store is offline"

end SearchError

/-! ## The service -/

/-- Why the service as a whole refused or failed. -/
inductive ServiceError where
  | validation (reason : String)
  | configuration (reason : String)
  | io (reason : String)
  | serialization (reason : String)
  | unavailable (reason : String)
  | timeout (reason : String)
  | ingestion (reason : String)
  | internal (reason : String)
  deriving DecidableEq, Repr

namespace ServiceError

/-- The code of an error. -/
def code : ServiceError → String
  | .validation _ => "VALIDATION_ERROR"
  | .configuration _ => "CONFIGURATION_ERROR"
  | .io _ => "IO_ERROR"
  | .serialization _ => "SERIALIZATION_ERROR"
  | .unavailable _ => "UNAVAILABLE"
  | .timeout _ => "TIMEOUT"
  | .ingestion _ => "INGESTION_ERROR"
  | .internal _ => "INTERNAL_ERROR"

/-- The error in words. -/
def message : ServiceError → String
  | .validation reason => "Validation error: " ++ reason
  | .configuration reason => "Configuration error: " ++ reason
  | .io reason => "IO error: " ++ reason
  | .serialization reason => "Serialization error: " ++ reason
  | .unavailable reason => "Service unavailable: " ++ reason
  | .timeout reason => "Operation timed out: " ++ reason
  | .ingestion reason => "Ingestion error: " ++ reason
  | .internal reason => "Internal error: " ++ reason

/-- Whether trying again may help. -/
def isRetryable : ServiceError → Bool
  | .unavailable _ | .timeout _ => true
  | _ => false

/-- What a failed search or write means for the service. -/
def ofSearch (e : SearchError) : ServiceError :=
  match e with
  | .indexUnavailable _ => .unavailable e.message
  | .timeout _ => .timeout e.message
  | _ => .validation e.message

end ServiceError

/-! ## Feeds -/

/-- Why an item of a feed of changes was not applied. -/
inductive FeedError where
  /-- The feed could not be read on. -/
  | unreadable (reason : String)
  /-- An entry is no change. -/
  | malformed (source : String) (line : Nat) (reason : String)
  /-- The catalog refused the change. -/
  | rejected (cause : SearchError)
  /-- The catalog could not take the change however often it was tried. -/
  | retriesExhausted (event : String) (attempts : Nat) (reason : String)

namespace FeedError

/-- The error in words. -/
def message : FeedError → String
  | .unreadable reason => "Feed read failed: " ++ reason
  | .malformed source line reason =>
    "Malformed change event at " ++ source ++ ":" ++ FieldValue.intText line ++ ": " ++ reason
  | .rejected cause => "Change event rejected: " ++ cause.message
  | .retriesExhausted event attempts reason =>
    "Gave up on event " ++ event ++ " after " ++ FieldValue.intText attempts ++ " attempts: " ++
      reason

/-- Whether the rest of the feed can still be applied. -/
def isSkippable : FeedError → Bool
  | .malformed _ _ _ => true
  | .rejected cause => cause.isClientError
  | .unreadable _ | .retriesExhausted _ _ _ => false

end FeedError

/-- What a failed feed means for the service. -/
def ServiceError.ofFeed (e : FeedError) : ServiceError :=
  match e with
  | .unreadable reason => .io reason
  | .rejected cause => .ofSearch cause
  | .retriesExhausted _ _ _ => .unavailable e.message
  | .malformed _ _ _ => .ingestion e.message

end CatalogSearch
