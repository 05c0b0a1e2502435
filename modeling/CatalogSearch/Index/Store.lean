import CatalogSearch.Index.Candidates
import CatalogSearch.Number.Integer

/-!
# The store

Every document lives in one partition, and a directory says in which, or when a key was deleted.
Writes carry a version: a document is replaced by one at least as new, a deletion stands against
every write that is not newer than itself.  So the same writes lead to the same documents in whatever
order they come.
-/

set_option autoImplicit false

namespace CatalogSearch

open CatalogSearch.Time

/-- What became of a document that was to be indexed. -/
inductive UpsertOutcome where
  | inserted
  | updated
  /-- There is something newer, or a deletion at least as new. -/
  | staleWriteIgnored
  deriving DecidableEq, Repr, Inhabited

/-- The name of an outcome. -/
def UpsertOutcome.name : UpsertOutcome → String
  | .inserted => "inserted"
  | .updated => "updated"
  | .staleWriteIgnored => "stale_write_ignored"

/-- What became of a document that was to be deleted. -/
inductive DeleteOutcome where
  | removed
  | alreadyAbsent
  /-- There is something newer. -/
  | staleWriteIgnored
  deriving DecidableEq, Repr, Inhabited

/-- The name of an outcome. -/
def DeleteOutcome.name : DeleteOutcome → String
  | .removed => "removed"
  | .alreadyAbsent => "already_absent"
  | .staleWriteIgnored => "stale_write_ignored"

/-- What the directory knows of a key. -/
inductive DirectoryEntry where
  /-- Its document lives in a partition, in a version. -/
  | live (partition : PartitionKey) (version : Instant)
  /-- It was deleted. -/
  | tombstone (version : Instant)
  deriving DecidableEq, Repr

/-- Whether an entry is of a deleted key. -/
def DirectoryEntry.isTombstone : DirectoryEntry → Bool
  | .live _ _ => false
  | .tombstone _ => true

/-- The index of a catalog. -/
structure Store where
  directory : Std.ExtTreeMap DocumentKey DirectoryEntry := ∅
  /-- Every partition that ever held a document. -/
  partitions : Std.ExtTreeMap PartitionKey Partition := ∅
  available : Bool := true
  /-- The number of writes that changed a document. -/
  generation : Nat := 0

/-- Figures about a store. -/
structure IndexStats where
  documents : Nat
  /-- Partitions that hold documents. -/
  partitions : Nat
  /-- Distinct tokens. -/
  terms : Nat
  tombstones : Nat
  generation : Nat
  available : Bool
  deriving DecidableEq, Repr

namespace Store

instance : Inhabited Store := ⟨{}⟩

/-- A store of nothing. -/
def empty : Store := {}

/-- The store taken offline or brought back. -/
def setAvailable (s : Store) (available : Bool) : Store := { s with available }

/-- Nothing is read or written offline. -/
def ensureAvailable (s : Store) : Except SearchError Unit :=
  if s.available then .ok () else .error .offline

/-- The partition under a key. -/
def partition (s : Store) (key : PartitionKey) : Partition := s.partitions[key]?.getD {}

/-- The store with a partition changed. -/
def onPartition (s : Store) (key : PartitionKey) (f : Partition → Partition) : Store :=
  { s with partitions := s.partitions.alter key fun p => some (f (p.getD {})) }

/-! ## Writing -/

/-- The store with a document placed under its key and out of the partition it lived in before. -/
def place (s : Store) (key : DocumentKey) (d : Document) (previous : Option PartitionKey) : Store :=
  let target := PartitionKey.ofDocument d
  let s :=
    match previous with
    | some source => if source = target then s else s.onPartition source (·.remove key)
    | none => s
  let s := s.onPartition target (·.insert key ⟨d, .ofDocument d⟩)
  { s with
    directory := s.directory.insert key (.live target d.updatedAt)
    generation := s.generation + 1 }

/-- Index a document in place of an older version.  A write older than the document there, or not
newer than the deletion there, changes nothing. -/
def upsert (s : Store) (document : Document) : Except SearchError (UpsertOutcome × Store) := do
  s.ensureAvailable
  let d := document.resolved
  if let some fault := d.fault? then throw (.invalidDocument fault)
  let key := d.key
  match s.directory[key]? with
  | some (.live source version) =>
    if d.updatedAt < version then return (.staleWriteIgnored, s)
    else return (.updated, s.place key d (some source))
  | some (.tombstone version) =>
    if d.updatedAt ≤ version then return (.staleWriteIgnored, s)
    else return (.inserted, s.place key d none)
  | none => return (.inserted, s.place key d none)

/-- The store with a deletion noted under a key. -/
def bury (s : Store) (key : DocumentKey) (version : Instant) : Store :=
  { s with directory := s.directory.insert key (.tombstone version) }

/-- Delete a document unless it is newer than the deletion.  The deletion is noted also when there is
nothing to delete, so that an older write that comes later does not bring the document back. -/
def delete (s : Store) (key : DocumentKey) (deletedAt : Instant) :
    Except SearchError (DeleteOutcome × Store) := do
  s.ensureAvailable
  let key := DocumentKey.resolve key.tenant key.entityType key.id
  match s.directory[key]? with
  | some (.live partition version) =>
    if deletedAt < version then return (.staleWriteIgnored, s)
    else
      let s := (s.onPartition partition (·.remove key)).bury key deletedAt
      return (.removed, { s with generation := s.generation + 1 })
  | some (.tombstone version) =>
    if version < deletedAt then return (.alreadyAbsent, s.bury key deletedAt)
    else return (.alreadyAbsent, s)
  | none => return (.alreadyAbsent, s.bury key deletedAt)

/-- Whether a directory entry notes a deletion before a cutoff. -/
def isPurged (cutoff : Instant) : DirectoryEntry → Bool
  | .live _ _ => false
  | .tombstone version => decide (version < cutoff)

/-- Forget the deletions before a cutoff; their number comes with the store. -/
def purge (s : Store) (cutoff : Instant) : Nat × Store :=
  let kept := s.directory.filter fun _ entry => !isPurged cutoff entry
  (s.directory.size - kept.size, { s with directory := kept })

/-! ## Reading -/

/-- The document under a key, which is taken as written. -/
def get (s : Store) (key : DocumentKey) : Except SearchError (Option Document) := do
  s.ensureAvailable
  match s.directory[key]? with
  | some (.live partition _) =>
    return ((s.partition partition).documents[key]?).map (·.document)
  | _ => return none

/-- The partitions of some types that a scope admits, in order. -/
def visiblePartitions (s : Store) (types : List EntityType) (scope : TenantScope) :
    List Partition :=
  (s.partitions.toList.filter fun (key, _) =>
    types.contains key.entityType && scope.admitsPartition key.scope).map (·.2)

/-- The matches of a plan in one partition. -/
def candidatesIn (plan : QueryPlan) (p : Partition) : List Candidate :=
  (p.matching plan.tokens plan.matchMode).filterMap fun key =>
    match p.documents[key]? with
    | some indexed =>
      if plan.matchesFilters indexed.document then
        some ⟨indexed.document, plan.tokens.map (p.posting · key)⟩
      else none
    | none => none

/-- The matches of a plan in the partitions that its caller may find. -/
def lookup (s : Store) (plan : QueryPlan) : Except SearchError CandidateSet := do
  s.ensureAvailable
  let partitions := s.visiblePartitions plan.types plan.view.scope
  return {
    tokens := plan.tokens
    documentFrequency := plan.tokens.map fun t =>
      Number.total (partitions.map fun p => (p.postingList t).size)
    population := Number.total (partitions.map fun p => p.documents.size)
    candidates := partitions.flatMap (candidatesIn plan)
  }

/-- The suggested terms that begin with the given text, with the number of documents that have each,
in the partitions that a scope admits. -/
def suggest (s : Store) (types : List EntityType) (scope : TenantScope) (start : String) :
    Except SearchError TermCounts := do
  s.ensureAvailable
  let found := (s.visiblePartitions types scope).flatMap (·.suggestions.startingWith start)
  return ⟨found.foldl (fun m (t, n) => m.alter t fun k => some (k.getD 0 + n)) ∅⟩

/-- Figures about the store. -/
def stats (s : Store) : IndexStats where
  documents := Number.total (s.partitions.toList.map fun (_, p) => p.documents.size)
  partitions := s.partitions.toList.countP fun (_, p) => !p.documents.isEmpty
  terms := (s.partitions.toList.foldl
    (fun terms (_, p) => p.postings.keys.foldl (·.insert ·) terms) (∅ : NameSet)).size
  tombstones := s.directory.toList.countP fun (_, entry) => entry.isTombstone
  generation := s.generation
  available := s.available

/-- The store in a few words. -/
def summary (s : Store) : String :=
  "IndexStore \x7b keys: " ++ FieldValue.intText s.directory.size ++ ", partitions: " ++
    FieldValue.intText s.partitions.size ++ ", generation: " ++ FieldValue.intText s.generation ++
    ", available: " ++ FieldValue.boolText s.available ++ " \x7d"

end Store

end CatalogSearch
