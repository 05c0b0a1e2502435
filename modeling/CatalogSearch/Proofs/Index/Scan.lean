import CatalogSearch.Proofs.Collections.Related
import CatalogSearch.Proofs.Index.KeyState
import Mathlib.Data.List.Nodup

/-!
# Lookups are scans

The index answers from posting lists and counts.  A consistent one answers as a scan of the documents
that a scope admits would: every document is asked whether it has the tokens, and the figures about a
token are counted over the documents.
-/

set_option autoImplicit false

namespace CatalogSearch

/-! ## Scanning documents -/

/-- Whether a document has the tokens of a query: all of them, of which there must be one, or any. -/
def Document.matchesTokens (d : Document) (tokens : List String) : MatchMode → Bool
  | .all => !tokens.isEmpty && tokens.all d.hasToken
  | .any => tokens.any d.hasToken

/-- What a document is to a plan, if it matches. -/
def QueryPlan.candidate? (plan : QueryPlan) (d : Document) : Option Candidate :=
  if d.matchesTokens plan.tokens plan.matchMode && plan.matchesFilters d then
    some ⟨d, plan.tokens.map d.occurrences⟩
  else none

/-- The matches of a plan in a list of documents. -/
def QueryPlan.scan (plan : QueryPlan) (documents : List Document) : CandidateSet where
  tokens := plan.tokens
  documentFrequency := plan.tokens.map fun t => documents.countP (·.hasToken t)
  population := documents.length
  candidates := documents.filterMap plan.candidate?

/-- The documents of the matches are those that match, in the order in which they were listed. -/
theorem QueryPlan.map_document_scan (plan : QueryPlan) (ds : List Document) :
    (plan.scan ds).candidates.map (·.document) =
      ds.filter fun d => d.matchesTokens plan.tokens plan.matchMode && plan.matchesFilters d := by
  have hcandidates : (plan.scan ds).candidates = ds.filterMap plan.candidate? := rfl
  rw [hcandidates, List.map_filterMap, ← List.filterMap_eq_filter]
  refine List.filterMap_congr ?_
  intro d _
  simp only [candidate?, Option.guard]
  split
  · rfl
  · rfl

theorem Number.total_eq_sum (l : List Nat) : Number.total l = l.sum := by
  induction l with
  | nil => rfl
  | cons n rest ih => rw [Number.total, ih, List.sum_cons]

/-! ## One partition -/

namespace Partition

/-- The documents of a partition, in order of key. -/
def contents (p : Partition) : List Document := p.documents.toList.map (·.2.document)

variable {p : Partition}

/-- The posting list of a token is of the documents that have it. -/
theorem mem_postingList (hp : p.Consistent) (t : String) (key : DocumentKey) :
    key ∈ p.postingList t ↔
      ∃ x, p.documents[key]? = some x ∧ x.document.hasToken t = true := by
  rw [Std.ExtTreeMap.mem_iff_isSome_getElem?, hp.postings]
  cases p.documents[key]? with
  | none => simp
  | some x => simp [Document.isSome_posting?]

theorem keys_postingList (hp : p.Consistent) (t : String) :
    (p.postingList t).keys =
      (p.documents.toList.filter fun e => e.2.document.hasToken t).map (·.1) := by
  refine OrderedMap.eq_keys_of_entries _ (p.postingList t).ordered_keys ?_
  intro key
  rw [Std.ExtTreeMap.mem_keys, mem_postingList hp]

theorem size_postingList (hp : p.Consistent) (t : String) :
    (p.postingList t).size = p.contents.countP (·.hasToken t) := by
  rw [← Std.ExtTreeMap.length_keys, keys_postingList hp, List.length_map, contents,
    List.countP_map, List.countP_eq_length_filter]
  rfl

theorem size_documents (p : Partition) : p.documents.size = p.contents.length := by
  rw [contents, List.length_map, Std.ExtTreeMap.length_toList]

/-- What is in the rarest posting list and in all the others is in every one. -/
theorem mem_keysWithAll (p : Partition) (tokens : List String) (key : DocumentKey) :
    key ∈ p.keysWithAll tokens ↔ tokens ≠ [] ∧ ∀ t ∈ tokens, key ∈ p.postingList t := by
  have hsorted : ∀ list,
      list ∈ (tokens.map p.postingList).mergeSort (fun a b => decide (a.size ≤ b.size)) ↔
        ∃ t ∈ tokens, p.postingList t = list := by
    intro list
    rw [List.mem_mergeSort, List.mem_map]
  have hlength : ((tokens.map p.postingList).mergeSort
      fun a b => decide (a.size ≤ b.size)).length = tokens.length := by
    rw [List.length_mergeSort, List.length_map]
  unfold keysWithAll
  cases hlists : (tokens.map p.postingList).mergeSort fun a b => decide (a.size ≤ b.size) with
  | nil =>
    rw [hlists] at hlength
    have hnil : tokens = [] := List.eq_nil_of_length_eq_zero hlength.symm
    simp [hnil]
  | cons rarest rest =>
    have hne : tokens ≠ [] := by
      rintro rfl
      rw [hlists] at hlength
      cases hlength
    rw [hlists] at hsorted
    simp only [List.mem_filter, Std.ExtTreeMap.mem_keys, List.all_eq_true, ne_eq, hne,
      not_false_eq_true, true_and]
    constructor
    · rintro ⟨hfirst, hrest⟩ t ht
      rcases List.mem_cons.mp ((hsorted _).mpr ⟨t, ht, rfl⟩) with hlist | hlist
      · rwa [hlist]
      · exact hrest _ hlist
    · intro hall
      have hmem : ∀ list ∈ rarest :: rest, key ∈ list := by
        intro list hlist
        obtain ⟨t, ht, rfl⟩ := (hsorted list).mp hlist
        exact hall t ht
      exact ⟨hmem rarest List.mem_cons_self,
        fun list hlist => hmem list (List.mem_cons_of_mem _ hlist)⟩

/-- What is in one of the posting lists is gathered. -/
theorem mem_keysWithAny (p : Partition) (tokens : List String) (key : DocumentKey) :
    key ∈ p.keysWithAny tokens ↔ ∃ t ∈ tokens, key ∈ p.postingList t := by
  rw [keysWithAny, Std.ExtTreeSet.mem_toList, OrderedMap.mem_foldl_foldl_insert]
  simp only [Std.ExtTreeSet.not_mem_empty, false_or, List.mem_map, Std.ExtTreeMap.mem_keys]
  constructor
  · rintro ⟨_, ⟨t, ht, rfl⟩, hkey⟩
    exact ⟨t, ht, hkey⟩
  · rintro ⟨t, ht, hkey⟩
    exact ⟨_, ⟨t, ht, rfl⟩, hkey⟩

theorem ordered_matching (p : Partition) (tokens : List String) (mode : MatchMode) :
    (p.matching tokens mode).Pairwise fun a b => compare a b = .lt := by
  cases mode with
  | all =>
    simp only [matching, keysWithAll]
    split
    · exact List.Pairwise.nil
    · rename_i rarest rest _
      exact rarest.ordered_keys.filter _
  | any => exact Std.ExtTreeSet.ordered_toList

/-- The keys found through the posting lists are those of the documents that have the tokens. -/
theorem matching_eq (hp : p.Consistent) (tokens : List String) (mode : MatchMode) :
    p.matching tokens mode =
      (p.documents.toList.filter fun e => e.2.document.matchesTokens tokens mode).map (·.1) := by
  refine OrderedMap.eq_keys_of_entries _ (p.ordered_matching tokens mode) ?_
  intro key
  cases mode with
  | all =>
    simp only [matching, mem_keysWithAll, mem_postingList hp, Document.matchesTokens,
      Bool.and_eq_true, Bool.not_eq_true', List.isEmpty_eq_false_iff, List.all_eq_true]
    constructor
    · rintro ⟨hne, hall⟩
      obtain ⟨t, ht⟩ := List.exists_mem_of_ne_nil tokens hne
      obtain ⟨x, hx, _⟩ := hall t ht
      refine ⟨x, hx, hne, fun other hother => ?_⟩
      obtain ⟨y, hy, htoken⟩ := hall other hother
      rw [hx] at hy
      cases hy
      exact htoken
    · rintro ⟨x, hx, hne, hall⟩
      exact ⟨hne, fun t ht => ⟨x, hx, hall t ht⟩⟩
  | any =>
    simp only [matching, mem_keysWithAny, mem_postingList hp, Document.matchesTokens,
      List.any_eq_true]
    constructor
    · rintro ⟨t, ht, x, hx, htoken⟩
      exact ⟨x, hx, t, ht, htoken⟩
    · rintro ⟨x, hx, t, ht, htoken⟩
      exact ⟨t, ht, x, hx, htoken⟩

/-- A posting is of the occurrences of its token, also of none. -/
theorem posting_eq (hp : p.Consistent) {key : DocumentKey} {x : IndexedDocument}
    (hx : p.documents[key]? = some x) (t : String) :
    p.posting t key = x.document.occurrences t := by
  rw [posting, hp.postings, hx, Option.bind_some, Document.getD_posting?]

end Partition

/-- The matches of a plan in a partition are those among its documents. -/
theorem Store.candidatesIn_eq {p : Partition} (hp : p.Consistent) (plan : QueryPlan) :
    candidatesIn plan p = p.contents.filterMap plan.candidate? := by
  rw [candidatesIn, Partition.matching_eq hp, List.filterMap_map, List.filterMap_filter,
    Partition.contents, List.filterMap_map]
  refine List.filterMap_congr ?_
  rintro ⟨key, x⟩ he
  have hx : p.documents[key]? = some x := Std.ExtTreeMap.mem_toList_iff_getElem?_eq_some.mp he
  simp only [Function.comp_apply, hx, QueryPlan.candidate?, Bool.and_eq_true,
    Partition.posting_eq hp hx]
  by_cases hmatches : x.document.matchesTokens plan.tokens plan.matchMode = true
  · simp only [hmatches, if_true, true_and]
  · simp only [hmatches, if_false, false_and, Bool.false_eq_true]

/-! ## The documents that are found -/

/-- Where a document stands: its partition and its key. -/
def Document.address (d : Document) : PartitionKey × DocumentKey := (PartitionKey.ofDocument d, d.key)

/-- The order in which documents are found: by partition, then by key. -/
def ComesBefore (a b : PartitionKey × DocumentKey) : Prop :=
  compare a.1 b.1 = .lt ∨ a.1 = b.1 ∧ compare a.2 b.2 = .lt

theorem comesBefore_asymm (a b : PartitionKey × DocumentKey) (h : ComesBefore a b) :
    ¬ ComesBefore b a := by
  rintro (h' | ⟨hsame, h'⟩)
  · rcases h with h | ⟨hsame, _⟩
    · exact Std.OrientedCmp.not_lt_of_lt h h'
    · rw [hsame] at h'
      exact Std.OrientedCmp.not_lt_of_lt h' h'
  · rcases h with h | ⟨_, h⟩
    · rw [hsame] at h
      exact Std.OrientedCmp.not_lt_of_lt h h
    · exact Std.OrientedCmp.not_lt_of_lt h h'

namespace Store

/-- The documents of some types that a scope admits, in the order in which they are found. -/
def found (s : Store) (types : List EntityType) (scope : TenantScope) : List Document :=
  (s.visiblePartitions types scope).flatMap Partition.contents

variable {s s' : Store} {types : List EntityType} {scope : TenantScope}

theorem partition_of_mem {place : PartitionKey} {p : Partition}
    (h : (place, p) ∈ s.partitions.toList) : s.partition place = p := by
  rw [partition, Std.ExtTreeMap.mem_toList_iff_getElem?_eq_some.mp h, Option.getD_some]

/-- A partition that is visible is one that the store has. -/
theorem mem_visiblePartitions {p : Partition} (h : p ∈ s.visiblePartitions types scope) :
    ∃ place, s.partition place = p ∧ types.contains place.entityType = true ∧
      scope.admitsPartition place.scope = true := by
  obtain ⟨⟨place, q⟩, he, rfl⟩ := List.mem_map.mp h
  obtain ⟨hmem, hvisible⟩ := List.mem_filter.mp he
  rw [Bool.and_eq_true] at hvisible
  exact ⟨place, partition_of_mem hmem, hvisible⟩

theorem Consistent.of_visible (hs : s.Consistent) {p : Partition}
    (h : p ∈ s.visiblePartitions types scope) : p.Consistent := by
  obtain ⟨place, rfl, _⟩ := mem_visiblePartitions h
  exact hs.partitions place

/-- A document that a partition holds is among those of a partition that the store has. -/
theorem mem_partitions_of_document {place : PartitionKey} {key : DocumentKey}
    {x : IndexedDocument} (h : (s.partition place).documents[key]? = some x) :
    (place, s.partition place) ∈ s.partitions.toList := by
  rw [Std.ExtTreeMap.mem_toList_iff_getElem?_eq_some]
  unfold partition at h ⊢
  cases hplace : s.partitions[place]? with
  | none =>
    rw [hplace] at h
    simp at h
  | some p => rfl

/-- What is found is what is live, of one of the types and admitted by the scope. -/
theorem Consistent.mem_found (hs : s.Consistent) (d : Document) :
    d ∈ s.found types scope ↔
      s.live? d.key = some d ∧ types.contains d.entityType = true ∧ scope.admits d = true := by
  constructor
  · intro h
    obtain ⟨p, hp, hd⟩ := List.mem_flatMap.mp h
    obtain ⟨place, rfl, hvisible⟩ := mem_visiblePartitions hp
    obtain ⟨⟨key, x⟩, he, rfl⟩ := List.mem_map.mp hd
    have hx := Std.ExtTreeMap.mem_toList_iff_getElem?_eq_some.mp he
    obtain ⟨hlive, hplace, _⟩ := (hs.documents_eq_some_iff place key x).mp hx
    have hkey := hs.key_of_live hlive
    rw [← hplace] at hvisible
    exact ⟨by rw [hkey]; exact hlive, hvisible⟩
  · rintro ⟨hlive, htype, hscope⟩
    have hx := (hs.documents_eq_some_iff (PartitionKey.ofDocument d) d.key
      ⟨d, .ofDocument d⟩).mpr ⟨hlive, rfl, rfl⟩
    refine List.mem_flatMap.mpr ⟨s.partition (PartitionKey.ofDocument d), ?_, ?_⟩
    · refine List.mem_map.mpr ⟨(PartitionKey.ofDocument d, _), ?_, rfl⟩
      refine List.mem_filter.mpr ⟨mem_partitions_of_document hx, ?_⟩
      rw [Bool.and_eq_true]
      exact ⟨htype, hscope⟩
    · exact List.mem_map.mpr ⟨_, Std.ExtTreeMap.mem_toList_iff_getElem?_eq_some.mpr hx, rfl⟩

/-- A document stands in its partition, under its own key. -/
theorem Consistent.place_of_mem (hs : s.Consistent) {e : PartitionKey × Partition}
    (he : e ∈ s.partitions.toList) {x : DocumentKey × IndexedDocument}
    (hx : x ∈ e.2.documents.toList) :
    x.2.document.key = x.1 ∧ PartitionKey.ofDocument x.2.document = e.1 := by
  rw [Std.ExtTreeMap.mem_toList_iff_getElem?_eq_some, ← partition_of_mem he] at hx
  obtain ⟨hkey, hplace, _⟩ := hs.documents e.1 x.1 x.2 hx
  exact ⟨hkey, hplace⟩

/-- Documents are found partition by partition, and in each by key. -/
theorem Consistent.ordered_found (hs : s.Consistent) :
    ((s.found types scope).map Document.address).Pairwise ComesBefore := by
  rw [List.pairwise_map, found, visiblePartitions, List.flatMap_map, List.pairwise_flatMap]
  constructor
  · intro e he
    have hmem := List.mem_of_mem_filter he
    rw [Partition.contents, List.pairwise_map]
    refine e.2.documents.ordered_keys_toList.imp_of_mem ?_
    intro x y hx hy hlt
    obtain ⟨hxkey, hxplace⟩ := hs.place_of_mem hmem hx
    obtain ⟨hykey, hyplace⟩ := hs.place_of_mem hmem hy
    right
    rw [Document.address, Document.address, hxplace, hyplace, hxkey, hykey]
    exact ⟨rfl, hlt⟩
  · refine (s.partitions.ordered_keys_toList.filter _).imp_of_mem ?_
    intro e f he hf hlt a ha b hb
    obtain ⟨x, hx, rfl⟩ := List.mem_map.mp ha
    obtain ⟨y, hy, rfl⟩ := List.mem_map.mp hb
    left
    rw [Document.address, Document.address, (hs.place_of_mem (List.mem_of_mem_filter he) hx).2,
      (hs.place_of_mem (List.mem_of_mem_filter hf) hy).2]
    exact hlt

/-- Every key is found once. -/
theorem Consistent.nodup_keys_found (hs : s.Consistent) :
    ((s.found types scope).map Document.key).Nodup := by
  have hordered : ((s.found types scope).map Document.address).Pairwise ComesBefore :=
    hs.ordered_found
  rw [List.pairwise_map] at hordered
  refine List.pairwise_map.mpr (hordered.imp_of_mem ?_)
  intro d d' hd hd' hbefore hkey
  have hlive := ((hs.mem_found d).mp hd).1
  rw [hkey, ((hs.mem_found d').mp hd').1] at hlive
  rw [Option.some.inj hlive] at hbefore
  exact comesBefore_asymm _ _ hbefore hbefore

/-- What two stores find is related document by document, if each document found in one is related to
one found in the other in the same place. -/
theorem forall₂_found (hs : s.Consistent) (hs' : s'.Consistent) {R : Document → Document → Prop}
    (haddress : ∀ d d', R d d' → d.address = d'.address)
    (hleft : ∀ d ∈ s.found types scope, ∃ d' ∈ s'.found types scope, R d d')
    (hright : ∀ d' ∈ s'.found types scope, ∃ d ∈ s.found types scope, R d d') :
    List.Forall₂ R (s.found types scope) (s'.found types scope) := by
  have hunique : ∀ d ∈ s'.found types scope, ∀ d' ∈ s'.found types scope,
      d.address = d'.address → d = d' := by
    intro d hd d' hd' hsame
    have hlive := (hs'.mem_found d).mp hd
    have hlive' := (hs'.mem_found d').mp hd'
    have hkey : d.key = d'.key := congrArg Prod.snd hsame
    rw [hkey] at hlive
    exact Option.some.inj (hlive.1.symm.trans hlive'.1)
  have hmap : (s.found types scope).map Document.address =
      (s'.found types scope).map Document.address := by
    refine OrderedMap.eq_of_ordered comesBefore_asymm hs.ordered_found hs'.ordered_found ?_
    intro a
    rw [List.mem_map, List.mem_map]
    constructor
    · rintro ⟨d, hd, rfl⟩
      obtain ⟨d', hd', hR⟩ := hleft d hd
      exact ⟨d', hd', (haddress d d' hR).symm⟩
    · rintro ⟨d', hd', rfl⟩
      obtain ⟨d, hd, hR⟩ := hright d' hd'
      exact ⟨d, hd, haddress d d' hR⟩
  refine Related.of_map_eq hmap ?_
  intro d hd d' hd' hsame
  obtain ⟨other, hother, hR⟩ := hleft d hd
  rwa [hunique d' hd' other hother (hsame.symm.trans (haddress d other hR))]

/-- Stores with the same live documents, as far as a scope admits them, find the same. -/
theorem found_eq (hs : s.Consistent) (hs' : s'.Consistent)
    (hlive : ∀ key d, scope.admits d = true → (s.live? key = some d ↔ s'.live? key = some d)) :
    s.found types scope = s'.found types scope := by
  have hmem : ∀ d, d ∈ s.found types scope ↔ d ∈ s'.found types scope := by
    intro d
    rw [hs.mem_found, hs'.mem_found]
    constructor
    · rintro ⟨h, htype, hscope⟩
      exact ⟨(hlive d.key d hscope).mp h, htype, hscope⟩
    · rintro ⟨h, htype, hscope⟩
      exact ⟨(hlive d.key d hscope).mpr h, htype, hscope⟩
  have hrelated : List.Forall₂ Eq (s.found types scope) (s'.found types scope) :=
    forall₂_found hs hs' (fun _ _ h => congrArg Document.address h)
      (fun d hd => ⟨d, (hmem d).mp hd, rfl⟩) (fun d hd => ⟨d, (hmem d).mpr hd, rfl⟩)
  rwa [List.forall₂_eq_eq_eq] at hrelated

/-! ## Lookups and suggestions -/

theorem length_found (s : Store) (types : List EntityType) (scope : TenantScope) :
    (s.found types scope).length =
      Number.total ((s.visiblePartitions types scope).map fun p => p.documents.size) := by
  rw [found, List.length_flatMap, Number.total_eq_sum]
  congr 1
  exact List.map_congr_left fun p _ => p.size_documents.symm

/-- A lookup finds what a scan of the documents finds that its caller may find. -/
theorem lookup_eq_scan (hs : s.Consistent) (hon : s.available = true) (plan : QueryPlan) :
    s.lookup plan = .ok (plan.scan (s.found plan.types plan.view.scope)) := by
  have hfrequency : ∀ t, Number.total ((s.visiblePartitions plan.types plan.view.scope).map
      fun p => (p.postingList t).size) =
        (s.found plan.types plan.view.scope).countP (·.hasToken t) := by
    intro t
    rw [found, List.countP_flatMap, Number.total_eq_sum]
    congr 1
    refine List.map_congr_left fun p hp => ?_
    exact Partition.size_postingList (hs.of_visible hp) t
  have hcandidates : (s.visiblePartitions plan.types plan.view.scope).flatMap
      (candidatesIn plan) = (s.found plan.types plan.view.scope).filterMap plan.candidate? := by
    rw [found, List.filterMap_flatMap]
    refine List.flatMap_congr fun p hp => ?_
    exact candidatesIn_eq (hs.of_visible hp) plan
  simp only [lookup, ensureAvailable, hon, if_true, bind, Except.bind, pure, Except.pure,
    hfrequency, ← length_found, hcandidates, QueryPlan.scan]

/-- The documents that match a plan. -/
def matched (s : Store) (plan : QueryPlan) : List Document :=
  (s.found plan.types plan.view.scope).filter fun d =>
    d.matchesTokens plan.tokens plan.matchMode && plan.matchesFilters d

theorem Consistent.mem_matched (hs : s.Consistent) {plan : QueryPlan} {d : Document} :
    d ∈ s.matched plan ↔
      (s.live? d.key = some d ∧ plan.types.contains d.entityType = true ∧
        plan.view.scope.admits d = true) ∧
        d.matchesTokens plan.tokens plan.matchMode = true ∧ plan.matchesFilters d = true := by
  rw [matched, List.mem_filter, hs.mem_found, Bool.and_eq_true]

theorem Consistent.nodup_keys_matched (hs : s.Consistent) (plan : QueryPlan) :
    ((s.matched plan).map Document.key).Nodup :=
  hs.nodup_keys_found.sublist (List.filter_sublist.map Document.key)

theorem Consistent.nodup_matched (hs : s.Consistent) (plan : QueryPlan) :
    (s.matched plan).Nodup :=
  .of_map Document.key (hs.nodup_keys_matched plan)

/-- A lookup lists the documents that match. -/
theorem map_document_of_lookup (hs : s.Consistent) (hon : s.available = true) {plan : QueryPlan}
    {found : CandidateSet} (h : s.lookup plan = .ok found) :
    found.candidates.map (·.document) = s.matched plan := by
  rw [lookup_eq_scan hs hon] at h
  rw [← Except.ok.inj h, QueryPlan.map_document_scan]
  rfl

/-- Every key is looked up once. -/
theorem nodup_keys_of_lookup (hs : s.Consistent) (hon : s.available = true) {plan : QueryPlan}
    {found : CandidateSet} (h : s.lookup plan = .ok found) :
    (found.candidates.map (·.document.key)).Nodup := by
  have hkeys := hs.nodup_keys_matched plan
  rw [← map_document_of_lookup hs hon h, List.map_map] at hkeys
  exact hkeys

/-- A term is suggested for a text that it begins with, and counts the documents that suggest it among
those that may be found. -/
theorem suggest_eq_scan (hs : s.Consistent) (hon : s.available = true) (types : List EntityType)
    (scope : TenantScope) (start : String) :
    ∃ counts : TermCounts, s.suggest types scope start = .ok counts ∧ counts.Positive ∧
      ∀ t, counts.count t =
        if TermCounts.beginsWith start t then (s.found types scope).countP (·.suggests t)
        else 0 := by
  refine ⟨TermCounts.addUp ((s.visiblePartitions types scope).flatMap
    (·.suggestions.startingWith start)) {}, ?_, ?_, ?_⟩
  · simp only [suggest, ensureAvailable, hon, if_true, bind, Except.bind, pure, Except.pure,
      TermCounts.addUp]
  · refine TermCounts.positive_addUp ?_ TermCounts.positive_empty
    intro e he
    obtain ⟨p, hp, he⟩ := List.mem_flatMap.mp he
    exact TermCounts.pos_of_mem_startingWith (hs.of_visible hp).positive he
  · intro t
    have hcount : ∀ ps : List Partition, (∀ p ∈ ps, p.Consistent) →
        TermCounts.share (ps.flatMap (·.suggestions.startingWith start)) t =
          if TermCounts.beginsWith start t then
            (ps.flatMap Partition.contents).countP (·.suggests t)
          else 0 := by
      intro ps
      induction ps with
      | nil => intro _; simp [TermCounts.share]
      | cons p rest ih =>
        intro hps
        have hp : p.suggestions.count t = p.contents.countP (·.suggests t) := by
          rw [(hps p List.mem_cons_self).suggestions, Partition.contents, List.countP_map]
          rfl
        rw [List.flatMap_cons, TermCounts.share_append, TermCounts.share_startingWith, hp,
          ih fun q hq => hps q (List.mem_cons_of_mem _ hq), List.flatMap_cons,
          List.countP_append]
        split
        · rfl
        · rfl
    rw [TermCounts.count_addUp, hcount _ fun p hp => hs.of_visible hp]
    exact Nat.zero_add _

/-- Stores that find the same look up the same. -/
theorem lookup_eq (hs : s.Consistent) (hs' : s'.Consistent) (hon : s.available = true)
    (hon' : s'.available = true) {plan : QueryPlan}
    (hfound : s.found plan.types plan.view.scope = s'.found plan.types plan.view.scope) :
    s.lookup plan = s'.lookup plan := by
  rw [lookup_eq_scan hs hon, lookup_eq_scan hs' hon', hfound]

/-- Stores whose findings suggest every term equally often suggest the same. -/
theorem suggest_eq (hs : s.Consistent) (hs' : s'.Consistent) (hon : s.available = true)
    (hon' : s'.available = true) {types : List EntityType} {scope : TenantScope}
    (hfound : ∀ t, (s.found types scope).countP (·.suggests t) =
      (s'.found types scope).countP (·.suggests t)) (start : String) :
    s.suggest types scope start = s'.suggest types scope start := by
  obtain ⟨counts, hcounts, hpositive, hcount⟩ := suggest_eq_scan hs hon types scope start
  obtain ⟨counts', hcounts', hpositive', hcount'⟩ := suggest_eq_scan hs' hon' types scope start
  have hsame : counts = counts' := by
    refine TermCounts.eq_of_count hpositive hpositive' ?_
    intro t
    rw [hcount, hcount', hfound]
  rw [hcounts, hcounts', hsame]

end Store

end CatalogSearch
