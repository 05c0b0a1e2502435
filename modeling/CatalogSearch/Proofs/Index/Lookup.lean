import CatalogSearch.Proofs.Index.Scan
import CatalogSearch.Proofs.Query.Plan
import Mathlib.Data.List.Nodup

/-!
# What a lookup finds

The live documents are those that can be read.  A lookup goes through the partitions that its caller
may see and through the posting lists of its tokens, and yet finds what asking every live document would
find, each once, with the figures counted over the documents that its caller may find.
-/

set_option autoImplicit false

namespace CatalogSearch

/-- The posting of a token in the analysis of a document; an empty one if it has none. -/
def Document.analyzedPosting (d : Document) (t : String) : Posting :=
  (Analysis.ofDocument d).postings[t]?.getD {}

theorem Document.mem_analysis_iff (d : Document) (t : String) :
    t ∈ (Analysis.ofDocument d).postings ↔ d.hasToken t = true := by
  rw [Std.ExtTreeMap.mem_iff_isSome_getElem?, Analysis.getElem?_postings, isSome_posting?]

theorem Document.analyzedPosting_eq (d : Document) (t : String) :
    d.analyzedPosting t = d.occurrences t := by
  rw [analyzedPosting, Analysis.getElem?_postings, getD_posting?]

/-- A document matches when its analysis has every token, or one of them, as the plan asks. -/
theorem Document.matchesTokens_iff (d : Document) {tokens : List String} (hne : tokens ≠ [])
    (mode : MatchMode) :
    d.matchesTokens tokens mode = true ↔
      (mode = .all → ∀ t ∈ tokens, t ∈ (Analysis.ofDocument d).postings) ∧
      (mode = .any → ∃ t ∈ tokens, t ∈ (Analysis.ofDocument d).postings) := by
  simp only [mem_analysis_iff]
  cases mode with
  | all => simp [matchesTokens, hne]
  | any => simp [matchesTokens]

/-- A scan lists the documents that match, each with the occurrences of the tokens. -/
theorem QueryPlan.mem_candidates_scan (plan : QueryPlan) (ds : List Document) (c : Candidate) :
    c ∈ (plan.scan ds).candidates ↔
      c.document ∈ ds ∧ c.document.matchesTokens plan.tokens plan.matchMode = true ∧
        plan.matchesFilters c.document = true ∧
        c.postings = plan.tokens.map c.document.occurrences := by
  have hcandidate : ∀ d, plan.candidate? d = some c ↔
      (d.matchesTokens plan.tokens plan.matchMode = true ∧ plan.matchesFilters d = true) ∧
        (⟨d, plan.tokens.map d.occurrences⟩ : Candidate) = c := by
    intro d
    simp only [candidate?, Bool.and_eq_true, Option.ite_none_right_eq_some, Option.some.injEq]
  have hscan : c ∈ (plan.scan ds).candidates ↔ ∃ d ∈ ds, plan.candidate? d = some c :=
    List.mem_filterMap
  rw [hscan]
  simp only [hcandidate]
  constructor
  · rintro ⟨d, hd, ⟨htokens, hfilters⟩, rfl⟩
    exact ⟨hd, htokens, hfilters, rfl⟩
  · rintro ⟨hd, htokens, hfilters, hpostings⟩
    refine ⟨c.document, hd, ⟨htokens, hfilters⟩, ?_⟩
    rw [← hpostings]

namespace Store

/-- The live documents, in order of key. -/
def liveDocuments (s : Store) : List Document := s.directory.keys.filterMap s.live?

variable {s : Store} {types : List EntityType} {scope : TenantScope}

theorem Consistent.mem_liveDocuments (hs : s.Consistent) (d : Document) :
    d ∈ s.liveDocuments ↔ s.live? d.key = some d := by
  unfold liveDocuments
  rw [List.mem_filterMap]
  constructor
  · rintro ⟨key, _, hlive⟩
    rwa [hs.key_of_live hlive]
  · intro hlive
    refine ⟨d.key, ?_, hlive⟩
    rw [Std.ExtTreeMap.mem_keys, Std.ExtTreeMap.mem_iff_isSome_getElem?,
      hs.directory_of_live hlive]
    rfl

/-- No two live documents have one key. -/
theorem Consistent.nodup_keys_liveDocuments (hs : s.Consistent) :
    (s.liveDocuments.map Document.key).Nodup := by
  have hkeys : s.liveDocuments.map Document.key =
      s.directory.keys.filter fun key => (s.live? key).isSome := by
    rw [liveDocuments, List.map_filterMap, ← List.filterMap_eq_filter]
    refine List.filterMap_congr fun key _ => ?_
    cases hlive : s.live? key with
    | none => simp [Option.guard, hlive]
    | some d => simp [Option.guard, hlive, hs.key_of_live hlive]
  rw [hkeys]
  exact s.directory.nodup_keys.filter _

/-- What is found is the live documents of some types that a scope admits. -/
theorem Consistent.found_perm (hs : s.Consistent) :
    (s.found types scope).Perm
      (s.liveDocuments.filter fun d => types.contains d.entityType && scope.admits d) := by
  have hfound : (s.found types scope).Nodup := .of_map Document.key hs.nodup_keys_found
  have hlive : s.liveDocuments.Nodup := .of_map Document.key hs.nodup_keys_liveDocuments
  refine (List.perm_ext_iff_of_nodup hfound (hlive.filter _)).mpr ?_
  intro d
  rw [hs.mem_found, List.mem_filter, hs.mem_liveDocuments, Bool.and_eq_true]

/-- After any calls that leave a store available, a lookup for a plan finds the live documents of its
types that its caller's scope admits, that have the tokens and that meet the filters, each once and with
the postings of its analysis.  It counts the documents of these types that the scope admits, and for each
token those that have it: never more than there are, and one at least for a token of a match. -/
theorem lookup_agreement (calls : List StoreCall) (schemas : SchemaRegistry) (policy : AccessPolicy)
    (settings : SearchSettings) (r : SearchRequest) (caller : Caller) (plan : QueryPlan)
    (hon : (Store.empty.run calls).available = true)
    (hplan : QueryPlan.make schemas policy settings r caller = .ok plan) :
    let s := Store.empty.run calls
    let admitted := s.liveDocuments.filter fun d =>
      plan.types.contains d.entityType && plan.view.scope.admitsPartition (.ofDocument d)
    ∃ found, s.lookup plan = .ok found ∧
      (admitted.map Document.key).Nodup ∧
      (∀ d, d ∈ admitted ↔ s.get d.key = .ok (some d) ∧ d.entityType ∈ plan.types ∧
        plan.view.scope.admitsPartition (.ofDocument d) = true) ∧
      (found.candidates.map (·.document.key)).Nodup ∧
      (∀ c, c ∈ found.candidates ↔ c.document ∈ admitted ∧
        ((plan.matchMode = .all →
            ∀ t ∈ plan.tokens, t ∈ (Analysis.ofDocument c.document).postings) ∧
          (plan.matchMode = .any →
            ∃ t ∈ plan.tokens, t ∈ (Analysis.ofDocument c.document).postings)) ∧
        plan.matchesFilters c.document = true ∧
        c.postings = plan.tokens.map c.document.analyzedPosting) ∧
      found.tokens = plan.tokens ∧
      found.population = admitted.length ∧
      found.documentFrequency = plan.tokens.map (fun t =>
        admitted.countP fun d => decide (t ∈ (Analysis.ofDocument d).postings)) ∧
      (∀ n ∈ found.documentFrequency, n ≤ found.population) ∧
      ∀ c ∈ found.candidates, ∀ (i : Nat) (t : String), plan.tokens[i]? = some t →
        t ∈ (Analysis.ofDocument c.document).postings →
          ∃ n, found.documentFrequency[i]? = some n ∧ 1 ≤ n := by
  intro s admitted
  have hs : s.Consistent := consistent_empty.run calls
  have hlookup := lookup_eq_scan hs hon plan
  have hne : plan.tokens ≠ [] := by
    obtain ⟨hne, types, sort, _, _, _, rfl⟩ := QueryPlan.make_eq_ok_iff.mp hplan
    exact hne
  have hadmitted : (s.found plan.types plan.view.scope).Perm admitted := hs.found_perm
  have hhas : ∀ t, (fun d : Document => decide (t ∈ (Analysis.ofDocument d).postings)) =
      fun d => d.hasToken t := by
    intro t
    funext d
    rw [Bool.eq_iff_iff, decide_eq_true_eq, d.mem_analysis_iff]
  refine ⟨_, hlookup, ?_, fun d => ?_, nodup_keys_of_lookup hs hon hlookup, fun c => ?_, rfl,
    hadmitted.length_eq, ?_, ?_, ?_⟩
  · exact hs.nodup_keys_found.perm (hadmitted.map _)
  · rw [← hadmitted.mem_iff, hs.mem_found, get_eq_ok_iff hon, List.contains_iff_mem]
    rfl
  · rw [QueryPlan.mem_candidates_scan, hadmitted.mem_iff, Document.matchesTokens_iff _ hne,
      funext c.document.analyzedPosting_eq]
  · refine List.map_congr_left fun t _ => ?_
    rw [hhas, hadmitted.countP_eq]
  · intro n hn
    obtain ⟨t, _, rfl⟩ := List.mem_map.mp hn
    exact List.countP_le_length
  · intro c hc i t ht htoken
    obtain ⟨hfound, _⟩ := (plan.mem_candidates_scan _ c).mp hc
    refine ⟨_, by rw [QueryPlan.scan, List.getElem?_map, ht, Option.map_some], ?_⟩
    exact List.countP_pos_iff.mpr ⟨c.document, hfound, (c.document.mem_analysis_iff t).mp htoken⟩

/-- A guest who asks for either of two tokens finds the one document of three that has one of them and
is not kept by a tenant to itself; the statistics leave the kept one out. -/
theorem lookup_agreement_of_guest :
    let shared : Document :=
      { entityType := .part, id := "p1", title := "Steel pump", updatedAt := ⟨1, 0⟩ }
    let kept : Document :=
      { entityType := .part, id := "p2", tenant := some "acme", title := "Steel valve",
        updatedAt := ⟨2, 0⟩ }
    let other : Document :=
      { entityType := .part, id := "p3", title := "Copper pipe", updatedAt := ⟨3, 0⟩ }
    let s := Store.empty.run [.upsert shared, .upsert kept, .upsert other]
    let plan := QueryPlan.understood .standard {}
      { query := "steel valve", matchMode := some .any } .guest EntityType.all .relevance
    ∃ found, s.lookup plan = .ok found ∧ found.population = 2 ∧ found.documentFrequency = [1, 0] ∧
      ∃ c ∈ found.candidates, c.document.id = "p1" ∧ c.postings = [{ title := 1 }, {}] := by
  intro shared kept other s plan
  have hplan : QueryPlan.make .standard .standard {}
      { query := "steel valve", matchMode := some .any } .guest = .ok plan :=
    QueryPlan.make_of_no_filters rfl (by decide) rfl rfl
  obtain ⟨found, hlookup, _, _, _, hcandidates, _, hpopulation, hfrequency, _⟩ :=
    lookup_agreement [.upsert shared, .upsert kept, .upsert other] _ _ _ _ _ plan
      (by decide) hplan
  refine ⟨found, hlookup, ?_, ?_, ?_⟩
  · rw [hpopulation]
    decide
  · rw [hfrequency]
    decide
  · obtain ⟨d, hd, hid, htoken, hfilters, hpostings⟩ :
        ∃ d ∈ s.liveDocuments.filter fun d =>
            plan.types.contains d.entityType && plan.view.scope.admitsPartition (.ofDocument d),
          d.id = "p1" ∧ (∃ t ∈ plan.tokens, t ∈ (Analysis.ofDocument d).postings) ∧
            plan.matchesFilters d = true ∧
            plan.tokens.map d.analyzedPosting = [{ title := 1 }, {}] := by decide
    refine ⟨⟨d, _⟩, (hcandidates _).mpr ⟨hd, ⟨fun h => ?_, fun _ => htoken⟩, hfilters, rfl⟩, hid,
      hpostings⟩
    cases h

end Store

end CatalogSearch
