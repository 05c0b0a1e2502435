import CatalogSearch.Proofs.Access.Alike
import CatalogSearch.Proofs.Engine.Search
import CatalogSearch.Proofs.Index.Scan

/-!
# Hidden values do not show

A search goes through matching, scoring, sorting, counting and showing.  Each of these does the same to
documents that are alike for the caller, so two stores whose documents are alike, key by key, are
searched with the same answers.
-/

set_option autoImplicit false

namespace CatalogSearch

variable {view : AccessView}

/-! ## Matches -/

/-- Matches of documents that are alike, with the same postings. -/
structure Candidate.AlikeFor (view : AccessView) (c c' : Candidate) : Prop where
  document : c.document.AlikeFor view c'.document
  postings : c.postings = c'.postings

namespace QueryPlan

variable {plan : QueryPlan} {d d' : Document} {ds ds' : List Document}

theorem matchesFilters_eq (h : d.AlikeFor plan.view d') :
    plan.matchesFilters d = plan.matchesFilters d' := by
  simp only [matchesFilters, h.visibleValue?]

theorem matchesTokens_eq (h : d.AlikeFor plan.view d') (tokens : List String) (mode : MatchMode) :
    d.matchesTokens tokens mode = d'.matchesTokens tokens mode := by
  have htoken : d.hasToken = d'.hasToken := funext h.hasToken
  cases mode with
  | all => rw [Document.matchesTokens, Document.matchesTokens, htoken]
  | any => rw [Document.matchesTokens, Document.matchesTokens, htoken]

/-- Of documents that are alike both match or neither. -/
theorem candidate?_rel (h : d.AlikeFor plan.view d') :
    Option.Rel (Candidate.AlikeFor plan.view) (plan.candidate? d) (plan.candidate? d') := by
  rw [candidate?, candidate?, matchesTokens_eq h, matchesFilters_eq h]
  split
  · refine Option.Rel.some ⟨h, ?_⟩
    exact List.map_congr_left fun t _ => h.occurrences t
  · exact Option.Rel.none

theorem forall₂_candidates (h : List.Forall₂ (Document.AlikeFor plan.view) ds ds') :
    List.Forall₂ (Candidate.AlikeFor plan.view) (plan.scan ds).candidates
      (plan.scan ds').candidates :=
  List.rel_filterMap (fun _ _ hd => candidate?_rel hd) h

/-- The worth of the tokens is the same. -/
theorem inverseFrequencies_scan (h : List.Forall₂ (Document.AlikeFor plan.view) ds ds') :
    (plan.scan ds).inverseFrequencies = (plan.scan ds').inverseFrequencies := by
  have hfrequency : (plan.scan ds).documentFrequency = (plan.scan ds').documentFrequency :=
    List.map_congr_left fun t _ => Related.countP_eq h fun _ _ hd => hd.hasToken t
  have hpopulation : (plan.scan ds).population = (plan.scan ds').population := h.length_eq
  have hinverse : (plan.scan ds).inverseFrequency = (plan.scan ds').inverseFrequency := by
    funext i
    rw [CandidateSet.inverseFrequency, CandidateSet.inverseFrequency, hfrequency, hpopulation]
  rw [CandidateSet.inverseFrequencies, CandidateSet.inverseFrequencies, hinverse]
  rfl

end QueryPlan

/-! ## Ranking -/

/-- Documents that are alike, with the same score. -/
structure ScoredDocument.AlikeFor (view : AccessView) (s s' : ScoredDocument) : Prop where
  document : s.document.AlikeFor view s'.document
  score : s.score = s'.score

namespace Ranking

theorem score_eq (w : RankingWeights) (worths : List Float) (phrase : String) {c c' : Candidate}
    (h : c.AlikeFor view c') : score w worths phrase c = score w worths phrase c' := by
  rw [score, score, h.postings, h.document.title]

theorem compareRelevance_eq {a a' b b' : ScoredDocument} (ha : a.AlikeFor view a')
    (hb : b.AlikeFor view b') : compareRelevance a b = compareRelevance a' b' := by
  rw [compareRelevance, compareRelevance, ha.score, hb.score, ha.document.updatedAt,
    hb.document.updatedAt, ha.document.id, hb.document.id, ha.document.entityType,
    hb.document.entityType, ha.document.tenant, hb.document.tenant]

theorem compareResults_eq {plan : QueryPlan} {a a' b b' : ScoredDocument}
    (ha : a.AlikeFor plan.view a') (hb : b.AlikeFor plan.view b') :
    compareResults plan a b = compareResults plan a' b' := by
  unfold compareResults
  cases plan.sort.field? with
  | none => exact compareRelevance_eq ha hb
  | some field =>
    simp only [sortValue?, ha.document.visibleValue?, hb.document.visibleValue?,
      compareRelevance_eq ha hb]

theorem alike_scored (w : RankingWeights) (worths : List Float) (phrase : String)
    {c c' : Candidate} (h : c.AlikeFor view c') :
    (scored w worths phrase c).AlikeFor view (scored w worths phrase c') where
  document := h.document
  score := by
    simp only [scored]
    exact score_eq w worths phrase h

/-- What is found in documents that are alike is ranked alike. -/
theorem forall₂_rank (w : RankingWeights) {plan : QueryPlan} {ds ds' : List Document}
    (h : List.Forall₂ (Document.AlikeFor plan.view) ds ds') :
    List.Forall₂ (ScoredDocument.AlikeFor plan.view) (rank w (plan.scan ds) plan)
      (rank w (plan.scan ds') plan) := by
  have hworths := QueryPlan.inverseFrequencies_scan h
  have hscored : List.Forall₂ (ScoredDocument.AlikeFor plan.view)
      ((plan.scan ds).candidates.map (scored w (plan.scan ds).inverseFrequencies plan.phrase))
      ((plan.scan ds').candidates.map (scored w (plan.scan ds').inverseFrequencies plan.phrase)) := by
    rw [List.forall₂_map_left_iff, List.forall₂_map_right_iff, hworths]
    refine List.Forall₂.imp ?_ (QueryPlan.forall₂_candidates h)
    intro c c' hc
    exact alike_scored w _ plan.phrase hc
  rw [rank_eq, rank_eq]
  refine Related.mergeSort hscored ?_
  intro a a' b b' ha hb
  rw [compareResults_eq ha hb]

end Ranking

/-! ## Counting and showing -/

theorem Facets.aggregate_eq (schemas : SchemaRegistry) {plan : QueryPlan}
    {ranked ranked' : List ScoredDocument}
    (h : List.Forall₂ (ScoredDocument.AlikeFor plan.view) ranked ranked') :
    aggregate schemas (ranked.map (·.document)) plan =
      aggregate schemas (ranked'.map (·.document)) plan := by
  have htypes : (ranked.map (·.document)).map (fun d => some d.entityType.name) =
      (ranked'.map (·.document)).map fun d => some d.entityType.name := by
    rw [List.map_map, List.map_map]
    refine Related.map_eq h ?_
    intro s s' hs
    simp only [Function.comp_apply, hs.document.entityType]
  have hvalues : ∀ field, (ranked.map (·.document)).map (value? schemas plan.view field) =
      (ranked'.map (·.document)).map (value? schemas plan.view field) := by
    intro field
    rw [List.map_map, List.map_map]
    refine Related.map_eq h ?_
    intro s s' hs
    simp only [Function.comp_apply, value?, hs.document.entityType, hs.document.visibleValue?]
  simp only [aggregate, htypes, hvalues]

theorem AccessView.present_eq (placeholder : String) {page page' : List ScoredDocument}
    (h : List.Forall₂ (ScoredDocument.AlikeFor view) page page') :
    view.present placeholder page = view.present placeholder page' := by
  have hadmitted := Related.filter h fun s s' hs => hs.document.admits view.scope
  refine Related.map_eq hadmitted ?_
  intro s s' hs
  simp only [hit, hs.document.entityType, hs.document.id, hs.document.tenant, hs.document.title,
    hs.document.description, hs.document.redact, hs.score]

namespace Engine

variable {g g' : Engine}

theorem forall₂_pageOf (plan : QueryPlan) {ranked ranked' : List ScoredDocument}
    (h : List.Forall₂ (ScoredDocument.AlikeFor view) ranked ranked') :
    List.Forall₂ (ScoredDocument.AlikeFor view) (pageOf plan ranked) (pageOf plan ranked') := by
  rw [pageOf, pageOf, h.length_eq]
  exact List.forall₂_take _ (List.forall₂_drop _ h)

/-- Of documents that are alike the answer is the same. -/
theorem answer_fst_eq (hsame : g.SameConfiguration g') {plan : QueryPlan} {ds ds' : List Document}
    (h : List.Forall₂ (Document.AlikeFor plan.view) ds ds') :
    (g.answer plan (plan.scan ds)).1 = (g'.answer plan (plan.scan ds')).1 := by
  have hranked := Ranking.forall₂_rank g'.settings.weights h
  simp only [answer, hsame.settings, hsame.schemas, hranked.length_eq,
    Facets.aggregate_eq g'.schemas hranked,
    AccessView.present_eq g'.settings.pricePlaceholder (forall₂_pageOf plan hranked)]

end Engine

/-! ## Stores -/

namespace Store

variable {s s' : Store}

/-- What a store finds has its like in what another one finds, if the live documents of every key are
alike. -/
theorem exists_alike_found (hs : s.Consistent) (hs' : s'.Consistent) {view : AccessView}
    (hlive : ∀ key, Option.Rel (Document.AlikeFor view) (s.live? key) (s'.live? key))
    {types : List EntityType} {d : Document} (hd : d ∈ s.found types view.scope) :
    ∃ d' ∈ s'.found types view.scope, d.AlikeFor view d' := by
  obtain ⟨hd, htype, hscope⟩ := (hs.mem_found d).mp hd
  have hrel := hlive d.key
  rw [hd] at hrel
  cases hd' : s'.live? d.key with
  | none =>
    rw [hd'] at hrel
    cases hrel
  | some d' =>
    rw [hd', Option.rel_some_some] at hrel
    refine ⟨d', (hs'.mem_found d').mpr ⟨?_, ?_, ?_⟩, hrel⟩
    · rw [← hrel.key]
      exact hd'
    · rw [← hrel.entityType]
      exact htype
    · rw [← hrel.admits]
      exact hscope

/-- Stores of documents that are alike, key by key, find documents that are alike. -/
theorem forall₂_found_alike (hs : s.Consistent) (hs' : s'.Consistent) {view : AccessView}
    (hlive : ∀ key, Option.Rel (Document.AlikeFor view) (s.live? key) (s'.live? key))
    (types : List EntityType) :
    List.Forall₂ (Document.AlikeFor view) (s.found types view.scope)
      (s'.found types view.scope) := by
  have hlive' : ∀ key, Option.Rel (Document.AlikeFor view) (s'.live? key) (s.live? key) :=
    fun key => Related.option_swap (fun _ _ h => h.symm) (hlive key)
  refine forall₂_found hs hs' ?_ ?_ ?_
  · intro d d' h
    rw [Document.address, Document.address, h.partition, h.key]
  · intro d hd
    exact exists_alike_found hs hs' hlive hd
  · intro d' hd'
    obtain ⟨d, hd, h⟩ := exists_alike_found hs' hs hlive' hd'
    exact ⟨d, hd, h.symm⟩

end Store

namespace Engine

/-- Two engines of one configuration, after any calls whatever, whose live documents are alike for a
caller key by key, answer its searches alike. -/
theorem hidden_values_do_not_show (settings : SearchSettings) (schemas : SchemaRegistry)
    (policy : AccessPolicy) (calls calls' : List EngineCall) (caller : Caller)
    (hon : ((start settings schemas policy).run calls).store.available = true)
    (hon' : ((start settings schemas policy).run calls').store.available = true)
    (halike : ∀ key, ∃ found found',
      ((start settings schemas policy).run calls).store.get key = .ok found ∧
      ((start settings schemas policy).run calls').store.get key = .ok found' ∧
      Option.Rel (Document.AlikeFor (AccessView.resolve policy caller)) found found') :
    ∀ r deadline,
      (((start settings schemas policy).run calls).search r caller deadline).1 =
        (((start settings schemas policy).run calls').search r caller deadline).1 := by
  have hconsistent := consistent_start settings schemas policy
  have hs := consistent_run hconsistent calls
  have hs' := consistent_run hconsistent calls'
  have hconfigured := sameConfiguration_run (start settings schemas policy) calls
  have hconfigured' := sameConfiguration_run (start settings schemas policy) calls'
  have hlive : ∀ key, Option.Rel (Document.AlikeFor (AccessView.resolve policy caller))
      (((start settings schemas policy).run calls).store.live? key)
      (((start settings schemas policy).run calls').store.live? key) := by
    intro key
    obtain ⟨found, found', hfound, hfound', hrel⟩ := halike key
    rwa [(Store.get_eq_ok_iff hon).mp hfound, (Store.get_eq_ok_iff hon').mp hfound']
  intro r deadline
  have hsame := hconfigured.trans hconfigured'.symm
  refine hsame.search_fst_eq ?_ r deadline
  intro plan hview
  rw [hconfigured.policy] at hview
  have hview' : plan.view = AccessView.resolve policy caller := hview
  refine ⟨_, _, Store.lookup_eq_scan hs hon plan, Store.lookup_eq_scan hs' hon' plan, ?_⟩
  refine answer_fst_eq hsame ?_
  rw [hview']
  exact Store.forall₂_found_alike hs hs' hlive plan.types

/-- A guest cannot tell offers apart by a price that is kept back. -/
theorem hidden_values_do_not_show_of_restricted_price :
    let record : Document :=
      Document.withField
        { entityType := .part, id := "p1", title := "Steel pump", updatedAt := ⟨1, 0⟩ }
        priceRestrictedField (.bool true)
    let cheap := record.withField priceField (.number 10)
    let dear := record.withField priceField (.number 20)
    let g := (start {} .standard .standard).run [.index cheap]
    let g' := (start {} .standard .standard).run [.index dear]
    ∀ r deadline, (g.search r .guest deadline).1 = (g'.search r .guest deadline).1 := by
  intro record cheap dear g g'
  have hid : Text.isBlankText "p1" = false := by decide
  have hcheap : cheap.resolved.fault? = none := Store.fault?_resolved hid rfl rfl
  have hdear : dear.resolved.fault? = none := Store.fault?_resolved hid rfl rfl
  have hstore : g.store = Store.after {} (.upsert cheap) := store_after_index _ cheap
  have hstore' : g'.store = Store.after {} (.upsert dear) := store_after_index _ dear
  have hon : g.store.available = true := by
    rw [hstore, Store.available_after_upsert]
  have hon' : g'.store.available = true := by
    rw [hstore', Store.available_after_upsert]
  have hrestricted : record.resolved.priceRestricted = true := by rfl
  have hnumber : ∀ price, (FieldValue.number price).isNull = false := fun _ => rfl
  have halike : (record.resolved.withField priceField (.number 10)).AlikeFor
      (AccessView.resolve .standard .guest) (record.resolved.withField priceField (.number 20)) :=
    Document.AlikeFor.of_restricted_price hrestricted (AccessView.canReadSensitive_guest _ _)
      ((hnumber 10).trans (hnumber 20).symm)
  have hkey : ∀ price, Store.keyOf (record.withField priceField price) = Store.keyOf record :=
    fun _ => rfl
  have hkeys : Store.keyOf dear = Store.keyOf cheap :=
    (hkey (.number 20)).trans (hkey (.number 10)).symm
  refine hidden_values_do_not_show {} .standard .standard _ _ .guest hon hon' ?_
  intro key
  refine ⟨_, _, Store.get_eq_ok hon key, Store.get_eq_ok hon' key, ?_⟩
  rw [Store.live?, Store.live?, hstore, hstore',
    Store.keyState_after_upsert Store.consistent_empty rfl hcheap,
    Store.keyState_after_upsert Store.consistent_empty rfl hdear, hkeys, Store.keyState_empty]
  split
  · exact Option.Rel.some halike
  · exact Option.Rel.none

end Engine

end CatalogSearch
