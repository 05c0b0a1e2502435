import CatalogSearch.Proofs.Access.Privilege
import CatalogSearch.Proofs.Engine.Search
import CatalogSearch.Proofs.Index.Lookup

/-!
# More privilege hides nothing

A filter is checked against what its caller may read, and then met by what its caller sees.  Both only
grow with the caller's view, as does what is looked up: a request that is answered is answered for a
caller of more privilege as well, with all that was found before.
-/

set_option autoImplicit false

namespace CatalogSearch

/-! ## Plans -/

namespace QueryPlan

/-- Plans that ask the same of documents, one of them for a view within that of the other. -/
structure Within (plan wider : QueryPlan) : Prop where
  tokens : plan.tokens = wider.tokens
  types : plan.types = wider.types
  filters : plan.filters = wider.filters
  matchMode : plan.matchMode = wider.matchMode
  view : plan.view.Within wider.view

/-- A filter that is allowed is allowed in a wider view. -/
theorem checkFilter_of_within {schemas : SchemaRegistry} {r : SearchRequest}
    {types : List EntityType} {view wider : AccessView} (h : view.Within wider) {field : String}
    (hchecked : checkFilter schemas r types view field = .ok ()) :
    checkFilter schemas r types wider field = .ok () := by
  rw [checkFilter_eq_ok_iff] at hchecked ⊢
  exact ⟨hchecked.1, fun t ht hsensitive => h.types t (hchecked.2 t ht hsensitive)⟩

/-- Filters that are met by what is seen are met in a wider view. -/
theorem Within.matchesFilters {plan wider : QueryPlan} (h : plan.Within wider) {d : Document}
    (hmatches : plan.matchesFilters d = true) : wider.matchesFilters d = true := by
  rw [matchesFilters_iff] at hmatches ⊢
  rw [← h.filters]
  intro filter hfilter
  obtain ⟨value, hvalue, hmet⟩ := hmatches filter hfilter
  exact ⟨value, h.view.visibleValue? hvalue, hmet⟩

end QueryPlan

/-! ## Matches -/

namespace Store

variable {s : Store} {plan wider : QueryPlan} {found foundMore : CandidateSet}

/-- What matches is matched in a wider view. -/
theorem matched_subset (hs : s.Consistent) (hon : s.available = true) (h : plan.Within wider)
    (hfound : s.lookup plan = .ok found) (hmore : s.lookup wider = .ok foundMore) :
    found.candidates.map (·.document) ⊆ foundMore.candidates.map (·.document) := by
  rw [map_document_of_lookup hs hon hfound, map_document_of_lookup hs hon hmore]
  intro d hd
  obtain ⟨⟨hlive, htype, hscope⟩, htokens, hfilters⟩ := hs.mem_matched.mp hd
  refine hs.mem_matched.mpr ?_
  rw [← h.types, ← h.tokens, ← h.matchMode]
  exact ⟨⟨hlive, htype, h.view.scope _ hscope⟩, htokens, h.matchesFilters hfilters⟩

/-- There are no fewer matches in a wider view. -/
theorem length_matched_le (hs : s.Consistent) (hon : s.available = true) (h : plan.Within wider)
    (hfound : s.lookup plan = .ok found) (hmore : s.lookup wider = .ok foundMore) :
    found.candidates.length ≤ foundMore.candidates.length := by
  have hnodup : (found.candidates.map (·.document)).Nodup := by
    rw [map_document_of_lookup hs hon hfound]
    exact hs.nodup_matched plan
  have hlength := hnodup.length_le_of_subset (matched_subset hs hon h hfound hmore)
  rwa [List.length_map, List.length_map] at hlength

end Store

/-! ## Searches -/

namespace Engine

variable {g : Engine} {caller other : Caller}

/-- A request that is understood for a caller is understood for one of more privilege, whose plan is
wider. -/
theorem exists_plan_of_outranks (h : caller.Outranks other) {r : SearchRequest} {plan : QueryPlan}
    (hplan : g.plan r other = .ok plan) :
    ∃ wider, g.plan r caller = .ok wider ∧ plan.Within wider := by
  have hview : (AccessView.resolve g.policy other).Within (AccessView.resolve g.policy caller) :=
    AccessView.within_of_outranks h
  obtain ⟨made, hmade, rfl⟩ := plan_eq_ok_iff.mp hplan
  obtain ⟨htokens, types, sort, htypes, hsort, hfilters, rfl⟩ := QueryPlan.make_eq_ok_iff.mp hmade
  have hfilters' : ∀ filter ∈ r.filters.toList, QueryPlan.checkFilter g.schemas r types
      (AccessView.resolve g.policy caller) filter.1 = .ok () :=
    fun filter hfilter => QueryPlan.checkFilter_of_within hview (hfilters filter hfilter)
  refine ⟨_, plan_eq_ok_iff.mpr ⟨_, QueryPlan.make_eq_ok_iff.mpr
    ⟨htokens, types, sort, htypes, hsort, hfilters', rfl⟩, rfl⟩, ?_⟩
  exact ⟨rfl, rfl, rfl, rfl, hview⟩

/-- After any calls that leave the store available, a search that is answered for a caller is answered
for a caller of more privilege: every document that matches for the one matches for the other, so the
total is no less, and whatever the one sees of its fields the other sees. -/
theorem privilege_hides_nothing (settings : SearchSettings) (schemas : SchemaRegistry)
    (policy : AccessPolicy) (calls : List EngineCall) (caller other : Caller)
    (hon : ((start settings schemas policy).run calls).store.available = true)
    (hranks : caller.Outranks other) (r : SearchRequest) (deadline : Deadline)
    (response : SearchResponse)
    (hsearch : (((start settings schemas policy).run calls).search r other deadline).1 =
      .ok response) :
    let g := (start settings schemas policy).run calls
    ∃ response' plan wider found foundMore,
      (g.search r caller deadline).1 = .ok response' ∧
      g.plan r other = .ok plan ∧ g.plan r caller = .ok wider ∧
      g.store.lookup plan = .ok found ∧ g.store.lookup wider = .ok foundMore ∧
      response.total = found.candidates.length ∧ response'.total = foundMore.candidates.length ∧
      response.total ≤ response'.total ∧
      ∀ d ∈ found.candidates.map (·.document),
        d ∈ foundMore.candidates.map (·.document) ∧
        ∀ field value, (AccessView.resolve policy other).visibleValue? d field = some value →
          (AccessView.resolve policy caller).visibleValue? d field = some value := by
  intro g
  have hg : g.store.Consistent := consistent_run (consistent_start settings schemas policy) calls
  obtain ⟨htime, plan, found, hplan, hfound, rfl⟩ := search_eq_ok_iff.mp hsearch
  obtain ⟨wider, hwider, hwithin⟩ := exists_plan_of_outranks hranks hplan
  have hmore := Store.lookup_eq_scan hg hon wider
  refine ⟨_, plan, wider, found, _, search_eq_ok_iff.mpr ⟨htime, wider, _, hwider, hmore, rfl⟩,
    hplan, hwider, hfound, hmore, total_answer g plan found, total_answer g wider _, ?_,
    fun d hd => ⟨Store.matched_subset hg hon hwithin hfound hmore hd, fun field value => ?_⟩⟩
  · rw [total_answer, total_answer]
    exact Store.length_matched_le hg hon hwithin hfound hmore
  · exact (AccessView.within_of_outranks hranks).visibleValue?

/-- A guest is a guest with the role of an administrator too, and somebody who is known finds more
without any role: also what the tenant keeps to itself. -/
theorem privilege_hides_nothing_of_member :
    let listed : Document :=
      { entityType := .part, id := "p1", title := "Steel pump", updatedAt := ⟨1, 0⟩ }
    let kept : Document :=
      { entityType := .part, id := "p2", tenant := some "acme", title := "Steel valve",
        updatedAt := ⟨2, 0⟩ }
    let member : Caller := ⟨some "u1", some "acme", []⟩
    let stranger : Caller := ⟨none, some "acme", ["admin"]⟩
    let r : SearchRequest := { query := "steel" }
    let g := (start {} .standard .standard).run [.index listed, .index kept]
    member.Outranks stranger ∧
      ∃ response response', (g.search r stranger {}).1 = .ok response ∧
        (g.search r member {}).1 = .ok response' ∧ response.total = 1 ∧ response'.total = 2 := by
  intro listed kept member stranger r g
  have hranks : member.Outranks stranger := ⟨rfl, Or.inl rfl⟩
  obtain ⟨plan, hplan, hone⟩ : ∃ plan, g.plan r stranger = .ok plan ∧
      (g.store.lookup plan).toOption.map (fun found => found.candidates.length) = some 1 :=
    exists_of_toOption_map (by with_unfolding_all decide)
  obtain ⟨found, hfound, hone⟩ := exists_of_toOption_map hone
  have hsearch : (g.search r stranger {}).1 = .ok (g.answer plan found).1 :=
    search_eq_ok_iff.mpr ⟨rfl, plan, found, hplan, hfound, rfl⟩
  obtain ⟨response', _, wider, _, foundMore, hmember, _, hwider, _, hmore, _, htotal, _⟩ :=
    privilege_hides_nothing {} .standard .standard [.index listed, .index kept] member stranger
      (by decide) hranks r {} _ hsearch
  obtain ⟨wider', hwider', htwo⟩ : ∃ wider, g.plan r member = .ok wider ∧
      (g.store.lookup wider).toOption.map (fun found => found.candidates.length) = some 2 :=
    exists_of_toOption_map (by with_unfolding_all decide)
  rw [Except.ok.inj (hwider'.symm.trans hwider), hmore] at htwo
  exact ⟨hranks, _, response', hsearch, hmember, (total_answer g plan found).trans hone,
    htotal.trans (Option.some.inj htwo)⟩

end Engine

end CatalogSearch
