import CatalogSearch.Proofs.Engine.Search
import CatalogSearch.Proofs.Engine.Writes
import CatalogSearch.Proofs.Feed.Keywords
import CatalogSearch.Proofs.Index.Scan
import CatalogSearch.Proofs.Text.Token

/-!
# Finding a record by its own text

A record that is taken up is found by the text of its title and of its description.  By the text of a
searchable field it is found when the tokens of that text stay whole: they are kept as keywords, and a
keyword is cut into tokens once more when the document is indexed, which leaves nothing of a token whose
lower case is too long, and breaks one whose lower case holds a mark.
-/

set_option autoImplicit false

namespace CatalogSearch

open CatalogSearch.Text CatalogSearch.Time

/-! ## A document and its own text -/

/-- Of the tokens of a searchable text a document has those that stay whole and those that its title or
its description has. -/
theorem Document.hasToken_iff_of_keyword {d : Document}
    (hkeywords : ∀ k ∈ d.keywords, ∃ s, k ∈ tokens s) {s t : String} (ht : t ∈ tokens s)
    (hmem : t ∈ d.keywords) :
    d.hasToken t = true ↔
      staysWhole t = true ∨ t ∈ d.titleTokens ∨ t ∈ d.descriptionTokens := by
  have hwhole : t ∈ d.keywordTokens ↔ staysWhole t = true :=
    mem_tokens_of_tokens_iff ht (fun k hk => hkeywords k (Std.ExtTreeSet.mem_toList.mp hk))
      (Std.ExtTreeSet.mem_toList.mpr hmem)
  simp only [hasToken, Bool.or_eq_true, List.contains_iff_mem, hwhole]
  rw [or_comm]

/-- A document is found by a text when it has all tokens of it. -/
theorem QueryPlan.mem_scan_of_text {plan : QueryPlan} {s : String} {ds : List Document} {d : Document}
    (htokens : plan.tokens = distinctTokens s) (hmode : plan.matchMode = .all)
    (hfilters : plan.filters = []) (hne : plan.tokens ≠ []) (hd : d ∈ ds) :
    d ∈ (plan.scan ds).candidates.map (·.document) ↔ ∀ t ∈ Text.tokens s, d.hasToken t = true := by
  have hall : (∀ t ∈ plan.tokens, d.hasToken t = true) ↔ ∀ t ∈ Text.tokens s, d.hasToken t = true := by
    rw [htokens, distinctTokens]
    simp only [List.mem_eraseDups]
  rw [plan.map_document_scan, List.mem_filter, ← hall, hmode, matchesFilters, hfilters]
  simp [hd, Document.matchesTokens, hne]

namespace Engine

variable {g : Engine}

/-! ## Searching for it -/

/-- A request for a text, without filters, that wants all its tokens in documents of one type has a plan
that wants them. -/
theorem exists_plan_of_text (g : Engine) {r : SearchRequest} (caller : Caller) {t : EntityType}
    {sort : SortMode} (hfilters : r.filters = ∅) (hmode : r.matchMode.getD .all = .all)
    (htype : EntityType.parseFilter r.entityType = .ok [t])
    (hsort : SortMode.ofText r.sort = .ok sort)
    (htokens : tokens r.query ≠ []) :
    ∃ plan, g.plan r caller = .ok plan ∧ plan.tokens = distinctTokens r.query ∧ plan.tokens ≠ [] ∧
      plan.matchMode = .all ∧ plan.filters = [] ∧ plan.types = [t] ∧
      plan.view = AccessView.resolve g.policy caller := by
  have hdistinct : distinctTokens r.query ≠ [] := by
    obtain ⟨token, htoken⟩ := List.exists_mem_of_ne_nil _ htokens
    exact List.ne_nil_of_mem (List.mem_eraseDups.mpr htoken)
  have hnone : r.filters.toList = [] := by
    rw [hfilters]
    rfl
  have hmade : QueryPlan.make g.schemas g.policy g.settings r caller =
      .ok (.understood g.policy g.settings r caller [t] sort) :=
    QueryPlan.make_of_no_filters hfilters hdistinct htype hsort
  exact ⟨_, plan_eq_ok_iff.mpr ⟨_, hmade, rfl⟩, rfl, hdistinct, hmode, hnone, rfl, rfl⟩

/-- After an event of any run that takes a record up, a search for a text that has tokens, of all of
them, in the type of the record and without filters, made by any caller whose scope admits the record's
document, finds the document if the text is its title or its description.  If the text is that of a
searchable field, it finds the document if and only if every token of the text stays whole or is in the
title or in the description. -/
theorem found_by_own_text (settings : SearchSettings) (policy : AccessPolicy)
    (calls : List EngineCall) (e : ChangeEvent) (outcome : UpsertOutcome)
    (happlied : (((start settings .standard policy).run calls).apply e).1 = .ok (.upserted outcome))
    (houtcome : outcome = .inserted ∨ outcome = .updated) :
    let g := (((start settings .standard policy).run calls).apply e).2
    ∃ d schema, e.toDocument .standard = .ok d ∧
      SchemaRegistry.standard.schema? d.entityType = some schema ∧
      ∀ (caller : Caller) (r : SearchRequest) (sort : SortMode),
        (AccessView.resolve policy caller).scope.admits d = true →
        EntityType.parseFilter r.entityType = .ok [d.entityType] →
        SortMode.ofText r.sort = .ok sort → r.filters = ∅ → r.matchMode.getD .all = .all →
        tokens r.query ≠ [] →
        ∃ plan found, g.plan r caller = .ok plan ∧ g.store.lookup plan = .ok found ∧
          let matched := (Ranking.rank settings.weights found plan).map (·.document)
          (r.query = d.title ∨ r.query = d.description → d ∈ matched) ∧
          ∀ f ∈ schema.fields, f.searchable = true → d.field? f.name = some (.text r.query) →
            (d ∈ matched ↔ ∀ t ∈ tokens r.query,
              staysWhole t = true ∨ t ∈ d.titleTokens ∨ t ∈ d.descriptionTokens) := by
  intro g
  have hbefore : ((start settings .standard policy).run calls).store.Consistent :=
    consistent_run (consistent_start settings .standard policy) calls
  have hconfigured : g.SameConfiguration (start settings .standard policy) :=
    (sameConfiguration_after _ (.apply e)).trans (sameConfiguration_run _ calls)
  have hg : g.store.Consistent := consistent_after hbefore (.apply e)
  have hnew : outcome ≠ .staleWriteIgnored := by
    rcases houtcome with rfl | rfl
    · decide
    · decide
  obtain ⟨d, hrecord, hindex, hstore⟩ := exists_of_apply happlied
  have hd : e.toDocument .standard = .ok d := by
    rw [(sameConfiguration_run (start settings .standard policy) calls).schemas] at hrecord
    exact hrecord
  obtain ⟨hon, hlive⟩ := live_of_index hbefore hindex hnew
  rw [Store.keyOf, ChangeEvent.resolved_toDocument hd, ← hstore] at hlive
  rw [← hstore] at hon
  obtain ⟨schema, hschema, hkeywords, htexts⟩ := ChangeEvent.keywords_toDocument hd
  obtain ⟨schema', hschema', hunmixed⟩ := SchemaRegistry.exists_standard e.entityType
  rw [Option.some.inj (hschema'.symm.trans hschema)] at hunmixed
  have htypes : d.entityType = e.entityType :=
    congrArg DocumentKey.entityType (ChangeEvent.identity_toDocument hd).1
  refine ⟨d, schema, hd, htypes ▸ hschema,
    fun caller r sort hadmits htype hsort hfilters hmode htokens => ?_⟩
  obtain ⟨plan, hplan, hdistinct, hne, hall, hnone, hone, hview⟩ :=
    exists_plan_of_text g caller hfilters hmode htype hsort htokens
  rw [hconfigured.policy] at hview
  have hfound : d ∈ g.store.found plan.types plan.view.scope := by
    rw [hg.mem_found, hone, hview]
    exact ⟨hlive, by simp, hadmits⟩
  have hmatched := ((Ranking.rank_perm settings.weights _ plan).mem_iff (a := d)).trans
    (QueryPlan.mem_scan_of_text hdistinct hall hnone hne hfound)
  refine ⟨plan, _, hplan, Store.lookup_eq_scan hg hon plan, fun htext => ?_,
    fun f hf hsearched hfield => ?_⟩
  · refine hmatched.mpr fun t ht => ?_
    rw [Document.hasToken, Bool.or_eq_true, Bool.or_eq_true, List.contains_iff_mem,
      List.contains_iff_mem]
    rcases htext with htitle | hdescription
    · rw [htitle] at ht
      exact Or.inl (Or.inl ht)
    · rw [hdescription] at ht
      exact Or.inl (Or.inr ht)
  · refine hmatched.trans (forall₂_congr fun t ht => ?_)
    exact Document.hasToken_iff_of_keyword hkeywords ht
      (htexts hunmixed f hf hsearched r.query hfield t ht)

/-- A pump is found by the name of its manufacturer. -/
theorem found_by_own_text_of_manufacturer :
    let e : ChangeEvent := .write .equipment none "e1"
      (.object [("model", .string "Pump"), ("manufacturer", .string "Steel Works")]) ⟨1, 0⟩
    let applied := (start {} .standard .standard).apply e
    let r : SearchRequest :=
      { query := "Steel Works", entityType := some "equipment", matchMode := some .all }
    applied.1 = .ok (.upserted .inserted) ∧
      ∃ d plan found, e.toDocument .standard = .ok d ∧
        d.field? "manufacturer" = some (.text r.query) ∧
        applied.2.plan r .guest = .ok plan ∧ applied.2.store.lookup plan = .ok found ∧
        d ∈ (Ranking.rank {} found plan).map (·.document) := by
  intro e applied r
  obtain ⟨_, happlied, rfl⟩ : ∃ outcome, applied.1 = .ok outcome ∧ outcome = .upserted .inserted :=
    exists_of_toOption_map (by decide)
  obtain ⟨d', hd', hread⟩ : ∃ d, e.toDocument .standard = .ok d ∧
      (d.entityType, d.field? "manufacturer", (AccessView.resolve .standard .guest).scope.admits d) =
        (.equipment, some (.text r.query), true) := exists_of_toOption_map (by decide)
  obtain ⟨d, schema, hd, hschema, hsearch⟩ :=
    found_by_own_text {} .standard [] e .inserted happlied (Or.inl rfl)
  rw [Except.ok.inj (hd'.symm.trans hd)] at hread
  simp only [Prod.mk.injEq] at hread
  obtain ⟨htype, hfield, hadmits⟩ := hread
  rw [htype] at hschema hsearch
  cases hschema
  obtain ⟨plan, found, hplan, hlookup, _, hfields⟩ :=
    hsearch .guest r .relevance hadmits rfl rfl rfl rfl (by decide)
  have hwhole : ∀ t ∈ tokens r.query, staysWhole t = true := by decide
  have hmatched := (hfields (((FieldSpec.keyword "manufacturer").asSearchable).asFacet .anything)
    (by simp [SchemaRegistry.equipmentSchema]) rfl hfield).mpr fun t ht => Or.inl (hwhole t ht)
  exact ⟨happlied, d, plan, found, hd, hfield, hplan, hlookup, hmatched⟩

/-- A pump is not found by the name of its manufacturer when the name begins with a dotted capital I: the
dot that is left of it in lower case is no letter. -/
theorem not_found_by_dotted_manufacturer :
    let e : ChangeEvent := .write .equipment none "e1"
      (.object [("model", .string "Pump"), ("manufacturer", .string "İstanbul")]) ⟨1, 0⟩
    let applied := (start {} .standard .standard).apply e
    let r : SearchRequest :=
      { query := "İstanbul", entityType := some "equipment", matchMode := some .all }
    applied.1 = .ok (.upserted .inserted) ∧
      ∃ d f plan found, e.toDocument .standard = .ok d ∧ d.entityType = .equipment ∧
        f ∈ SchemaRegistry.equipmentSchema.fields ∧ f.searchable = true ∧
        d.field? f.name = some (.text r.query) ∧ tokens r.query ≠ [] ∧
        (AccessView.resolve .standard .guest).scope.admits d = true ∧
        applied.2.plan r .guest = .ok plan ∧ applied.2.store.lookup plan = .ok found ∧
        d ∉ (Ranking.rank {} found plan).map (·.document) := by
  intro e applied r
  obtain ⟨_, happlied, rfl⟩ : ∃ outcome, applied.1 = .ok outcome ∧ outcome = .upserted .inserted :=
    exists_of_toOption_map (by decide)
  obtain ⟨d, hd, hread⟩ : ∃ d, e.toDocument .standard = .ok d ∧
      (d.entityType, d.field? "manufacturer", (AccessView.resolve .standard .guest).scope.admits d) =
        (.equipment, some (.text r.query), true) := exists_of_toOption_map (by decide)
  simp only [Prod.mk.injEq] at hread
  obtain ⟨htype, hfield, hadmits⟩ := hread
  have hmade : QueryPlan.make .standard .standard {} r .guest =
      .ok (.understood .standard {} r .guest [.equipment] .relevance) :=
    QueryPlan.make_of_no_filters rfl (by decide) rfl rfl
  obtain ⟨plan, hplan, hcount⟩ : ∃ plan, applied.2.plan r .guest = .ok plan ∧
      (applied.2.store.lookup plan).toOption.map (fun found => found.candidates.length) = some 0 :=
    ⟨_, ((sameConfiguration_after _ (.apply e)).plan_eq r .guest).trans
      (plan_eq_ok_iff.mpr ⟨_, hmade, rfl⟩), by with_unfolding_all decide⟩
  obtain ⟨found, hlookup, hnone⟩ := exists_of_toOption_map hcount
  refine ⟨happlied, d, ((FieldSpec.keyword "manufacturer").asSearchable).asFacet .anything, plan,
    found, hd, htype, by simp [SchemaRegistry.equipmentSchema], rfl, hfield, by decide,
    hadmits, hplan, hlookup, ?_⟩
  rw [(Ranking.rank_perm {} found plan).mem_iff, List.length_eq_zero_iff.mp hnone]
  exact List.not_mem_nil

end Engine

end CatalogSearch
