import CatalogSearch.Proofs.Engine.Search
import CatalogSearch.Proofs.Index.Lookup
import Mathlib.Algebra.Order.BigOperators.Group.List
import Mathlib.Algebra.Order.Group.Nat

/-!
# Pages tile the matches

A request that is understood has a page of at least one match, and of no more than the settings allow.
The page is cut from all matches in order of rank; so the pages, one behind the other, list each of them
once, and no page shows anything but its own part of them.
-/

set_option autoImplicit false

namespace CatalogSearch

/-! ## Sizes -/

/-- Settings that a catalog can run with have a page size, and none below one. -/
theorem Settings.pageSizes_of_fault? {settings : Settings} (h : settings.fault? = none) :
    1 ≤ settings.search.defaultPageSize ∧
      settings.search.defaultPageSize ≤ settings.search.maxPageSize ∧
      1 ≤ settings.search.guestPageCap := by
  unfold fault? at h
  split at h
  · cases h
  · split at h
    · cases h
    · rename_i hdefault
      split at h
      · cases h
      · rename_i hguest
        simp only [Bool.or_eq_true, decide_eq_true_eq, not_or, Nat.not_lt] at hdefault
        exact ⟨Nat.pos_of_ne_zero hdefault.1, hdefault.2, Nat.pos_of_ne_zero hguest⟩

/-- Whatever page size is asked for, the one given is within the limits of the settings. -/
theorem QueryPlan.pageLength_bounds {settings : SearchSettings}
    (hdefault : 1 ≤ settings.defaultPageSize)
    (hmost : settings.defaultPageSize ≤ settings.maxPageSize) (wanted : Option Int) :
    1 ≤ pageLength settings wanted ∧ pageLength settings wanted ≤ settings.maxPageSize := by
  unfold pageLength
  cases wanted with
  | none => exact ⟨hdefault, hmost⟩
  | some size =>
    by_cases hsize : 1 ≤ size
    · simp only [if_pos hsize]
      omega
    · simp only [if_neg hsize]
      exact ⟨hdefault, hmost⟩

theorem QueryPlan.pageNumber_eq (wanted : Option Int) :
    pageNumber wanted = (max (wanted.getD 1) 1).toNat := by
  unfold pageNumber
  cases wanted with
  | none => rfl
  | some page =>
    by_cases hpage : 1 ≤ page
    · simp only [if_pos hpage, Option.getD_some]
      omega
    · simp only [if_neg hpage, Option.getD_some]
      omega

theorem QueryPlan.pageNumber_succ (k : Nat) : pageNumber (some (k + 1)) = k + 1 := by
  rw [pageNumber_eq, Option.getD_some]
  omega

theorem QueryPlan.pageNumber_sub_one (wanted : Option Int) :
    pageNumber wanted - 1 = (max (wanted.getD 1) 1 - 1).toNat := by
  rw [pageNumber_eq]
  omega

/-- A store holds all that it finds. -/
theorem Store.length_found_le (s : Store) (types : List EntityType) (scope : TenantScope) :
    (s.found types scope).length ≤ s.stats.documents := by
  have hstored : s.stats.documents =
      Number.total ((s.partitions.toList.map (·.2)).map fun p => p.documents.size) := by
    rw [List.map_map]
    rfl
  rw [length_found, hstored, Number.total_eq_sum, Number.total_eq_sum]
  exact ((List.filter_sublist.map _).map _).sum_le_sum fun _ _ => Nat.zero_le _

/-- A list in pieces of one size, of which there are enough, is the list. -/
theorem flatMap_pieces {α : Type} (l : List α) (size : Nat) :
    ∀ {count : Nat}, l.length ≤ count * size →
      ((List.range count).flatMap fun k => (l.drop (k * size)).take size) = l := by
  have hfront : ∀ count,
      ((List.range count).flatMap fun k => (l.drop (k * size)).take size) =
        l.take (count * size) := by
    intro count
    induction count with
    | zero => rw [Nat.zero_mul, List.take_zero, List.range_zero, List.flatMap_nil]
    | succ count ih =>
      rw [List.range_succ, List.flatMap_append, ih, List.flatMap_singleton, Nat.succ_mul,
        List.take_add]
  intro count hcount
  rw [hfront, List.take_of_length_le hcount]

namespace Engine

variable {g : Engine} {r : SearchRequest} {caller : Caller} {plan : QueryPlan}

/-! ## Plans and pages -/

/-- A request for another page has the plan of another page. -/
theorem plan_of_page (hplan : g.plan r caller = .ok plan) (page : Option Int) :
    g.plan { r with page } caller = .ok { plan with page := QueryPlan.pageNumber page } := by
  obtain ⟨_, hmade, rfl⟩ := plan_eq_ok_iff.mp hplan
  obtain ⟨htokens, types, sort, htypes, hsort, hfilters, rfl⟩ := QueryPlan.make_eq_ok_iff.mp hmade
  exact plan_eq_ok_iff.mpr ⟨_, QueryPlan.make_eq_ok_iff.mpr
    ⟨htokens, types, sort, htypes, hsort, hfilters, rfl⟩, rfl⟩

/-- A page has one match at least, as far as there are any, and not too many. -/
theorem pageSize_bounds {settings : Settings} (hsettings : settings.fault? = none)
    (hsearch : g.settings = settings.search) (hplan : g.plan r caller = .ok plan) :
    1 ≤ plan.pageSize ∧ plan.pageSize ≤ settings.search.maxPageSize ∧
      (caller.isGuest = true → plan.pageSize ≤ settings.search.guestPageCap) := by
  obtain ⟨hdefault, hmost, hguest⟩ := Settings.pageSizes_of_fault? hsettings
  obtain ⟨made, hmade, rfl⟩ := plan_eq_ok_iff.mp hplan
  have hview := QueryPlan.view_of_make hmade
  obtain ⟨_, _, _, _, _, _, hunderstood⟩ := QueryPlan.make_eq_ok_iff.mp hmade
  have hmadeSize : made.pageSize = QueryPlan.pageLength settings.search r.pageSize := by
    rw [← hunderstood, ← hsearch]
    rfl
  have hcaller : made.view.isGuest = caller.isGuest := by
    rw [hview, AccessView.isGuest, AccessView.resolve]
    split
    · rfl
    · rfl
  obtain ⟨hleast, hlimit⟩ := QueryPlan.pageLength_bounds hdefault hmost r.pageSize
  simp only [AccessView.pageSize, hcaller, hmadeSize, hsearch]
  cases caller.isGuest with
  | true =>
    simp only [if_true]
    omega
  | false => exact ⟨hleast, hlimit, fun h => by cases h⟩

/-- The bounds of a page are those asked for, cut at the end, if the matches can be counted in 64 bits;
reckoning in 64 bits makes no difference then. -/
theorem page_bounds (plan : QueryPlan) {total : Nat} (htotal : total ≤ Number.nat64Most) :
    pageStart plan total = min ((plan.page - 1) * plan.pageSize) total ∧
      pageStop plan total = min ((plan.page - 1) * plan.pageSize + plan.pageSize) total := by
  unfold pageStop pageStart QueryPlan.offset
  generalize (plan.page - 1) * plan.pageSize = before
  omega

theorem pageOf_eq {α : Type} (plan : QueryPlan) {ranked : List α}
    (htotal : ranked.length ≤ Number.nat64Most) :
    pageOf plan ranked =
      (ranked.drop ((plan.page - 1) * plan.pageSize)).take plan.pageSize := by
  obtain ⟨hstart, hstop⟩ := page_bounds plan htotal
  rw [pageOf, hstart, hstop]
  generalize (plan.page - 1) * plan.pageSize = before
  rw [List.extract_eq_take_drop]
  by_cases hbefore : before ≤ ranked.length
  · rw [Nat.min_eq_left hbefore, List.take_eq_take_iff, List.length_drop]
    omega
  · have hpast : ranked.length ≤ before := Nat.le_of_not_le hbefore
    rw [Nat.min_eq_right hpast, List.drop_length, List.drop_eq_nil_of_le hpast, List.take_nil,
      List.take_nil]

/-! ## Answers -/

/-- What a lookup finds is admitted, and there is no more of it than the store holds. -/
theorem ranked_of_lookup (hg : g.store.Consistent) (hon : g.store.available = true)
    {found : CandidateSet} (hlookup : g.store.lookup plan = .ok found) :
    let ranked := Ranking.rank g.settings.weights found plan
    (ranked.map (·.document.key)).Nodup ∧ ranked.length ≤ g.store.stats.documents ∧
      ∀ s ∈ ranked, plan.view.scope.admits s.document = true := by
  intro ranked
  have hperm : (ranked.map (·.document)).Perm (g.store.matched plan) := by
    rw [← Store.map_document_of_lookup hg hon hlookup]
    exact Ranking.rank_perm g.settings.weights found plan
  refine ⟨?_, ?_, fun s hs => ?_⟩
  · have hnodup := (hperm.map Document.key).nodup_iff.mpr (hg.nodup_keys_matched plan)
    rw [List.map_map] at hnodup
    exact hnodup
  · have hlength := hperm.length_eq
    rw [List.length_map] at hlength
    rw [hlength]
    exact Nat.le_trans (List.length_filter_le _ _) (g.store.length_found_le _ _)
  · have hmatched := hperm.mem_iff.mp (List.mem_map_of_mem (f := (·.document)) hs)
    exact (hg.mem_matched.mp hmatched).1.2.2

/-- The answer that shows a page of ranked matches; nothing but its results and its number is any
different on another page. -/
def pageResponse (g : Engine) (plan : QueryPlan) (ranked : List ScoredDocument) (page : Nat) :
    SearchResponse where
  results := ((ranked.drop ((page - 1) * plan.pageSize)).take plan.pageSize).map
    (plan.view.hit g.settings.pricePlaceholder)
  facets := Facets.aggregate g.schemas (ranked.map (·.document)) plan
  total := ranked.length
  page := page
  pageSize := plan.pageSize

/-- What was found is answered page by page, and nothing is kept back from a page at the last moment. -/
theorem answer_of_page (g : Engine) (plan : QueryPlan) {found : CandidateSet}
    {ranked : List ScoredDocument} (hranked : Ranking.rank g.settings.weights found plan = ranked)
    (hcount : ranked.length ≤ Number.nat64Most)
    (hadmitted : ∀ s ∈ ranked, plan.view.scope.admits s.document = true) (page : Nat) :
    g.answer { plan with page } found = (g.pageResponse plan ranked page, []) := by
  have hpage : pageOf { plan with page } ranked =
      (ranked.drop ((page - 1) * plan.pageSize)).take plan.pageSize :=
    pageOf_eq { plan with page } hcount
  have hall : ∀ s ∈ pageOf { plan with page } ranked, plan.view.scope.admits s.document = true := by
    intro s hs
    rw [hpage] at hs
    exact hadmitted s (List.mem_of_mem_drop (List.mem_of_mem_take hs))
  have hstrays : (pageOf { plan with page } ranked).filter
      (fun s => !plan.view.scope.admits s.document) = [] := by
    rw [List.filter_eq_nil_iff]
    intro s hs
    rw [hall s hs]
    exact Bool.false_ne_true
  have hshown : (pageOf { plan with page } ranked).filter
      (fun s => plan.view.scope.admits s.document) =
        (ranked.drop ((page - 1) * plan.pageSize)).take plan.pageSize := by
    rw [List.filter_eq_self.mpr hall, hpage]
  have hanswer : g.answer { plan with page } found =
      ({ results := plan.view.present g.settings.pricePlaceholder (pageOf { plan with page } ranked)
         facets := Facets.aggregate g.schemas (ranked.map (·.document)) plan
         total := ranked.length
         page
         pageSize := plan.pageSize },
        (pageOf { plan with page } ranked).filter fun s => !plan.view.scope.admits s.document) := by
    rw [← hranked]
    rfl
  rw [hanswer, hstrays, AccessView.present, hshown, pageResponse]

/-- A search for a page is answered with the page. -/
theorem respond_of_page (hplan : g.plan r caller = .ok plan) {found : CandidateSet}
    (hlookup : g.store.lookup plan = .ok found) {ranked : List ScoredDocument}
    (hranked : Ranking.rank g.settings.weights found plan = ranked)
    (hcount : ranked.length ≤ Number.nat64Most)
    (hadmitted : ∀ s ∈ ranked, plan.view.scope.admits s.document = true) (page : Option Int)
    (deadline : Deadline) :
    g.respond { r with page } caller deadline = deadline.checkAll.map fun _ =>
      (g.pageResponse plan ranked (QueryPlan.pageNumber page), []) := by
  have hcut : g.store.lookup { plan with page := QueryPlan.pageNumber page } = .ok found := hlookup
  rw [respond_of_plan (plan_of_page hplan page), execute_eq_answer hcut,
    answer_of_page g plan hranked hcount hadmitted]

/-- The pages, as many as there are matches for, list the matches. -/
theorem flatMap_pageResponse (g : Engine) (hleast : 1 ≤ plan.pageSize)
    (ranked : List ScoredDocument) :
    ((List.range ((ranked.length + plan.pageSize - 1) / plan.pageSize)).flatMap fun k =>
      (g.pageResponse plan ranked (k + 1)).results) =
        ranked.map (plan.view.hit g.settings.pricePlaceholder) := by
  have hround := Nat.lt_div_mul_add hleast (a := ranked.length + plan.pageSize - 1)
  simp only [pageResponse, Nat.add_sub_cancel, ← List.map_flatMap]
  rw [flatMap_pieces]
  omega

/-- Under settings that a catalog can run with, and after any calls that leave the store available and
no larger than a memory of 64 bits, a request that is understood has pages that tile its matches.  A
page holds one match at least as far as there are any, no more than the settings allow, and for a guest
no more than a guest may have.  Whichever page is asked for, its bounds lie within the matches and are
those of the page counted from one; it holds the matches between them in order of rank, none of which is
kept from its caller at the last moment; and the number of matches and the facets are those of every
other page.  As many pages as the matches need, one behind the other, list each match once. -/
theorem pages_tile (settings : Settings) (schemas : SchemaRegistry) (policy : AccessPolicy)
    (calls : List EngineCall) (r : SearchRequest) (caller : Caller) (plan : QueryPlan)
    (hsettings : settings.fault? = none)
    (hon : ((start settings.search schemas policy).run calls).store.available = true)
    (hmemory : ((start settings.search schemas policy).run calls).store.stats.documents ≤
      Number.nat64Most)
    (hplan : ((start settings.search schemas policy).run calls).plan r caller = .ok plan) :
    let g := (start settings.search schemas policy).run calls
    let size := plan.pageSize
    let hit := plan.view.hit settings.search.pricePlaceholder
    1 ≤ size ∧ size ≤ settings.search.maxPageSize ∧
    (caller.isGuest = true → size ≤ settings.search.guestPageCap) ∧
    ∃ (found : CandidateSet) (ranked : List ScoredDocument) (response : Option Int → SearchResponse),
      g.store.lookup plan = .ok found ∧
      ranked = Ranking.rank settings.search.weights found plan ∧
      (ranked.map (·.document)).Perm (found.candidates.map (·.document)) ∧
      (ranked.map (·.document.key)).Nodup ∧
      (∀ page deadline,
        g.respond { r with page } caller deadline =
          deadline.checkAll.map (fun _ => (response page, [])) ∧
        (g.search { r with page } caller deadline).1 = deadline.checkAll.map fun _ => response page) ∧
      (∀ page, ∃ cut : QueryPlan, g.plan { r with page } caller = .ok cut ∧ 1 ≤ cut.page ∧
        let before := (max (page.getD 1) 1 - 1).toNat * size
        pageStart cut ranked.length = min before ranked.length ∧
        pageStop cut ranked.length = min (before + size) ranked.length ∧
        (response page).results =
          (ranked.extract (pageStart cut ranked.length) (pageStop cut ranked.length)).map hit ∧
        ∀ i, (response page).results[i]? = if i < size then ranked[before + i]?.map hit else none) ∧
      (∀ page, (response page).page = (max (page.getD 1) 1).toNat ∧
        (response page).pageSize = size ∧ (response page).total = ranked.length ∧
        (response page).facets = (response none).facets) ∧
      ((List.range ((ranked.length + size - 1) / size)).flatMap fun k : Nat =>
        (response (some (k + 1))).results) = ranked.map hit := by
  intro g size hit
  have hg : g.store.Consistent := consistent_run (consistent_start _ _ _) calls
  have hconfigured := sameConfiguration_run (start settings.search schemas policy) calls
  have hsearch : g.settings = settings.search := hconfigured.settings
  obtain ⟨hleast, hlimit, hguest⟩ := pageSize_bounds hsettings hsearch hplan
  obtain ⟨found, hlookup⟩ : ∃ found, g.store.lookup plan = .ok found :=
    ⟨_, Store.lookup_eq_scan hg hon plan⟩
  obtain ⟨hkeys, hlength, hadmitted⟩ := ranked_of_lookup hg hon hlookup
  have hcount := Nat.le_trans hlength hmemory
  generalize hranked : Ranking.rank g.settings.weights found plan = ranked at *
  have hhit : plan.view.hit g.settings.pricePlaceholder = hit := by rw [hsearch]
  refine ⟨hleast, hlimit, hguest, found, ranked,
    fun page => g.pageResponse plan ranked (QueryPlan.pageNumber page), hlookup, ?_,
    hranked ▸ Ranking.rank_perm _ _ _, hkeys, fun page deadline => ?_, fun page => ?_,
    fun page => ⟨QueryPlan.pageNumber_eq page, rfl, rfl, rfl⟩, ?_⟩
  · rw [← hranked, hsearch]
  · have hrespond := respond_of_page hplan hlookup hranked hcount hadmitted page deadline
    refine ⟨hrespond, ?_⟩
    rw [search_fst, hrespond]
    cases deadline.checkAll with
    | error e => rfl
    | ok _ => rfl
  · have hpage : 1 ≤ QueryPlan.pageNumber page := by
      rw [QueryPlan.pageNumber_eq]
      omega
    obtain ⟨hstart, hstop⟩ :=
      page_bounds { plan with page := QueryPlan.pageNumber page } hcount
    have hcut := pageOf_eq { plan with page := QueryPlan.pageNumber page } hcount
    simp only [QueryPlan.pageNumber_sub_one] at hstart hstop hcut
    refine ⟨_, plan_of_page hplan page, hpage, hstart, hstop, ?_, fun i => ?_⟩
    · simp only [pageResponse, QueryPlan.pageNumber_sub_one, hhit]
      rw [← hcut, pageOf]
    · simp only [pageResponse, QueryPlan.pageNumber_sub_one, hhit]
      rw [List.getElem?_map, List.getElem?_take, List.getElem?_drop]
      split
      · rfl
      · rfl
  · have hpages := g.flatMap_pageResponse hleast ranked
    rw [hhit] at hpages
    simp only [QueryPlan.pageNumber_succ]
    exact hpages

/-- Three matches on pages of two: two on the first page, one on the second, none on the last page that
can be asked for. -/
theorem pages_tile_of_three_matches :
    let pump : Document :=
      { entityType := .part, id := "p1", title := "Steel pump", updatedAt := ⟨1, 0⟩ }
    let valve : Document :=
      { entityType := .part, id := "p2", title := "Steel valve", updatedAt := ⟨2, 0⟩ }
    let pipe : Document :=
      { entityType := .equipment, id := "p3", title := "Steel pipe", updatedAt := ⟨3, 0⟩ }
    let g := (start {} .standard .standard).run [.index pump, .index valve, .index pipe]
    ∃ response : Option Int → SearchResponse,
      (∀ page, g.respond { query := "steel", page, pageSize := some 2 } .guest {} =
        .ok (response page, [])) ∧
      (response none).total = 3 ∧
      (response (some 1)).results.length = 2 ∧ (response (some 2)).results.length = 1 ∧
      (response (some Number.int64Most)).results.length = 0 := by
  intro pump valve pipe g
  let r : SearchRequest := { query := "steel", pageSize := some 2 }
  have hmade : QueryPlan.make .standard .standard {} r .guest =
      .ok (.understood .standard {} r .guest EntityType.all .relevance) :=
    QueryPlan.make_of_no_filters rfl (by decide) rfl rfl
  have hconfigured := sameConfiguration_run (start {} .standard .standard)
    [.index pump, .index valve, .index pipe]
  obtain ⟨plan, hplan, hsize, hfound⟩ : ∃ plan, g.plan r .guest = .ok plan ∧ plan.pageSize = 2 ∧
      (g.store.lookup plan).toOption.map (fun found => found.candidates.length) = some 3 :=
    ⟨_, (hconfigured.plan_eq r .guest).trans (plan_eq_ok_iff.mpr ⟨_, hmade, rfl⟩),
      by decide, by with_unfolding_all decide⟩
  obtain ⟨_, _, _, found, ranked, response, hlookup, _, hperm, _, hrespond, hpages, htotal, _⟩ :=
    pages_tile {} .standard .standard [.index pump, .index valve, .index pipe] r .guest plan
      (by decide) (by decide) (by decide) hplan
  have hthree : ranked.length = 3 := by
    obtain ⟨found', hlookup', hcandidates⟩ := exists_of_toOption_map hfound
    have hlength := hperm.length_eq
    rwa [List.length_map, List.length_map, Except.ok.inj (hlookup.symm.trans hlookup'),
      hcandidates] at hlength
  have hlengths : ∀ page, (response page).results.length =
      min ((max (page.getD 1) 1 - 1).toNat * 2 + 2) 3 -
        min ((max (page.getD 1) 1 - 1).toNat * 2) 3 := by
    intro page
    obtain ⟨cut, _, _, hstart, hstop, hresults, _⟩ := hpages page
    rw [hresults, List.length_map, List.extract_eq_take_drop, List.length_take, List.length_drop,
      hstart, hstop, hsize, hthree]
    omega
  refine ⟨response, fun page => (hrespond page {}).1, ?_, ?_, ?_, ?_⟩
  · rw [(htotal none).2.2.1, hthree]
  · rw [hlengths]
    rfl
  · rw [hlengths]
    rfl
  · rw [hlengths]
    rfl

end Engine

end CatalogSearch
