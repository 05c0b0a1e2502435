import CatalogSearch.Proofs.Engine.Runs
import CatalogSearch.Proofs.Feed.Normalization
import CatalogSearch.Proofs.Query.Plan
import CatalogSearch.Proofs.Query.Ranking

/-!
# How a search is answered

A search is planned for the view of its caller.  Its stages look at the time and at the store; what is
made of the matches that were found depends on nothing but the plan and the configuration.
-/

set_option autoImplicit false

namespace CatalogSearch

open CatalogSearch.Text CatalogSearch.Time

/-! ## Plans -/

/-- A plan is made for the view of its caller. -/
theorem QueryPlan.view_of_make {schemas : SchemaRegistry} {policy : AccessPolicy}
    {settings : SearchSettings} {r : SearchRequest} {caller : Caller} {plan : QueryPlan}
    (h : make schemas policy settings r caller = .ok plan) :
    plan.view = AccessView.resolve policy caller := by
  obtain ⟨_, _, _, _, _, _, rfl⟩ := make_eq_ok_iff.mp h
  rfl

/-- The time is looked at before every stage. -/
def Deadline.checkAll (deadline : Deadline) : Except SearchError Unit := do
  deadline.check .lookup
  deadline.check .ranking
  deadline.check .facets
  deadline.check .visibility

namespace Engine

variable {g g' : Engine}

theorem plan_eq_ok_iff {r : SearchRequest} {caller : Caller} {plan : QueryPlan} :
    g.plan r caller = .ok plan ↔
      ∃ made, QueryPlan.make g.schemas g.policy g.settings r caller = .ok made ∧
        { made with pageSize := made.view.pageSize g.settings.guestPageCap made.pageSize } = plan := by
  unfold Engine.plan
  cases QueryPlan.make g.schemas g.policy g.settings r caller with
  | error e =>
    constructor
    · intro h
      cases h
    · rintro ⟨_, h, _⟩
      cases h
  | ok made =>
    constructor
    · intro h
      exact ⟨made, rfl, Except.ok.inj h⟩
    · rintro ⟨_, h, rfl⟩
      cases h
      rfl

theorem view_of_plan {r : SearchRequest} {caller : Caller} {plan : QueryPlan}
    (h : g.plan r caller = .ok plan) : plan.view = AccessView.resolve g.policy caller := by
  obtain ⟨made, hmade, rfl⟩ := plan_eq_ok_iff.mp h
  have hview := QueryPlan.view_of_make hmade
  exact hview

theorem respond_of_error {r : SearchRequest} {caller : Caller} {deadline : Deadline}
    {e : SearchError} (h : g.plan r caller = .error e) :
    g.respond r caller deadline = .error e := by
  rw [respond, h]
  rfl

theorem respond_of_plan {r : SearchRequest} {caller : Caller} {deadline : Deadline}
    {plan : QueryPlan} (h : g.plan r caller = .ok plan) :
    g.respond r caller deadline = g.execute plan deadline := by
  rw [respond, h]
  rfl

/-- A search answers with the response. -/
theorem search_fst (g : Engine) (r : SearchRequest) (caller : Caller) (deadline : Deadline) :
    (g.search r caller deadline).1 = (g.respond r caller deadline).map (·.1) := by
  unfold search
  cases g.respond r caller deadline with
  | error e => rfl
  | ok answer => rfl

theorem SameConfiguration.plan_eq (h : g.SameConfiguration g') (r : SearchRequest)
    (caller : Caller) : g.plan r caller = g'.plan r caller := by
  rw [Engine.plan, Engine.plan, h.schemas, h.policy, h.settings]

/-! ## Stages -/

/-- The answer that is made of what was found, with the documents kept from the caller at the last
moment. -/
def answer (g : Engine) (plan : QueryPlan) (found : CandidateSet) :
    SearchResponse × List ScoredDocument :=
  let ranked := Ranking.rank g.settings.weights found plan
  let page := pageOf plan ranked
  ({ results := plan.view.present g.settings.pricePlaceholder page
     facets := Facets.aggregate g.schemas (ranked.map (·.document)) plan
     total := ranked.length
     page := plan.page
     pageSize := plan.pageSize },
    page.filter fun s => !plan.view.scope.admits s.document)

/-- Every match is counted, whatever the page. -/
theorem total_answer (g : Engine) (plan : QueryPlan) (found : CandidateSet) :
    (g.answer plan found).1.total = found.candidates.length :=
  Ranking.length_rank g.settings.weights found plan

/-- What was found is answered, if the time is not up before. -/
theorem execute_eq_answer {g : Engine} {plan : QueryPlan} {found : CandidateSet}
    (hlookup : g.store.lookup plan = .ok found) (deadline : Deadline) :
    g.execute plan deadline = deadline.checkAll.map fun _ => g.answer plan found := by
  unfold execute Deadline.checkAll
  rw [hlookup]
  cases deadline.check .lookup with
  | error e => rfl
  | ok _ =>
    cases deadline.check .ranking with
    | error e => rfl
    | ok _ =>
      cases deadline.check .facets with
      | error e => rfl
      | ok _ =>
        cases deadline.check .visibility with
        | error e => rfl
        | ok _ => rfl

/-- Where nothing can be looked up the search fails with that, if the time is not up before. -/
theorem execute_of_error {plan : QueryPlan} {e : SearchError}
    (hlookup : g.store.lookup plan = .error e) (deadline : Deadline) :
    g.execute plan deadline = (deadline.check .lookup).bind fun _ => .error e := by
  unfold execute
  rw [hlookup]
  rfl

/-- A search succeeds when it is understood, the store is there and the time is not up; it answers what
was found. -/
theorem search_eq_ok_iff {r : SearchRequest} {caller : Caller} {deadline : Deadline}
    {response : SearchResponse} :
    (g.search r caller deadline).1 = .ok response ↔
      deadline.checkAll = .ok () ∧ ∃ plan found, g.plan r caller = .ok plan ∧
        g.store.lookup plan = .ok found ∧ (g.answer plan found).1 = response := by
  rw [search_fst]
  cases hplan : g.plan r caller with
  | error e =>
    rw [respond_of_error hplan]
    simp [Except.map]
  | ok plan =>
    rw [respond_of_plan hplan]
    cases hlookup : g.store.lookup plan with
    | error e =>
      rw [execute_of_error hlookup]
      cases deadline.check .lookup with
      | error e' => simp [Except.bind, Except.map, hlookup]
      | ok _ => simp [Except.bind, Except.map, hlookup]
    | ok found =>
      rw [execute_eq_answer hlookup]
      cases deadline.checkAll with
      | error e => simp [Except.map]
      | ok _ => simp [Except.map, hlookup]

/-- The order in which matches of different keys are listed does not matter. -/
theorem answer_of_perm (g : Engine) (plan : QueryPlan) {found : CandidateSet}
    (hkeys : (found.candidates.map (·.document.key)).Nodup) {order : List Candidate}
    (horder : order.Perm found.candidates) :
    g.answer plan { found with candidates := order } = g.answer plan found := by
  simp only [answer, Ranking.rank_of_perm g.settings.weights found plan hkeys horder]

theorem SameConfiguration.answer_eq (h : g.SameConfiguration g') (plan : QueryPlan)
    (found : CandidateSet) : g.answer plan found = g'.answer plan found := by
  rw [answer, answer, h.settings, h.schemas]

/-- Engines that make the same of what they find for a caller answer its searches alike. -/
theorem SameConfiguration.search_fst_eq (hsame : g.SameConfiguration g') {caller : Caller}
    (hanswer : ∀ plan : QueryPlan, plan.view = AccessView.resolve g.policy caller →
      ∃ found found', g.store.lookup plan = .ok found ∧ g'.store.lookup plan = .ok found' ∧
        (g.answer plan found).1 = (g'.answer plan found').1)
    (r : SearchRequest) (deadline : Deadline) :
    (g.search r caller deadline).1 = (g'.search r caller deadline).1 := by
  rw [search_fst, search_fst]
  cases hplan : g.plan r caller with
  | error e =>
    rw [respond_of_error hplan, respond_of_error ((hsame.plan_eq r caller).symm.trans hplan)]
  | ok plan =>
    obtain ⟨found, found', hfound, hfound', hsameAnswer⟩ := hanswer plan (view_of_plan hplan)
    rw [respond_of_plan hplan, respond_of_plan ((hsame.plan_eq r caller).symm.trans hplan),
      execute_eq_answer hfound, execute_eq_answer hfound']
    cases deadline.checkAll with
    | error e => simp only [Except.map]
    | ok _ => simp only [Except.map, hsameAnswer]

end Engine

end CatalogSearch
