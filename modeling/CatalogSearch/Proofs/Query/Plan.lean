import CatalogSearch.Query.Plan

/-!
# When a plan is made

A request has a plan exactly when its query has a token, its type and its order are understood and no
filter is refused; and what the plan says then is read off the request.
-/

set_option autoImplicit false

namespace CatalogSearch.QueryPlan

open CatalogSearch.Text

/-- Checks that are made one after the other pass when each of them does. -/
theorem forM_eq_ok_iff {α ε : Type} (check : α → Except ε Unit) (l : List α) :
    l.forM check = .ok () ↔ ∀ a ∈ l, check a = .ok () := by
  induction l with
  | nil => exact ⟨fun _ a ha => absurd ha List.not_mem_nil, fun _ => rfl⟩
  | cons a rest ih =>
    have hcons : (a :: rest).forM check = check a >>= fun _ => rest.forM check := rfl
    rw [List.forall_mem_cons, ← ih, hcons]
    cases check a with
    | error e => simp [bind, Except.bind]
    | ok _ => simp [bind, Except.bind]

/-- The plan of a request whose types and order have been understood. -/
def understood (policy : AccessPolicy) (settings : SearchSettings) (r : SearchRequest)
    (caller : Caller) (types : List EntityType) (sort : SortMode) : QueryPlan where
  tokens := distinctTokens r.query
  phrase := Text.phrase r.query
  types := types
  filters := r.filters.toList
  sort := sort
  matchMode := r.matchMode.getD .all
  page := pageNumber r.page
  pageSize := pageLength settings r.pageSize
  view := AccessView.resolve policy caller

variable {schemas : SchemaRegistry} {policy : AccessPolicy} {settings : SearchSettings}
  {r : SearchRequest} {caller : Caller} {plan : QueryPlan}

theorem make_eq_ok_iff :
    make schemas policy settings r caller = .ok plan ↔
      distinctTokens r.query ≠ [] ∧ ∃ types sort,
        EntityType.parseFilter r.entityType = .ok types ∧ SortMode.ofText r.sort = .ok sort ∧
        (∀ filter ∈ r.filters.toList,
          checkFilter schemas r types (AccessView.resolve policy caller) filter.1 = .ok ()) ∧
        understood policy settings r caller types sort = plan := by
  unfold make understood
  simp only [bind, Except.bind, pure, Except.pure, throw, throwThe, MonadExceptOf.throw]
  constructor
  · intro h
    split at h
    · cases h
    · rename_i htokens
      split at h
      · cases h
      · rename_i types htypes
        split at h
        · cases h
        · rename_i sort hsort
          split at h
          · cases h
          · rename_i hfilters
            exact ⟨by simpa using htokens, types, sort, htypes, hsort,
              (forM_eq_ok_iff _ _).mp hfilters, Except.ok.inj h⟩
  · rintro ⟨htokens, types, sort, htypes, hsort, hfilters, rfl⟩
    have hchecked := (forM_eq_ok_iff _ _).mpr hfilters
    rw [if_neg (by simpa using htokens)]
    simp only [htypes, hsort, hchecked]

/-- A filter is allowed when one of the types declares its field and none refuses it to the caller. -/
theorem checkFilter_eq_ok_iff {types : List EntityType} {view : AccessView} {field : String} :
    checkFilter schemas r types view field = .ok () ↔
      schemas.declaresAny types field = true ∧
        ∀ t ∈ types, schemas.isSensitive t field = true → view.canReadSensitiveType t = true := by
  unfold checkFilter
  cases schemas.declaresAny types field with
  | false => simp
  | true =>
    simp only [Bool.not_true, Bool.false_eq_true, if_false, true_and]
    split
    · rename_i hrefused
      obtain ⟨t, ht, hrefused⟩ := List.any_eq_true.mp hrefused
      rw [Bool.and_eq_true, Bool.not_eq_true'] at hrefused
      refine ⟨nofun, fun hallowed => ?_⟩
      rw [hallowed t ht hrefused.1] at hrefused
      cases hrefused.2
    · rename_i hallowed
      refine ⟨fun _ t ht hsensitive => ?_, fun _ => rfl⟩
      cases hread : view.canReadSensitiveType t with
      | true => rfl
      | false =>
        refine absurd (List.any_eq_true.mpr ⟨t, ht, ?_⟩) hallowed
        rw [hsensitive, hread]
        rfl

/-- A document meets the filters when the caller sees a value in each of their fields that is what is asked
for. -/
theorem matchesFilters_iff {d : Document} :
    plan.matchesFilters d = true ↔ ∀ filter ∈ plan.filters, ∃ value,
      plan.view.visibleValue? d filter.1 = some value ∧ value.matchesFilter filter.2 = true := by
  rw [matchesFilters, List.all_eq_true]
  refine forall₂_congr fun filter _ => ?_
  cases hvalue : plan.view.visibleValue? d filter.1 with
  | none => simp [hvalue]
  | some value => simp [hvalue]

/-- A request without filters is understood when its tokens, type and order are. -/
theorem make_of_no_filters {types : List EntityType} {sort : SortMode} (hfilters : r.filters = ∅)
    (htokens : distinctTokens r.query ≠ []) (htypes : EntityType.parseFilter r.entityType = .ok types)
    (hsort : SortMode.ofText r.sort = .ok sort) :
    make schemas policy settings r caller =
      .ok (understood policy settings r caller types sort) := by
  refine make_eq_ok_iff.mpr ⟨htokens, types, sort, htypes, hsort, fun filter hfilter => ?_, rfl⟩
  have hnone : (∅ : Std.ExtTreeMap String String).toList = [] := rfl
  rw [hfilters, hnone] at hfilter
  exact absurd hfilter List.not_mem_nil

end CatalogSearch.QueryPlan
