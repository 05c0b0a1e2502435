import CatalogSearch.Engine.Basic
import CatalogSearch.Proofs.Index.Runs

/-!
# Runs of an engine

An engine is only ever changed by its calls.  They write to the store, remember suggestions and count,
and leave the settings, the schemas and the policy as they are.
-/

set_option autoImplicit false

namespace CatalogSearch

open CatalogSearch.Time

/-- A call of an engine. -/
inductive EngineCall where
  /-- A call of the store itself. -/
  | onStore (call : StoreCall)
  | index (document : Document)
  | remove (key : DocumentKey) (deletedAt : Instant)
  | apply (event : ChangeEvent)
  | purgeOlderThan (now : Instant) (seconds : Nat)
  | search (request : SearchRequest) (caller : Caller) (deadline : Deadline)
  | autocomplete (request : AutocompleteRequest) (caller : Caller)
  /-- Remembered suggestions that grow old or are too many are forgotten. -/
  | forget (kept : SuggestionKey → Bool)

namespace Engine

/-- An engine of nothing. -/
def start (settings : SearchSettings) (schemas : SchemaRegistry) (policy : AccessPolicy) : Engine :=
  { settings, schemas, policy }

/-- The engine after a call. -/
def after (g : Engine) : EngineCall → Engine
  | .onStore call => { g with store := g.store.after call }
  | .index document => (g.index document).2
  | .remove key deletedAt => (g.remove key deletedAt).2
  | .apply event => (g.apply event).2
  | .purgeOlderThan now seconds => (g.purgeOlderThan now seconds).2
  | .search request caller deadline => (g.search request caller deadline).2
  | .autocomplete request caller => (g.autocomplete request caller).2
  | .forget kept => { g with suggestions := ⟨g.suggestions.entries.filter fun e => kept e.1⟩ }

/-- The engine after calls, one after the other. -/
def run (g : Engine) (calls : List EngineCall) : Engine := calls.foldl after g

/-! ## What a call does -/

/-- A document that is indexed is given to the store. -/
theorem exists_index_eq (g : Engine) (d : Document) :
    ∃ tally, (g.index d).2 = { g with store := g.store.after (.upsert d), tally } := by
  cases h : g.store.upsert d with
  | error e =>
    refine ⟨g.tally, ?_⟩
    simp only [index, Store.after, h]
  | ok result =>
    simp only [index, Store.after, h]
    exact ⟨_, rfl⟩

theorem store_after_index (g : Engine) (d : Document) :
    (g.after (.index d)).store = g.store.after (.upsert d) := by
  obtain ⟨tally, h⟩ := exists_index_eq g d
  rw [after, h]

/-- A deletion is passed on to the store. -/
theorem exists_remove_eq (g : Engine) (key : DocumentKey) (deletedAt : Instant) :
    ∃ tally, (g.remove key deletedAt).2 =
      { g with store := g.store.after (.delete key deletedAt), tally } := by
  cases h : g.store.delete key deletedAt with
  | error e =>
    refine ⟨g.tally, ?_⟩
    simp only [remove, Store.after, h]
  | ok result =>
    simp only [remove, Store.after, h]
    exact ⟨_, rfl⟩

/-- The calls of the store that a change comes down to. -/
def storeCallsOf (schemas : SchemaRegistry) (e : ChangeEvent) :
    List StoreCall :=
  match e.operation with
  | .upsert =>
    match e.toDocument schemas with
    | .error _ => []
    | .ok d => [.upsert d]
  | .delete => [.delete e.key e.updatedAt]

theorem exists_apply_eq (g : Engine) (e : ChangeEvent) :
    ∃ tally, (g.apply e).2 =
      { g with store := g.store.run (storeCallsOf g.schemas e), tally } := by
  unfold apply storeCallsOf
  cases e.operation with
  | upsert =>
    cases e.toDocument g.schemas with
    | error fault => exact ⟨g.tally, rfl⟩
    | ok d => exact exists_index_eq g d
  | delete => exact exists_remove_eq g e.key e.updatedAt

/-- Counting keeps all but the tally. -/
theorem exists_search_eq (g : Engine) (r : SearchRequest) (caller : Caller) (deadline : Deadline) :
    ∃ tally, (g.search r caller deadline).2 = { g with tally } := by
  have hcount : ∀ (strays : List ScoredDocument) (g : Engine),
      ∃ tally, strays.foldl (fun g s => g.count (.violation s.document.entityType.name)) g =
        { g with tally } := by
    intro strays
    induction strays with
    | nil => exact fun g => ⟨g.tally, rfl⟩
    | cons s rest ih =>
      intro g
      obtain ⟨tally, h⟩ := ih (g.count (.violation s.document.entityType.name))
      exact ⟨tally, h⟩
  unfold search
  cases g.respond r caller deadline with
  | error e => exact ⟨_, rfl⟩
  | ok result =>
    obtain ⟨tally, h⟩ := hcount result.2 (g.count (.search caller.stateName))
    refine ⟨(tally.record (.timing "search")), ?_⟩
    simp only [h]
    rfl

/-- A request for suggestions has a plan, and its answer is remembered; or nothing happens. -/
theorem exists_autocomplete_eq (g : Engine) (r : AutocompleteRequest) (caller : Caller) :
    (∃ tally, (g.autocomplete r caller).2 = { g with tally }) ∨
    ∃ p tally, g.planSuggestions r caller = .ok (some p) ∧
      (g.autocomplete r caller).2 =
        { g with
          suggestions :=
            (g.suggestions.getOrCompute (g.suggestionKey p) (g.computeSuggestions p)).2
          tally } := by
  have htally : ∃ tally, (g.autocomplete r caller).2 =
      { ((g.count .autocomplete).suggest r caller).2 with tally } := by
    unfold autocomplete
    cases (g.count .autocomplete).suggest r caller with
    | mk answer changed =>
      cases answer with
      | error e => exact ⟨_, rfl⟩
      | ok answer =>
        obtain ⟨suggestions, remembered⟩ := answer
        cases remembered with
        | true => exact ⟨_, rfl⟩
        | false => exact ⟨_, rfl⟩
  obtain ⟨tally, hautocomplete⟩ := htally
  have hplan : (g.count .autocomplete).planSuggestions r caller = g.planSuggestions r caller := rfl
  rw [hautocomplete, suggest, hplan]
  cases g.planSuggestions r caller with
  | error e => exact Or.inl ⟨tally, rfl⟩
  | ok planned =>
    cases planned with
    | none => exact Or.inl ⟨tally, rfl⟩
    | some p => exact Or.inr ⟨p, tally, rfl, rfl⟩

theorem store_after_autocomplete (g : Engine) (r : AutocompleteRequest) (caller : Caller) :
    (g.after (.autocomplete r caller)).store = g.store := by
  rcases exists_autocomplete_eq g r caller with ⟨tally, h⟩ | ⟨p, tally, _, h⟩
  · rw [after, h]
  · rw [after, h]

/-- A call writes to the store, or remembers suggestions, or forgets some; it does no more than one of
these, and counts. -/
theorem after_cases (g : Engine) (call : EngineCall) :
    (∃ calls tally, g.after call = { g with store := g.store.run calls, tally }) ∨
    (∃ r caller p tally, g.planSuggestions r caller = .ok (some p) ∧
      g.after call =
        { g with
          suggestions :=
            (g.suggestions.getOrCompute (g.suggestionKey p) (g.computeSuggestions p)).2
          tally }) ∨
    (∃ kept : SuggestionKey → Bool, g.after call =
      { g with suggestions := ⟨g.suggestions.entries.filter fun e => kept e.1⟩ }) := by
  cases call with
  | onStore call => exact Or.inl ⟨[call], g.tally, rfl⟩
  | index document =>
    obtain ⟨tally, h⟩ := exists_index_eq g document
    exact Or.inl ⟨[.upsert document], tally, h⟩
  | remove key deletedAt =>
    obtain ⟨tally, h⟩ := exists_remove_eq g key deletedAt
    exact Or.inl ⟨[.delete key deletedAt], tally, h⟩
  | apply event =>
    obtain ⟨tally, h⟩ := exists_apply_eq g event
    exact Or.inl ⟨_, tally, h⟩
  | purgeOlderThan now seconds =>
    simp only [after, purgeOlderThan]
    cases now.secondsBefore? seconds with
    | none => exact Or.inl ⟨[], g.tally, rfl⟩
    | some cutoff => exact Or.inl ⟨[.purge cutoff], g.tally, rfl⟩
  | search request caller deadline =>
    obtain ⟨tally, h⟩ := exists_search_eq g request caller deadline
    exact Or.inl ⟨[], tally, h⟩
  | autocomplete request caller =>
    rcases exists_autocomplete_eq g request caller with ⟨tally, h⟩ | ⟨p, tally, hplan, h⟩
    · exact Or.inl ⟨[], tally, h⟩
    · exact Or.inr (Or.inl ⟨request, caller, p, tally, hplan, h⟩)
  | forget kept => exact Or.inr (Or.inr ⟨kept, rfl⟩)

/-! ## What a run keeps -/

/-- Engines with the same settings, schemas and policy. -/
structure SameConfiguration (g g' : Engine) : Prop where
  settings : g.settings = g'.settings
  schemas : g.schemas = g'.schemas
  policy : g.policy = g'.policy

theorem SameConfiguration.symm {g g' : Engine} (h : g.SameConfiguration g') :
    g'.SameConfiguration g :=
  ⟨h.settings.symm, h.schemas.symm, h.policy.symm⟩

theorem SameConfiguration.trans {g g' g'' : Engine} (h : g.SameConfiguration g')
    (h' : g'.SameConfiguration g'') : g.SameConfiguration g'' :=
  ⟨h.settings.trans h'.settings, h.schemas.trans h'.schemas, h.policy.trans h'.policy⟩

theorem sameConfiguration_after (g : Engine) (call : EngineCall) :
    (g.after call).SameConfiguration g := by
  rcases after_cases g call with ⟨_, _, h⟩ | ⟨_, _, _, _, _, h⟩ | ⟨_, h⟩
  · exact ⟨by rw [h], by rw [h], by rw [h]⟩
  · exact ⟨by rw [h], by rw [h], by rw [h]⟩
  · exact ⟨by rw [h], by rw [h], by rw [h]⟩

theorem sameConfiguration_run (g : Engine) (calls : List EngineCall) :
    (g.run calls).SameConfiguration g := by
  induction calls generalizing g with
  | nil => exact ⟨rfl, rfl, rfl⟩
  | cons call rest ih => exact (ih (g.after call)).trans (sameConfiguration_after g call)

theorem consistent_after {g : Engine} (hg : g.store.Consistent) (call : EngineCall) :
    (g.after call).store.Consistent := by
  rcases after_cases g call with ⟨calls, _, h⟩ | ⟨_, _, _, _, _, h⟩ | ⟨_, h⟩
  · rw [h]
    exact hg.run calls
  · rw [h]
    exact hg
  · rw [h]
    exact hg

/-- The store of an engine stays consistent. -/
theorem consistent_run {g : Engine} (hg : g.store.Consistent) (calls : List EngineCall) :
    (g.run calls).store.Consistent := by
  induction calls generalizing g with
  | nil => exact hg
  | cons call rest ih => exact ih (consistent_after hg call)

theorem consistent_start (settings : SearchSettings) (schemas : SchemaRegistry)
    (policy : AccessPolicy) : (start settings schemas policy).store.Consistent :=
  Store.consistent_empty

end Engine

end CatalogSearch
