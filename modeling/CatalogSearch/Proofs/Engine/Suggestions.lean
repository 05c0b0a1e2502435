import CatalogSearch.Proofs.Engine.Runs
import CatalogSearch.Proofs.Index.Generations
import CatalogSearch.Proofs.Text.Token

/-!
# Remembered suggestions are fresh

Suggestions are remembered under the generation of the index, the scope, the types, the text and the
limit.  Nothing else matters to them: the stem and the start of a query can be read off its text, and
as long as the generation stays so do the partitions.  So what is remembered is what would be worked
out now.
-/

set_option autoImplicit false

namespace CatalogSearch

open CatalogSearch.Text

/-! ## What a key says -/

/-- The text of a tenant's scope is no text that begins otherwise. -/
theorem TenantScope.tenant_ne (tenant : String) {word : String}
    (hword : word.toList.head? ≠ some 't') : "tenant:" ++ tenant ≠ word := by
  intro h
  rw [← h, String.toList_append] at hword
  exact hword rfl

theorem TenantScope.cacheKey_inj {scope scope' : TenantScope}
    (h : scope.cacheKey = scope'.cacheKey) : scope = scope' := by
  cases scope with
  | unrestricted =>
    cases scope' with
    | unrestricted => rfl
    | restricted tenant' =>
      cases tenant' with
      | none => exact absurd h (by decide)
      | some tenant' => exact absurd h.symm (tenant_ne tenant' (by decide))
  | restricted tenant =>
    cases tenant with
    | none =>
      cases scope' with
      | unrestricted => exact absurd h (by decide)
      | restricted tenant' =>
        cases tenant' with
        | none => rfl
        | some tenant' => exact absurd h.symm (tenant_ne tenant' (by decide))
    | some tenant =>
      cases scope' with
      | unrestricted => exact absurd h (tenant_ne tenant (by decide))
      | restricted tenant' =>
        cases tenant' with
        | none => exact absurd h (tenant_ne tenant (by decide))
        | some tenant' =>
          rw [cacheKey, cacheKey, String.append_right_inj] at h
          rw [h]

/-- A text in which a space stands before its last word is that word and what is before the space. -/
theorem split_at_last_space {left right word word' : List Char} (hword : ' ' ∉ word)
    (hword' : ' ' ∉ word') (h : left ++ ' ' :: word = right ++ ' ' :: word') :
    left = right ∧ word = word' := by
  rcases List.append_eq_append_iff.mp h with ⟨middle, hright, hrest⟩ | ⟨middle, hleft, hrest⟩
  · cases middle with
    | nil =>
      rw [List.append_nil] at hright
      exact ⟨hright.symm, (List.cons.inj hrest).2⟩
    | cons c middle =>
      have hmem : ' ' ∈ word := by
        rw [(List.cons.inj hrest).2]
        exact List.mem_append_right _ List.mem_cons_self
      exact absurd hmem hword
  · cases middle with
    | nil =>
      rw [List.append_nil] at hleft
      exact ⟨hleft, (List.cons.inj hrest).2.symm⟩
    | cons c middle =>
      have hmem : ' ' ∈ word' := by
        rw [(List.cons.inj hrest).2]
        exact List.mem_append_right _ List.mem_cons_self
      exact absurd hmem hword'

/-! ## What a cache finds -/

namespace SuggestionCache

/-- A cache that finds nothing but what another one does. -/
def Recalls (past c : SuggestionCache) : Prop :=
  ∀ key answer, c.find? key = some answer → past.find? key = some answer

theorem find?_remember {c : SuggestionCache} {key key' : SuggestionKey}
    {answer answer' : List String} (h : (c.remember key answer).find? key' = some answer') :
    key = key' ∧ answer = answer' ∨ c.find? key' = some answer' := by
  unfold find? remember at h
  rw [List.find?_cons] at h
  by_cases hkey : key = key'
  · rw [beq_iff_eq.mpr hkey] at h
    exact Or.inl ⟨hkey, Option.some.inj h⟩
  · rw [beq_eq_false_iff_ne.mpr hkey] at h
    exact Or.inr h

theorem recalls_filter (c : SuggestionCache) (kept : SuggestionKey → Bool) :
    c.Recalls ⟨c.entries.filter fun e => kept e.1⟩ := by
  intro key answer h
  obtain ⟨e, hfind, rfl⟩ := Option.map_eq_some_iff.mp h
  rw [List.find?_filter] at hfind
  have hkey : kept key = true := by
    have hfound := List.find?_some hfind
    simp only [beq_iff_eq, decide_eq_true_eq] at hfound
    rw [← hfound.2]
    exact hfound.1
  refine Option.map_eq_some_iff.mpr ⟨e, ?_, rfl⟩
  rw [← hfind]
  congr 1
  funext e'
  by_cases he' : e'.1 = key
  · simp [he', hkey]
  · simp [he']

/-- Asking a cache leaves it, or adds what was worked out because it found nothing. -/
theorem getOrCompute_cases {ε : Type} (c : SuggestionCache) (key : SuggestionKey)
    (compute : Except ε (List String)) :
    (c.getOrCompute key compute).2 = c ∨
      ∃ answer, c.find? key = none ∧ compute = .ok answer ∧
        (c.getOrCompute key compute).2 = c.remember key answer := by
  unfold getOrCompute
  cases c.find? key with
  | some answer => exact Or.inl rfl
  | none =>
    cases compute with
    | error e => exact Or.inl rfl
    | ok answer => exact Or.inr ⟨answer, rfl, rfl, rfl⟩

end SuggestionCache

namespace Engine

/-- The text of a query: its stem with a space behind, unless there is none, and its start. -/
theorem toList_query (stem : List String) (start : String) :
    (" ".intercalate (stem ++ [start])).toList =
      if stem = [] then start.toList
      else (" ".intercalate stem).toList ++ ' ' :: start.toList := by
  by_cases hstem : stem = []
  · rw [if_pos hstem, hstem, List.nil_append, String.intercalate_singleton]
  · rw [if_neg hstem, String.intercalate_append_of_ne_nil hstem (List.cons_ne_nil _ _),
      String.intercalate_singleton, String.toList_append, String.toList_append, List.append_assoc]
    rfl

/-- The text of a query says what its start is and what is put before the terms. -/
theorem query_inj {stem stem' : List String} {start start' : String}
    (hstart : ' ' ∉ start.toList) (hstart' : ' ' ∉ start'.toList)
    (h : " ".intercalate (stem ++ [start]) = " ".intercalate (stem' ++ [start'])) :
    start = start' ∧ " ".intercalate stem = " ".intercalate stem' := by
  have hchars := congrArg String.toList h
  rw [toList_query, toList_query] at hchars
  by_cases hstem : stem = []
  · by_cases hstem' : stem' = []
    · rw [if_pos hstem, if_pos hstem'] at hchars
      exact ⟨String.toList_inj.mp hchars, by rw [hstem, hstem']⟩
    · rw [if_pos hstem, if_neg hstem'] at hchars
      rw [hchars] at hstart
      exact absurd (List.mem_append_right _ List.mem_cons_self) hstart
  · by_cases hstem' : stem' = []
    · rw [if_neg hstem, if_pos hstem'] at hchars
      rw [← hchars] at hstart'
      exact absurd (List.mem_append_right _ List.mem_cons_self) hstart'
    · rw [if_neg hstem, if_neg hstem'] at hchars
      obtain ⟨hbefore, hword⟩ := split_at_last_space hstart hstart' hchars
      exact ⟨String.toList_inj.mp hword, String.toList_inj.mp hbefore⟩

/-- Plans under one key have the same suggestions. -/
theorem computeSuggestions_eq_of_key {g : Engine} {p q : SuggestionPlan}
    (hp : ' ' ∉ p.start.toList) (hq : ' ' ∉ q.start.toList)
    (h : g.suggestionKey p = g.suggestionKey q) :
    g.computeSuggestions p = g.computeSuggestions q := by
  simp only [suggestionKey, SuggestionKey.mk.injEq, true_and] at h
  obtain ⟨hscope, htypes, hquery, hlimit⟩ := h
  obtain ⟨hstart, hstem⟩ := query_inj hp hq hquery
  have hcomplete : complete p.stem = complete q.stem := by
    funext term
    rw [complete, complete, hstem]
  rw [computeSuggestions, computeSuggestions, TenantScope.cacheKey_inj hscope, htypes, hstart,
    hlimit, hcomplete]

/-! ## What is planned -/

/-- What the plan of a request says: the text is long enough, its last token is to be completed, and the
scope is the caller's. -/
structure Planned (g : Engine) (r : AutocompleteRequest) (caller : Caller) (p : SuggestionPlan) :
    Prop where
  long : g.settings.autocompleteMinChars ≤ (trim r.query).length
  start : (tokens r.query).getLast? = some p.start
  stem : p.stem = (tokens r.query).dropLast
  types : EntityType.parseFilter r.entityType = .ok p.types
  scope : p.scope = (AccessView.resolve g.policy caller).scope
  limit : p.limit = min (max (r.limit.getD g.settings.autocompleteLimit) 1)
    (max g.settings.autocompleteLimit 1)

theorem planned_of_planSuggestions {g : Engine} {r : AutocompleteRequest} {caller : Caller}
    {p : SuggestionPlan} (h : g.planSuggestions r caller = .ok (some p)) :
    g.Planned r caller p := by
  unfold planSuggestions at h
  cases hlast : (tokens r.query).getLast? with
  | none =>
    simp [hlast, throw, throwThe, MonadExceptOf.throw] at h
  | some start =>
    cases htypes : EntityType.parseFilter r.entityType with
    | error e =>
      simp [hlast, htypes, bind, Except.bind] at h
    | ok types =>
      simp only [hlast, htypes, bind, Except.bind, pure, Except.pure] at h
      split at h
      · cases h
      · rename_i hlong
        cases h
        exact ⟨Nat.le_of_not_lt hlong, hlast, rfl, htypes, rfl, rfl⟩

/-- A request that is understood and has no plan for all that has too short a text. -/
theorem short_of_planSuggestions {g : Engine} {r : AutocompleteRequest} {caller : Caller}
    (h : g.planSuggestions r caller = .ok none) :
    (trim r.query).length < g.settings.autocompleteMinChars := by
  unfold planSuggestions at h
  cases hlast : (tokens r.query).getLast? with
  | none => simp [hlast, throw, throwThe, MonadExceptOf.throw] at h
  | some start =>
    cases htypes : EntityType.parseFilter r.entityType with
    | error e => simp [hlast, htypes, bind, Except.bind] at h
    | ok types =>
      simp only [hlast, htypes, bind, Except.bind, pure, Except.pure] at h
      split at h
      · assumption
      · cases h

/-- What is completed is a token. -/
theorem Planned.space_not_mem_start {g : Engine} {r : AutocompleteRequest} {caller : Caller}
    {p : SuggestionPlan} (h : g.Planned r caller p) : ' ' ∉ p.start.toList :=
  space_not_mem_of_mem_tokens (List.mem_of_getLast? h.start)

/-! ## What is remembered -/

/-- The engine with its store available. -/
def online (g : Engine) : Engine := { g with store := g.store.setAvailable true }

theorem computeSuggestions_online {g : Engine} (hon : g.store.available = true)
    (p : SuggestionPlan) : g.online.computeSuggestions p = g.computeSuggestions p := by
  simp only [computeSuggestions, online, Store.setAvailable, Store.suggest, Store.ensureAvailable,
    hon, Store.visiblePartitions]

/-- Suggestions rest on the partitions. -/
theorem computeSuggestions_online_congr {g g' : Engine}
    (h : g'.store.partitions = g.store.partitions) (p : SuggestionPlan) :
    g'.online.computeSuggestions p = g.online.computeSuggestions p := by
  simp only [computeSuggestions, online, Store.setAvailable, Store.suggest, Store.ensureAvailable,
    Store.visiblePartitions, h]

/-- What is remembered is of no later generation than the index; what is of its generation is what
would be worked out now for any plan under its key. -/
structure Coherent (g : Engine) : Prop where
  past : ∀ key answer, g.suggestions.find? key = some answer → key.generation ≤ g.store.generation
  present : ∀ key answer, g.suggestions.find? key = some answer →
    ∀ p : SuggestionPlan, ' ' ∉ p.start.toList → g.suggestionKey p = key →
      g.online.computeSuggestions p = .ok answer

theorem coherent_start (settings : SearchSettings) (schemas : SchemaRegistry)
    (policy : AccessPolicy) : (start settings schemas policy).Coherent where
  past _ _ h := by cases h
  present _ _ h := by cases h

namespace Coherent

variable {g : Engine}

/-- A write makes what is remembered older, or changes no partition. -/
theorem write (hg : g.Coherent) (calls : List StoreCall) (tally : Tally) :
    ({ g with store := g.store.run calls, tally } : Engine).Coherent where
  past key answer h := Nat.le_trans (hg.past key answer h) (Store.generation_run g.store calls).1
  present key answer h p hp hkey := by
    obtain ⟨hle, hpartitions⟩ := Store.generation_run g.store calls
    have hat : (g.store.run calls).generation = key.generation :=
      congrArg SuggestionKey.generation hkey
    have hsame : (g.store.run calls).generation = g.store.generation := by
      have hpast := hg.past key answer h
      omega
    have hkey' : g.suggestionKey p = key := by
      rw [← hkey]
      simp only [suggestionKey, hsame]
    rw [computeSuggestions_online_congr (hpartitions hsame)]
    exact hg.present key answer h p hp hkey'

/-- What is found in a cache of less may be found. -/
theorem of_recalls (hg : g.Coherent) {c : SuggestionCache} (hc : g.suggestions.Recalls c) :
    ({ g with suggestions := c } : Engine).Coherent where
  past key answer h := hg.past key answer (hc key answer h)
  present key answer h := hg.present key answer (hc key answer h)

/-- What has just been worked out may be remembered. -/
theorem remember (hg : g.Coherent) {p : SuggestionPlan} (hp : ' ' ∉ p.start.toList)
    {answer : List String} (hanswer : g.computeSuggestions p = .ok answer) :
    ({ g with suggestions := g.suggestions.remember (g.suggestionKey p) answer } :
      Engine).Coherent := by
  have hon : g.store.available = true := by
    cases hon : g.store.available with
    | true => rfl
    | false =>
      rw [computeSuggestions, Store.suggest, Store.ensureAvailable, hon] at hanswer
      cases hanswer
  refine ⟨fun key found h => ?_, fun key found h q hq hkey => ?_⟩
  · rcases SuggestionCache.find?_remember h with ⟨rfl, rfl⟩ | h
    · exact Nat.le_refl _
    · exact hg.past key found h
  · rcases SuggestionCache.find?_remember h with ⟨rfl, rfl⟩ | h
    · have hplan : g.computeSuggestions q = g.computeSuggestions p :=
        computeSuggestions_eq_of_key hq hp hkey
      exact (computeSuggestions_online hon q).trans (hplan.trans hanswer)
    · exact hg.present key found h q hq hkey

theorem tally (hg : g.Coherent) (tally : Tally) : ({ g with tally } : Engine).Coherent :=
  ⟨hg.past, hg.present⟩

theorem after (hg : g.Coherent) (call : EngineCall) : (g.after call).Coherent := by
  rcases after_cases g call with ⟨calls, tally, h⟩ | ⟨r, caller, p, tally, hplan, h⟩ | ⟨kept, h⟩
  · rw [h]
    exact hg.write calls tally
  · rw [h]
    have hstart := (planned_of_planSuggestions hplan).space_not_mem_start
    rcases g.suggestions.getOrCompute_cases (g.suggestionKey p) (g.computeSuggestions p) with
      hsame | ⟨answer, _, hanswer, hadded⟩
    · rw [hsame]
      exact hg.tally tally
    · rw [hadded]
      exact (hg.remember hstart hanswer).tally tally
  · rw [h]
    exact hg.of_recalls (g.suggestions.recalls_filter kept)

theorem run (hg : g.Coherent) (calls : List EngineCall) : (g.run calls).Coherent := by
  induction calls generalizing g with
  | nil => exact hg
  | cons call rest ih => exact ih (hg.after call)

end Coherent

/-- A request for suggestions answered without regard to what is remembered. -/
def freshSuggestions (g : Engine) (r : AutocompleteRequest) (caller : Caller) :
    Except SearchError (List String) :=
  match g.planSuggestions r caller with
  | .error e => .error e
  | .ok none => .ok []
  | .ok (some p) => g.computeSuggestions p

/-- Suggestions are those that are remembered, or else worked out. -/
theorem fst_autocomplete (g : Engine) (r : AutocompleteRequest) (caller : Caller) :
    (g.autocomplete r caller).1 =
      match g.planSuggestions r caller with
      | .error e => .error e
      | .ok none => .ok []
      | .ok (some p) =>
        match g.suggestions.find? (g.suggestionKey p) with
        | some answer => .ok answer
        | none => g.computeSuggestions p := by
  have hplan : (g.count .autocomplete).planSuggestions r caller = g.planSuggestions r caller := rfl
  unfold autocomplete suggest
  rw [hplan]
  cases g.planSuggestions r caller with
  | error e => rfl
  | ok planned =>
    cases planned with
    | none => rfl
    | some p =>
      have hanswer : (g.count .autocomplete).suggestions.getOrCompute
          ((g.count .autocomplete).suggestionKey p) ((g.count .autocomplete).computeSuggestions p) =
        g.suggestions.getOrCompute (g.suggestionKey p) (g.computeSuggestions p) := rfl
      simp only [hanswer]
      unfold SuggestionCache.getOrCompute
      cases g.suggestions.find? (g.suggestionKey p) with
      | some answer => rfl
      | none =>
        cases g.computeSuggestions p with
        | error e => rfl
        | ok answer => rfl

/-- What is remembered is no different from what would be worked out. -/
theorem autocomplete_eq_fresh {g : Engine} (hg : g.Coherent) (hon : g.store.available = true)
    (r : AutocompleteRequest) (caller : Caller) :
    (g.autocomplete r caller).1 = g.freshSuggestions r caller := by
  rw [fst_autocomplete, freshSuggestions]
  cases h : g.planSuggestions r caller with
  | error e => rfl
  | ok planned =>
    cases planned with
    | none => rfl
    | some p =>
      cases hfind : g.suggestions.find? (g.suggestionKey p) with
      | none => simp only [hfind]
      | some answer =>
        have hstart := (planned_of_planSuggestions h).space_not_mem_start
        have hpresent := hg.present _ answer hfind p hstart rfl
        rw [computeSuggestions_online hon] at hpresent
        simp only [hfind, hpresent]

/-! ## Two engines -/

variable {g g' : Engine}

theorem SameConfiguration.planSuggestions_eq (h : g.SameConfiguration g')
    (r : AutocompleteRequest) (caller : Caller) :
    g.planSuggestions r caller = g'.planSuggestions r caller := by
  simp only [planSuggestions, h.settings, h.policy]

theorem freshSuggestions_eq (hsame : g.SameConfiguration g') {caller : Caller}
    (hsuggest : ∀ types start,
      g.store.suggest types (AccessView.resolve g.policy caller).scope start =
        g'.store.suggest types (AccessView.resolve g.policy caller).scope start)
    (r : AutocompleteRequest) : g.freshSuggestions r caller = g'.freshSuggestions r caller := by
  unfold freshSuggestions
  rw [← hsame.planSuggestions_eq]
  cases hplan : g.planSuggestions r caller with
  | error e => rfl
  | ok planned =>
    cases planned with
    | none => rfl
    | some p =>
      simp only [computeSuggestions, (planned_of_planSuggestions hplan).scope, hsuggest]

end Engine

end CatalogSearch
