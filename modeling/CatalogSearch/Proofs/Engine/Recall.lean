import CatalogSearch.Proofs.Engine.Suggestions

/-!
# A forgetful cache does not show

A cache of suggestions may forget what it likes and when it likes, and may come back to it later, as
long as it finds nothing but what was last remembered under a key.  Whatever it finds, every answer is
the one that would be worked out from the index as it is.
-/

set_option autoImplicit false

namespace CatalogSearch

namespace SuggestionCache

/-- What has been put in front of a cache. -/
def added (before after : SuggestionCache) : List (SuggestionKey × List String) :=
  after.entries.take (after.entries.length - before.entries.length)

theorem added_of_no_more {before after : SuggestionCache}
    (h : after.entries.length ≤ before.entries.length) : before.added after = [] := by
  rw [added, Nat.sub_eq_zero_of_le h, List.take_zero]

theorem added_remember (c : SuggestionCache) (key : SuggestionKey) (answer : List String) :
    c.added (c.remember key answer) = [(key, answer)] := by
  have hone : (c.remember key answer).entries.length - c.entries.length = 1 := by
    rw [remember, List.length_cons]
    omega
  rw [added, hone]
  rfl

theorem Recalls.remember {past c : SuggestionCache} (h : past.Recalls c) (key : SuggestionKey)
    (answer : List String) : (past.remember key answer).Recalls (c.remember key answer) := by
  intro key' found hfound
  unfold find? SuggestionCache.remember at hfound ⊢
  rw [List.find?_cons] at hfound ⊢
  by_cases hkey : key = key'
  · rw [beq_iff_eq.mpr hkey] at hfound ⊢
    exact hfound
  · rw [beq_eq_false_iff_ne.mpr hkey] at hfound ⊢
    exact h key' found hfound

theorem Recalls.trans {past c c' : SuggestionCache} (h : past.Recalls c) (h' : c.Recalls c') :
    past.Recalls c' :=
  fun key answer hfound => h key answer (h' key answer hfound)

end SuggestionCache

namespace Engine

/-- The engines that calls lead to from an engine of nothing, each with all that was ever remembered,
the last first.  Between any two calls the cache may turn into any other one that finds nothing but what
was last remembered. -/
inductive Reached (settings : SearchSettings) (schemas : SchemaRegistry) (policy : AccessPolicy) :
    SuggestionCache → Engine → Prop
  | start : Reached settings schemas policy {} (start settings schemas policy)
  | turn {past : SuggestionCache} {g : Engine} (c : SuggestionCache) (hc : past.Recalls c)
      (h : Reached settings schemas policy past g) :
      Reached settings schemas policy past { g with suggestions := c }
  | call {past : SuggestionCache} {g : Engine} (call : EngineCall)
      (h : Reached settings schemas policy past g) :
      Reached settings schemas policy
        ⟨g.suggestions.added (g.after call).suggestions ++ past.entries⟩ (g.after call)

/-- All that was ever remembered may be found. -/
structure Remembers (past : SuggestionCache) (g : Engine) : Prop where
  recalls : past.Recalls g.suggestions
  coherent : ({ g with suggestions := past } : Engine).Coherent

namespace Remembers

variable {past : SuggestionCache} {g : Engine}

/-- Nothing is added by a call that leaves no more remembered than before. -/
theorem of_no_more {g' : Engine} (hrecalls : past.Recalls g'.suggestions)
    (hcoherent : ({ g' with suggestions := past } : Engine).Coherent)
    (hlength : g'.suggestions.entries.length ≤ g.suggestions.entries.length) :
    Remembers ⟨g.suggestions.added g'.suggestions ++ past.entries⟩ g' := by
  rw [SuggestionCache.added_of_no_more hlength, List.nil_append]
  exact ⟨hrecalls, hcoherent⟩

theorem after (h : Remembers past g) (call : EngineCall) :
    Remembers ⟨g.suggestions.added (g.after call).suggestions ++ past.entries⟩ (g.after call) := by
  rcases after_cases g call with
    ⟨calls, tally, hg'⟩ | ⟨r, caller, p, tally, hplan, hg'⟩ | ⟨kept, hg'⟩
  · rw [hg']
    exact of_no_more h.recalls (h.coherent.write calls tally) (Nat.le_refl _)
  · rw [hg']
    have hstart := (planned_of_planSuggestions hplan).space_not_mem_start
    rcases g.suggestions.getOrCompute_cases (g.suggestionKey p) (g.computeSuggestions p) with
      hsame | ⟨answer, _, hanswer, hadded⟩
    · rw [hsame]
      exact of_no_more h.recalls (h.coherent.tally tally) (Nat.le_refl _)
    · rw [hadded, SuggestionCache.added_remember]
      have hcompute : ({ g with suggestions := past } : Engine).computeSuggestions p = .ok answer :=
        hanswer
      exact ⟨h.recalls.remember _ answer, (h.coherent.remember hstart hcompute).tally tally⟩
  · rw [hg']
    exact of_no_more (h.recalls.trans (g.suggestions.recalls_filter kept)) h.coherent
      (List.length_filter_le _ _)

end Remembers

variable {settings : SearchSettings} {schemas : SchemaRegistry} {policy : AccessPolicy}
  {past : SuggestionCache} {g : Engine}

theorem Reached.remembers (h : Reached settings schemas policy past g) : Remembers past g := by
  induction h with
  | start => exact ⟨fun _ _ h => h, coherent_start settings schemas policy⟩
  | turn c hc _ ih => exact ⟨hc, ih.coherent⟩
  | call call _ ih => exact ih.after call

/-- A call that leaves no more remembered than before adds nothing to what was ever remembered. -/
theorem Reached.call_of_no_more (h : Reached settings schemas policy past g) (call : EngineCall)
    (hlength : (g.after call).suggestions.entries.length ≤ g.suggestions.entries.length) :
    Reached settings schemas policy past (g.after call) := by
  have hcall := h.call call
  rwa [SuggestionCache.added_of_no_more hlength, List.nil_append] at hcall

/-- Calls one after the other lead there, whatever they forget. -/
theorem Reached.run (h : Reached settings schemas policy past g) (calls : List EngineCall) :
    ∃ past', Reached settings schemas policy past' (g.run calls) := by
  induction calls generalizing past g with
  | nil => exact ⟨past, h⟩
  | cons call rest ih => exact ih (h.call call)

/-- However the cache has fared through the calls made so far, while the store is available a request
for suggestions is answered from the index as it is, as if nothing were remembered. -/
theorem autocomplete_of_any_cache (settings : SearchSettings) (schemas : SchemaRegistry)
    (policy : AccessPolicy) (past : SuggestionCache) (g : Engine)
    (hg : Reached settings schemas policy past g) (hon : g.store.available = true)
    (r : AutocompleteRequest) (caller : Caller) :
    (g.autocomplete r caller).1 = g.freshSuggestions r caller ∧
      (g.autocomplete r caller).1 =
        (({ g with suggestions := {} } : Engine).autocomplete r caller).1 := by
  have hcoherent : g.Coherent := hg.remembers.coherent.of_recalls hg.remembers.recalls
  have hempty : ({ g with suggestions := {} } : Engine).Coherent :=
    hcoherent.of_recalls fun _ _ h => by cases h
  have hfresh := autocomplete_eq_fresh hcoherent hon r caller
  refine ⟨hfresh, ?_⟩
  rw [hfresh, autocomplete_eq_fresh hempty hon]
  rfl

/-- An answer that was remembered, forgotten and found again after writes is not given any more. -/
theorem autocomplete_of_stale_cache :
    let pump : Document :=
      { entityType := .part, id := "p1", title := "Steel pump", updatedAt := ⟨1, 0⟩ }
    let stock : Document :=
      { entityType := .part, id := "p2", title := "Stock valve", updatedAt := ⟨2, 0⟩ }
    let r : AutocompleteRequest := { query := "st" }
    let asked := (start {} .standard .standard).run [.index pump, .autocomplete r .guest]
    let written := ({ asked with suggestions := {} } : Engine).run
      [.index stock, .remove pump.key ⟨3, 0⟩]
    let found : Engine := { written with suggestions := asked.suggestions }
    (asked.autocomplete r .guest).1.toOption = some ["steel"] ∧
      found.suggestions.entries.length = 1 ∧
      (found.autocomplete r .guest).1.toOption = some ["stock"] := by
  intro pump stock r asked written found
  have hstart : Reached {} .standard .standard {} (start {} .standard .standard) := .start
  obtain ⟨past, hasked⟩ := hstart.run [.index pump, .autocomplete r .guest]
  have hforgot := hasked.turn {} fun _ _ h => by cases h
  have hstock := hforgot.call_of_no_more (.index stock) (by decide)
  have hwritten : Reached {} .standard .standard past written :=
    hstock.call_of_no_more (.remove pump.key ⟨3, 0⟩) (by decide)
  have hfound := hwritten.turn asked.suggestions hasked.remembers.recalls
  refine ⟨?_, by decide, ?_⟩
  · rw [(autocomplete_of_any_cache {} .standard .standard past asked hasked (by decide)
      r .guest).1]
    with_unfolding_all decide
  · rw [(autocomplete_of_any_cache {} .standard .standard past found hfound (by decide)
      r .guest).1]
    with_unfolding_all decide

end Engine

end CatalogSearch
