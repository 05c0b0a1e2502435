import CatalogSearch.Proofs.Engine.Recall
import CatalogSearch.Proofs.Index.Lookup
import CatalogSearch.Proofs.Index.RankedCounts

/-!
# Suggestions are the best terms

What is suggested can be read off the documents that the caller may find: the terms of their titles and
keywords that begin with the last token of the query, those of most documents first.
-/

set_option autoImplicit false

namespace CatalogSearch

open CatalogSearch.Text

namespace Engine

/-! ## What is reached -/

variable {settings : SearchSettings} {schemas : SchemaRegistry} {policy : AccessPolicy}
  {past : SuggestionCache} {g : Engine}

theorem Reached.sameConfiguration (h : Reached settings schemas policy past g) :
    g.SameConfiguration (Engine.start settings schemas policy) := by
  induction h with
  | start => exact ⟨rfl, rfl, rfl⟩
  | turn c _ _ ih => exact ⟨ih.settings, ih.schemas, ih.policy⟩
  | call call _ ih => exact (sameConfiguration_after _ call).trans ih

theorem Reached.consistent (h : Reached settings schemas policy past g) : g.store.Consistent := by
  induction h with
  | start => exact consistent_start settings schemas policy
  | turn _ _ _ ih => exact ih
  | call call _ ih => exact consistent_after ih call

/-! ## What is asked and what is answered -/

theorem planSuggestions_of_tokens {r : AutocompleteRequest} {caller : Caller} {stem : List String}
    {start : String} {types : List EntityType} (htokens : tokens r.query = stem ++ [start])
    (htypes : EntityType.parseFilter r.entityType = .ok types)
    (hlong : g.settings.autocompleteMinChars ≤ (trim r.query).length) :
    g.planSuggestions r caller = .ok (some
      { stem, start, types, scope := (AccessView.resolve g.policy caller).scope,
        limit := min (max (r.limit.getD g.settings.autocompleteLimit) 1)
          (max g.settings.autocompleteLimit 1) }) := by
  unfold planSuggestions
  simp only [htokens, List.getLast?_concat, List.dropLast_concat, htypes, bind, Except.bind, pure,
    Except.pure, if_neg (Nat.not_lt.mpr hlong)]

/-- A stem of tokens is put before a term, with one space, unless there is none. -/
theorem complete_eq {stem : List String} (hstem : ∀ t ∈ stem, t ≠ "") (term : String) :
    complete stem term = if stem = [] then term else " ".intercalate stem ++ " " ++ term := by
  cases stem with
  | nil => rfl
  | cons first rest =>
    have hfirst : first ≠ "" := hstem first List.mem_cons_self
    have hne : " ".intercalate (first :: rest) ≠ "" := by
      cases rest with
      | nil => rwa [String.intercalate_singleton]
      | cons second rest =>
        rw [String.intercalate_cons_cons, String.append_assoc]
        exact fun hempty => hfirst (String.append_eq_empty_iff.mp hempty).1
    rw [complete, if_neg (List.cons_ne_nil _ _), if_neg]
    rwa [String.isEmpty_iff]

theorem computeSuggestions_of_counts {p : SuggestionPlan} {counts : TermCounts}
    (h : g.store.suggest p.types p.scope p.start = .ok counts) :
    g.computeSuggestions p = .ok ((counts.rankedTerms.take p.limit).map (complete p.stem)) := by
  rw [computeSuggestions, h, Except.map, TermCounts.best_eq_take]

theorem suggests_eq (t : String) : (fun d : Document => d.suggests t) =
    fun d => decide (t ∈ d.titleTokens ∨ t ∈ d.keywordTokens) := by
  funext d
  rw [Bool.eq_iff_iff, Document.suggests, Bool.or_eq_true, List.contains_iff_mem,
    List.contains_iff_mem, decide_eq_true_eq]

/-- Suggestions are the best terms that the caller may find.  While the store is available and the query
is long enough and of a type that there is, it is answered with the terms of titles and keywords that begin
with its last token: those of most of the live documents that are of the types asked for and in the
caller's scope first, terms of equally many in code-point order, each once and after the stem of the query,
and as many as the limit allows. -/
theorem autocomplete_answers_best (settings : SearchSettings) (schemas : SchemaRegistry)
    (policy : AccessPolicy) (past : SuggestionCache) (g : Engine)
    (hg : Reached settings schemas policy past g) (hon : g.store.available = true)
    (r : AutocompleteRequest) (caller : Caller) (stem : List String) (start : String)
    (types : List EntityType) (htokens : tokens r.query = stem ++ [start])
    (hlong : settings.autocompleteMinChars ≤ (trim r.query).length)
    (htypes : EntityType.parseFilter r.entityType = .ok types) :
    let scope := (AccessView.resolve policy caller).scope
    let admitted := g.store.liveDocuments.filter fun d =>
      types.contains d.entityType && scope.admitsPartition (.ofDocument d)
    let n := fun t => admitted.countP fun d => decide (t ∈ d.titleTokens ∨ t ∈ d.keywordTokens)
    let limit := min (max (r.limit.getD settings.autocompleteLimit) 1)
      (max settings.autocompleteLimit 1)
    (admitted.map Document.key).Nodup ∧
      (∀ d, d ∈ admitted ↔ g.store.get d.key = .ok (some d) ∧ d.entityType ∈ types ∧
        scope.admitsPartition (.ofDocument d) = true) ∧
      ∃ terms : List String,
        (∀ t, t ∈ terms ↔ start.toList <+: t.toList ∧ 0 < n t) ∧
        terms.Nodup ∧
        terms.Pairwise (fun a b => n b < n a ∨ n a = n b ∧ a < b) ∧
        (g.autocomplete r caller).1 = .ok ((terms.take limit).map fun t =>
          if stem = [] then t else " ".intercalate stem ++ " " ++ t) := by
  intro scope admitted n limit
  have hs := hg.consistent
  have hsame := hg.sameConfiguration
  have hadmitted : (g.store.found types scope).Perm admitted := hs.found_perm
  obtain ⟨counts, hsuggest, hpositive, hcount⟩ :=
    Store.suggest_eq_scan hs hon types scope start
  have hcount' : ∀ t, counts.count t = if start.toList <+: t.toList then n t else 0 := by
    intro t
    simp only [hcount, TermCounts.beginsWith, List.isPrefixOf_iff_prefix, hadmitted.countP_eq,
      suggests_eq, n]
  have hmem : ∀ t, t ∈ counts.rankedTerms ↔ start.toList <+: t.toList ∧ 0 < n t := by
    intro t
    rw [TermCounts.mem_rankedTerms_iff hpositive, hcount']
    split
    · rename_i hstarts
      exact ⟨fun h => ⟨hstarts, h⟩, fun h => h.2⟩
    · rename_i hstarts
      exact ⟨fun h => absurd h (Nat.lt_irrefl 0), fun h => absurd h.1 hstarts⟩
  refine ⟨hs.nodup_keys_found.perm (hadmitted.map _), fun d => ?_, counts.rankedTerms, hmem,
    counts.nodup_rankedTerms, ?_, ?_⟩
  · rw [← hadmitted.mem_iff, hs.mem_found, Store.get_eq_ok_iff hon, List.contains_iff_mem]
    rfl
  · refine (TermCounts.pairwise_rankedTerms hpositive).imp_of_mem ?_
    intro a b ha hb hab
    rwa [hcount', hcount', if_pos ((hmem a).mp ha).1, if_pos ((hmem b).mp hb).1] at hab
  · have hstem : ∀ t ∈ stem, t ≠ "" := by
      intro t ht
      have htoken : t ∈ tokens r.query := by
        rw [htokens]
        exact List.mem_append_left _ ht
      exact (lowerChar_of_mem_token htoken).1
    have hplan : g.planSuggestions r caller = .ok (some ⟨stem, start, types, scope, limit⟩) := by
      rw [planSuggestions_of_tokens htokens htypes (hsame.settings.symm ▸ hlong), hsame.settings,
        hsame.policy]
      rfl
    have hcoherent : g.Coherent := hg.remembers.coherent.of_recalls hg.remembers.recalls
    rw [autocomplete_eq_fresh hcoherent hon, freshSuggestions, hplan]
    dsimp only
    rw [computeSuggestions_of_counts (p := ⟨stem, start, types, scope, limit⟩) hsuggest]
    exact congrArg Except.ok (List.map_congr_left fun t _ => complete_eq hstem t)

/-- A guest who has typed two words of which the second is not finished is offered the term of two parts
before that of one, and no term of the part that a tenant keeps to itself. -/
theorem autocomplete_answers_best_of_parts :
    let pump : Document :=
      { entityType := .part, id := "p1", title := "Steel pump", updatedAt := ⟨1, 0⟩ }
    let pulley : Document :=
      { entityType := .part, id := "p2", title := "Pump pulley", updatedAt := ⟨2, 0⟩ }
    let kept : Document :=
      { entityType := .part, id := "p3", tenant := some "acme", title := "Pulse meter",
        updatedAt := ⟨3, 0⟩ }
    let g := (Engine.start {} .standard .standard).run [.index pump, .index pulley, .index kept]
    (g.autocomplete { query := "Steel pu" } .guest).1.toOption =
      some ["steel pump", "steel pulley"] := by
  intro pump pulley kept g
  have hstart : Reached {} .standard .standard {} (Engine.start {} .standard .standard) := .start
  obtain ⟨past, hg⟩ := hstart.run [.index pump, .index pulley, .index kept]
  obtain ⟨-, -, terms, hterms, -, hordered, hanswer⟩ :=
    autocomplete_answers_best {} .standard .standard past g hg (by decide)
      { query := "Steel pu" } .guest ["steel"] "pu" EntityType.all (by decide)
      (by decide) rfl
  let found := g.store.liveDocuments.filter fun d => EntityType.all.contains d.entityType &&
    (AccessView.resolve .standard .guest).scope.admitsPartition (.ofDocument d)
  have hoffered : ∀ d ∈ found, ∀ t ∈ d.titleTokens ++ d.keywordTokens,
      "pu".toList <+: t.toList → t ∈ ["pump", "pulley"] := by decide
  have hfound : ∀ t ∈ ["pump", "pulley"], "pu".toList <+: t.toList ∧
      ∃ d ∈ found, decide (t ∈ d.titleTokens ∨ t ∈ d.keywordTokens) = true := by decide
  have hexpected : terms = ["pump", "pulley"] := by
    refine OrderedMap.eq_of_ordered ?asymm hordered ?ordered ?members
    case asymm => exact fun a b => TermCounts.ranksBefore_asymm (a, _) (b, _)
    case ordered => decide
    case members =>
      intro t
      rw [hterms, List.countP_pos_iff]
      constructor
      · rintro ⟨hstart, d, hd, ht⟩
        rw [decide_eq_true_eq, ← List.mem_append] at ht
        exact hoffered d hd t ht hstart
      · exact hfound t
  rw [hanswer, hexpected]
  decide

end Engine

end CatalogSearch
