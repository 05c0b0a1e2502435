import CatalogSearch.Proofs.Feed.Replay

/-!
# Bulk loads

A bulk load cuts its documents into batches, between which it pauses.  What it indexes and what it counts
are those of the documents themselves, one after the other: with the store it comes to their end and every
document is in one of the figures, and without the store it ends at the first document.
-/

set_option autoImplicit false

namespace CatalogSearch

/-! ## Figures -/

/-- Where documents are indexed, each figure is how often its outcome was the answer. -/
theorem IngestStats.foldl_note_upserted (outcomes : List (Option UpsertOutcome)) :
    (outcomes.map (Option.map ApplyOutcome.upserted)).foldl note {} =
      { inserted := outcomes.count (some .inserted)
        updated := outcomes.count (some .updated)
        stale := outcomes.count (some .staleWriteIgnored)
        skipped := outcomes.count none } := by
  have hinjective : Function.Injective (Option.map ApplyOutcome.upserted) :=
    Option.map_injective fun _ _ => ApplyOutcome.upserted.inj
  have hupserted : ∀ outcome : UpsertOutcome,
      (outcomes.map (Option.map ApplyOutcome.upserted)).count (some (.upserted outcome)) =
        outcomes.count (some outcome) :=
    fun outcome => List.count_map_of_injective outcomes _ hinjective (some outcome)
  have hnone : (outcomes.map (Option.map ApplyOutcome.upserted)).count none = outcomes.count none :=
    List.count_map_of_injective outcomes _ hinjective none
  have hdeleted : ∀ outcome : DeleteOutcome,
      (outcomes.map (Option.map ApplyOutcome.upserted)).count (some (.deleted outcome)) = 0 := by
    intro outcome
    rw [List.count_eq_zero, List.mem_map]
    rintro ⟨_ | _, _, h⟩
    · cases h
    · cases h
  rw [foldl_note]
  simp only [hupserted, hdeleted, hnone, Nat.zero_add, Nat.add_zero]

namespace Engine

/-! ## Batches -/

section Batches

variable {α : Type}

theorem batches_cons (size : Nat) (x : α) (rest : List α) :
    batches size (x :: rest) = (x :: rest.take size) :: batches size (rest.drop size) := by
  rw [batches]

/-- No item is lost between two batches, or in both of them. -/
theorem flatten_batches (size : Nat) (items : List α) : (batches size items).flatten = items := by
  induction items using batches.induct size with
  | case1 => rw [batches, List.flatten_nil]
  | case2 x rest ih => rw [batches_cons, List.flatten_cons, ih, List.cons_append, List.take_append_drop]

theorem batches_eq_nil_iff {size : Nat} {items : List α} : batches size items = [] ↔ items = [] := by
  cases items with
  | nil => simp only [batches]
  | cons x rest => simp only [batches_cons, reduceCtorEq]

/-- A batch holds an item, and at most as many as a batch may. -/
theorem length_of_mem_batches {size : Nat} {items batch : List α} (h : batch ∈ batches size items) :
    batch ≠ [] ∧ batch.length ≤ size + 1 := by
  induction items using batches.induct size with
  | case1 =>
    rw [batches] at h
    exact absurd h List.not_mem_nil
  | case2 x rest ih =>
    rw [batches_cons, List.mem_cons] at h
    obtain rfl | h := h
    · exact ⟨List.cons_ne_nil _ _, Nat.succ_le_succ (List.length_take_le _ _)⟩
    · exact ih h

/-- Only the last batch may be short of items. -/
theorem length_of_mem_dropLast_batches {size : Nat} {items batch : List α}
    (h : batch ∈ (batches size items).dropLast) : batch.length = size + 1 := by
  induction items using batches.induct size with
  | case1 =>
    rw [batches] at h
    exact absurd h List.not_mem_nil
  | case2 x rest ih =>
    by_cases hlast : rest.drop size = []
    · rw [batches_cons, batches_eq_nil_iff.mpr hlast] at h
      exact absurd h List.not_mem_nil
    · rw [batches_cons, List.dropLast_cons_of_ne_nil (mt batches_eq_nil_iff.mp hlast),
        List.mem_cons] at h
      obtain rfl | h := h
      · have hmore : size < rest.length := by
          rw [List.drop_eq_nil_iff] at hlast
          omega
        rw [List.length_cons, List.length_take_of_le hmore.le]
      · exact ih h

end Batches

/-! ## One document after the other -/

/-- A load with one more document: a document that is not valid is skipped, and a load that has failed
stays as it is. -/
def indexNext (load : Except FeedError IngestStats × Engine) (d : Document) :
    Except FeedError IngestStats × Engine :=
  match load with
  | (.error fault, g) => (.error fault, g)
  | (.ok s, g) =>
    match g.index d with
    | (.ok outcome, g) => (.ok (s.record (.upserted outcome)), g)
    | (.error (.invalidDocument _), g) => (.ok s.skip, g)
    | (.error cause, g) => (.error (.rejected cause), g)

variable {g : Engine} {s : IngestStats}

theorem foldl_indexNext_of_error (fault : FeedError) (g : Engine) (documents : List Document) :
    documents.foldl indexNext (.error fault, g) = (.error fault, g) := by
  induction documents with
  | nil => rfl
  | cons d rest ih => exact ih

theorem indexAll_eq_foldl (g : Engine) (s : IngestStats) (documents : List Document) :
    g.indexAll s documents = documents.foldl indexNext (.ok s, g) := by
  induction documents generalizing g s with
  | nil => rfl
  | cons d rest ih =>
    simp only [indexAll, List.foldl_cons, indexNext]
    cases hresult : g.index d with
    | mk result changed =>
      cases result with
      | ok outcome => exact ih _ _
      | error cause =>
        cases cause with
        | invalidDocument fault => exact ih _ _
        | _ => exact (foldl_indexNext_of_error _ _ _).symm

/-- Batches are indexed as their documents are. -/
theorem indexBatches_eq_foldl (g : Engine) (s : IngestStats) (batches : List (List Document)) :
    g.indexBatches s batches = batches.flatten.foldl indexNext (.ok s, g) := by
  induction batches generalizing g s with
  | nil => rfl
  | cons batch rest ih =>
    simp only [indexBatches, List.flatten_cons, List.foldl_append, indexAll_eq_foldl]
    cases hload : batch.foldl indexNext (.ok s, g) with
    | mk result changed =>
      cases result with
      | ok s => exact ih _ _
      | error fault => exact (foldl_indexNext_of_error _ _ _).symm

/-! ## What becomes of the documents -/

/-- What becomes of documents that are indexed one after the other; nothing of one that is rejected. -/
def indexOutcomes (g : Engine) : List Document → List (Option UpsertOutcome)
  | [] => []
  | d :: rest => (g.index d).1.toOption :: (g.after (.index d)).indexOutcomes rest

theorem length_indexOutcomes (g : Engine) (documents : List Document) :
    (g.indexOutcomes documents).length = documents.length := by
  induction documents generalizing g with
  | nil => rfl
  | cons d rest ih => exact congrArg (· + 1) (ih _)

/-- A store that is there takes a document up or rejects it, and that is noted. -/
theorem indexNext_of_online (hon : g.store.available = true) (d : Document) :
    indexNext (.ok s, g) d =
      (.ok (s.note ((g.index d).1.toOption.map .upserted)), g.after (.index d)) := by
  have hafter : g.after (.index d) = (g.index d).2 := rfl
  rw [hafter, indexNext]
  cases hresult : g.index d with
  | mk result changed =>
    cases result with
    | ok outcome => rfl
    | error cause =>
      obtain ⟨fault, rfl⟩ := exists_fault_of_index hon (d := d) (by rw [hresult])
      rfl

theorem indexNext_of_offline (hoff : g.store.available = false) (d : Document) :
    indexNext (.ok s, g) d = (.error (.rejected .offline), g) := by
  simp only [indexNext, index_eq_of_offline hoff, SearchError.offline]

/-- With the store a load indexes its documents and notes what became of each. -/
theorem foldl_indexNext_of_online (hon : g.store.available = true) (s : IngestStats)
    (documents : List Document) :
    documents.foldl indexNext (.ok s, g) =
      (.ok (((g.indexOutcomes documents).map (Option.map .upserted)).foldl .note s),
        g.run (documents.map .index)) := by
  -- the engine and the figures change from document to document; that the store is there carries over
  induction documents generalizing g s with
  | nil => rfl
  | cons d rest ih =>
    have hstays : (g.after (.index d)).store.available = true := by
      rw [store_after_index]
      exact (Store.available_after_upsert g.store d).trans hon
    rw [List.foldl_cons, indexNext_of_online hon, ih hstays]
    rfl

/-- A bulk load cuts its documents into batches, all of them full but the last one, without losing,
repeating or moving any; a size of nothing is taken for one.  However large the batches are, it comes to
what indexing the documents one after the other comes to, those being skipped that are rejected for
themselves.  With the store it succeeds: the engine is the one that has indexed every document, the figures
say how often each outcome was the answer, and every document is in one of them.  Without the store it
ends at the first document, if there is one, and changes nothing. -/
theorem reindex_indexes_each (g : Engine) (settings : IngestionSettings) (documents : List Document) :
    let load := g.reindex settings documents
    let cut := batches (settings.batchSize - 1) documents
    (cut.flatten = documents ∧
      (∀ batch ∈ cut, batch ≠ [] ∧ batch.length ≤ max settings.batchSize 1) ∧
      ∀ batch ∈ cut.dropLast, batch.length = max settings.batchSize 1) ∧
    load = documents.foldl indexNext (.ok {}, g) ∧
    (g.store.available = true →
      let outcomes := g.indexOutcomes documents
      let stats : IngestStats := {
        inserted := outcomes.count (some .inserted)
        updated := outcomes.count (some .updated)
        stale := outcomes.count (some .staleWriteIgnored)
        skipped := outcomes.count none
      }
      load = (.ok stats, g.run (documents.map .index)) ∧
        stats.inserted + stats.updated + stats.stale + stats.skipped = documents.length) ∧
    (g.store.available = false →
      load =
        match documents with
        | [] => (.ok {}, g)
        | _ :: _ => (.error (.rejected .offline), g)) := by
  intro load cut
  have hsize : settings.batchSize - 1 + 1 = max settings.batchSize 1 := by omega
  have hload : load = documents.foldl indexNext (.ok {}, g) := by
    have hbatches : load = cut.flatten.foldl indexNext (.ok {}, g) := indexBatches_eq_foldl g {} cut
    rwa [flatten_batches] at hbatches
  refine ⟨⟨flatten_batches _ _, ?_, ?_⟩, hload, ?_, ?_⟩
  · intro batch hbatch
    rw [← hsize]
    exact length_of_mem_batches hbatch
  · intro batch hbatch
    rw [← hsize]
    exact length_of_mem_dropLast_batches hbatch
  · intro hon outcomes stats
    have hstats : (outcomes.map (Option.map .upserted)).foldl .note {} = stats :=
      IngestStats.foldl_note_upserted outcomes
    refine ⟨?_, ?_⟩
    · rw [hload, foldl_indexNext_of_online hon, hstats]
    · have hall := IngestStats.applied_foldl_note {} (outcomes.map (Option.map .upserted))
      rw [hstats, List.length_map, length_indexOutcomes] at hall
      simpa only [IngestStats.applied, stats, Nat.zero_add, Nat.add_zero] using hall
  · intro hoff
    rw [hload]
    cases documents with
    | nil => rfl
    | cons d rest => rw [List.foldl_cons, indexNext_of_offline hoff, foldl_indexNext_of_error]

/-- A part in two versions, another one without an id between them, the first version again and a
valve, in batches of two and in batches of a size of nothing. -/
theorem reindex_indexes_each_of_parts :
    let pump : Document :=
      { entityType := .part, id := "p1", title := "Pump", updatedAt := ⟨1, 0⟩ }
    let repaired : Document := { pump with title := "Repaired pump", updatedAt := ⟨2, 0⟩ }
    let nameless : Document := { pump with id := " " }
    let valve : Document := { pump with id := "v1", title := "Valve" }
    let documents := [pump, nameless, repaired, pump, valve]
    let g := start {} .standard .standard
    let offline := g.after (.onStore (.setAvailable false))
    let stats : IngestStats := { inserted := 2, updated := 1, stale := 1, skipped := 1 }
    (batches (2 - 1) documents).flatten = documents ∧
    (g.reindex { batchSize := 2 } documents).1 = .ok stats ∧
    (g.reindex { batchSize := 0 } documents).1 = .ok stats ∧
    (offline.reindex { batchSize := 2 } documents).1 = .error (.rejected .offline) := by
  intro pump repaired nameless valve documents g offline stats
  have hstats : ∀ settings : IngestionSettings, (g.reindex settings documents).1 = .ok stats := by
    intro settings
    rw [((reindex_indexes_each g settings documents).2.2.1 rfl).1]
    exact congrArg Except.ok (by decide)
  refine ⟨(reindex_indexes_each g { batchSize := 2 } documents).1.1, hstats _, hstats _, ?_⟩
  rw [(reindex_indexes_each offline { batchSize := 2 } documents).2.2.2 rfl]

end Engine

end CatalogSearch
