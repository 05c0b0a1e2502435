import CatalogSearch.Proofs.Engine.Runs
import CatalogSearch.Proofs.Feed.Normalization
import CatalogSearch.Proofs.Index.Scan
import CatalogSearch.Proofs.Time.Instant

/-!
# Deliveries converge

Changes come in any order and more than once.  Each accepted change says of its key that a document is
there or that it was deleted; the one that outweighs the others decides, whenever it comes.  So engines
that were told of the same changes know the same of every key and answer alike.
-/

set_option autoImplicit false

namespace CatalogSearch

open CatalogSearch.Time

/-! ## What a change says -/

namespace ChangeEvent

/-- What a change says of its key; nothing if it is rejected. -/
def verdict? (schemas : SchemaRegistry) (e : ChangeEvent) : Option KeyState :=
  match e.operation with
  | .upsert =>
    match e.toDocument schemas with
    | .ok d => if d.isValid then some (.present d) else none
    | .error _ => none
  | .delete => some (.deleted e.updatedAt)

/-- Whether a change is newer than another one, or as new and not a write against a deletion. -/
def Outweighs (e f : ChangeEvent) : Prop :=
  f.updatedAt < e.updatedAt ∨
    e.updatedAt = f.updatedAt ∧ (e.operation = .delete ∨ f.operation = .upsert)

theorem outweighs_self (e : ChangeEvent) : e.Outweighs e := by
  refine Or.inr ⟨rfl, ?_⟩
  cases e.operation with
  | upsert => exact Or.inr rfl
  | delete => exact Or.inl rfl

theorem Outweighs.trans {e f h : ChangeEvent} (hef : e.Outweighs f) (hfh : f.Outweighs h) :
    e.Outweighs h := by
  rcases hef with hef | ⟨hef, hop⟩
  · rcases hfh with hfh | ⟨hfh, _⟩
    · exact Or.inl (Instant.lt_trans hfh hef)
    · exact Or.inl (hfh ▸ hef)
  · rcases hfh with hfh | ⟨hfh, hop'⟩
    · exact Or.inl (hef ▸ hfh)
    · refine Or.inr ⟨hef.trans hfh, ?_⟩
      rcases hop with hop | hop
      · exact Or.inl hop
      · rcases hop' with hop' | hop'
        · rw [hop] at hop'
          cases hop'
        · exact Or.inr hop'

/-- Changes that outweigh each other are of one version and of one kind. -/
theorem Outweighs.antisymm {e f : ChangeEvent} (hef : e.Outweighs f) (hfe : f.Outweighs e) :
    e.updatedAt = f.updatedAt ∧ e.operation = f.operation := by
  have hat : e.updatedAt = f.updatedAt := by
    rcases hef with hlt | ⟨heq, _⟩
    · rcases hfe with hlt' | ⟨heq, _⟩
      · exact absurd (Instant.lt_trans hlt hlt') (Instant.lt_irrefl _)
      · exact heq.symm
    · exact heq
  have hop : ∀ {a b : ChangeEvent}, a.updatedAt = b.updatedAt → a.Outweighs b →
      a.operation = .delete ∨ b.operation = .upsert := by
    intro a b hab hover
    rcases hover with hlt | ⟨_, hop⟩
    · rw [hab] at hlt
      exact absurd hlt (Instant.lt_irrefl _)
    · exact hop
  refine ⟨hat, ?_⟩
  rcases hop hat hef with he | hf
  · rcases hop hat.symm hfe with hf | he'
    · rw [he, hf]
    · rw [he] at he'
      cases he'
  · rcases hop hat.symm hfe with hf' | he
    · rw [hf] at hf'
      cases hf'
    · rw [he, hf]

/-- A change that is accepted says that the document is there in the version of the change, or that it
was deleted then. -/
theorem verdict?_cases {schemas : SchemaRegistry} {e : ChangeEvent} {state : KeyState}
    (h : e.verdict? schemas = some state) :
    (e.operation = .upsert ∧ ∃ d, state = .present d ∧ d.updatedAt = e.updatedAt) ∨
      e.operation = .delete ∧ state = .deleted e.updatedAt := by
  unfold verdict? at h
  cases hop : e.operation with
  | upsert =>
    rw [hop] at h
    cases hd : e.toDocument schemas with
    | error fault =>
      rw [hd] at h
      cases h
    | ok d =>
      simp only [hd] at h
      split at h
      · exact Or.inl ⟨rfl, d, (Option.some.inj h).symm, (identity_toDocument hd).2⟩
      · cases h
  | delete =>
    rw [hop] at h
    exact Or.inr ⟨rfl, (Option.some.inj h).symm⟩

/-- What is known of the key of a change once it has come. -/
def revise (schemas : SchemaRegistry) (e : ChangeEvent) (state : KeyState) : KeyState :=
  match e.verdict? schemas with
  | some (.present d) => state.upsert d
  | some (.deleted version) => state.delete version
  | _ => state

/-- A change that is rejected changes nothing. -/
theorem revise_of_rejected {schemas : SchemaRegistry} {e : ChangeEvent}
    (h : e.verdict? schemas = none) (state : KeyState) : e.revise schemas state = state := by
  rw [revise, h]

/-- Where nothing is known a change that is accepted decides. -/
theorem revise_unknown {schemas : SchemaRegistry} {e : ChangeEvent} {said : KeyState}
    (h : e.verdict? schemas = some said) : e.revise schemas .unknown = said := by
  rw [revise, h]
  rcases verdict?_cases h with ⟨_, d, rfl, _⟩ | ⟨_, rfl⟩
  · rfl
  · rfl

/-- Of the change that decided so far and one that comes, the one that stands outweighs the other. -/
theorem revise_cases {schemas : SchemaRegistry} {e winner : ChangeEvent} {said state : KeyState}
    (hwinner : winner.verdict? schemas = some state) (he : e.verdict? schemas = some said) :
    (e.revise schemas state = state ∧ winner.Outweighs e) ∨
      (e.revise schemas state = said ∧ e.Outweighs winner) := by
  have hnewer : ∀ {a b : Instant}, ¬ a < b → b < a ∨ a = b := by
    intro a b hab
    by_cases hba : b < a
    · exact Or.inl hba
    · exact Or.inr (Instant.eq_of_not_lt hab hba)
  rw [revise, he]
  rcases verdict?_cases hwinner with ⟨hop, d, rfl, hd⟩ | ⟨hop, rfl⟩
  · -- the older document yields, and to a deletion as old as itself as well
    rcases verdict?_cases he with ⟨hop', d', rfl, hd'⟩ | ⟨hop', rfl⟩
    · simp only [KeyState.upsert, KeyState.recorded?, Store.blocks, hd, hd', decide_eq_true_eq]
      by_cases hlt : e.updatedAt < winner.updatedAt
      · exact Or.inl ⟨if_pos hlt, Or.inl hlt⟩
      · refine Or.inr ⟨if_neg hlt, ?_⟩
        exact (hnewer hlt).imp_right fun heq => ⟨heq, Or.inr hop⟩
    · simp only [KeyState.delete, KeyState.recorded?, Store.outlasts, hd, decide_eq_true_eq]
      by_cases hlt : e.updatedAt < winner.updatedAt
      · exact Or.inl ⟨if_pos hlt, Or.inl hlt⟩
      · refine Or.inr ⟨if_neg hlt, ?_⟩
        exact (hnewer hlt).imp_right fun heq => ⟨heq, Or.inl hop'⟩
  · -- a deletion stands against all that is not newer
    rcases verdict?_cases he with ⟨hop', d', rfl, hd'⟩ | ⟨hop', rfl⟩
    · simp only [KeyState.upsert, KeyState.recorded?, Store.blocks, hd', decide_eq_true_eq,
        Instant.le_iff_not_lt]
      by_cases hlt : winner.updatedAt < e.updatedAt
      · exact Or.inr ⟨if_neg (not_not_intro hlt), Or.inl hlt⟩
      · refine Or.inl ⟨if_pos hlt, ?_⟩
        exact (hnewer hlt).imp_right fun heq => ⟨heq, Or.inl hop⟩
    · simp only [KeyState.delete, KeyState.recorded?, Store.outlasts, Bool.not_eq_true',
        decide_eq_false_iff_not]
      by_cases hlt : winner.updatedAt < e.updatedAt
      · exact Or.inr ⟨if_neg (not_not_intro hlt), Or.inl hlt⟩
      · refine Or.inl ⟨if_pos hlt, ?_⟩
        exact (hnewer hlt).imp_right fun heq => ⟨heq, Or.inl hop⟩

end ChangeEvent

namespace Engine

theorem apply_isOk_iff {g : Engine} (hon : g.store.available = true) (e : ChangeEvent) :
    (∃ outcome, (g.apply e).1 = .ok outcome) ↔ (e.verdict? g.schemas).isSome = true := by
  unfold apply ChangeEvent.verdict?
  cases e.operation with
  | upsert =>
    cases hd : e.toDocument g.schemas with
    | error fault => simp
    | ok d =>
      have hresolved := ChangeEvent.resolved_toDocument hd
      cases hfault : d.fault? with
      | none =>
        have hvalid : d.resolved.fault? = none := by rw [hresolved, hfault]
        simp [index, Store.upsert_of_valid hon hvalid, Document.isValid, hfault, Except.map]
      | some fault =>
        have hinvalid : d.resolved.fault? = some fault := by rw [hresolved, hfault]
        simp [index, Store.upsert_of_fault hon hinvalid, Document.isValid, hfault, Except.map]
  | delete =>
    simp [remove, Store.delete_eq hon, Except.map]

theorem keyState_after_apply {g : Engine} (hg : g.store.Consistent)
    (hon : g.store.available = true) (e : ChangeEvent) (key : DocumentKey) :
    (g.after (.apply e)).store.keyState key =
      if e.key = key then e.revise g.schemas (g.store.keyState key) else g.store.keyState key := by
  obtain ⟨tally, happly⟩ := exists_apply_eq g e
  have hstore : (g.after (.apply e)).store = g.store.run (storeCallsOf g.schemas e) := by
    rw [after, happly]
  rw [hstore]
  unfold storeCallsOf ChangeEvent.revise ChangeEvent.verdict?
  cases e.operation with
  | upsert =>
    cases hd : e.toDocument g.schemas with
    | error fault => simp only [Store.run, List.foldl_nil, ite_self]
    | ok d =>
      have hresolved := ChangeEvent.resolved_toDocument hd
      have hkey : Store.keyOf d = e.key := by
        rw [Store.keyOf, hresolved, (ChangeEvent.identity_toDocument hd).1]
      simp only [Store.run, List.foldl_cons, List.foldl_nil]
      cases hfault : d.fault? with
      | none =>
        rw [Store.keyState_after_upsert hg hon (by rw [hresolved, hfault]), hkey, hresolved]
        simp only [Document.isValid, hfault, Option.isNone_none, if_true]
      | some fault =>
        rw [Store.after_upsert_of_refused (by rw [hresolved, hfault]; simp)]
        simp [Document.isValid, hfault]
  | delete =>
    have htarget : Store.target e.key = e.key := DocumentKey.resolve_resolve _ _ _
    simp only [Store.run, List.foldl_cons, List.foldl_nil]
    rw [Store.keyState_after_delete hg hon, htarget]

theorem available_after_apply (g : Engine) (e : ChangeEvent) :
    (g.after (.apply e)).store.available = g.store.available := by
  obtain ⟨tally, happly⟩ := exists_apply_eq g e
  have hstore : (g.after (.apply e)).store = g.store.run (storeCallsOf g.schemas e) := by
    rw [after, happly]
  rw [hstore]
  unfold storeCallsOf
  cases e.operation with
  | upsert =>
    cases e.toDocument g.schemas with
    | error fault => rfl
    | ok d => exact Store.available_after_upsert g.store d
  | delete => exact Store.available_after_delete g.store e.key e.updatedAt

end Engine

/-! ## What decides -/

/-- What is known of a key is what an accepted change of it says that outweighs all the others; if none
was accepted, nothing is known. -/
def Decided (schemas : SchemaRegistry) (changes : List ChangeEvent) (key : DocumentKey)
    (state : KeyState) : Prop :=
  (state = .unknown ∧ ∀ e ∈ changes, e.key = key → e.verdict? schemas = none) ∨
    ∃ e ∈ changes, e.key = key ∧ e.verdict? schemas = some state ∧
      ∀ f ∈ changes, f.key = key → (f.verdict? schemas).isSome = true → e.Outweighs f

namespace Decided

variable {schemas : SchemaRegistry} {changes : List ChangeEvent} {key : DocumentKey}
  {state : KeyState}

/-- A change that is of another key or is rejected decides nothing. -/
theorem of_indifferent (h : Decided schemas changes key state) {e : ChangeEvent}
    (he : e.key = key → e.verdict? schemas = none) : Decided schemas (changes ++ [e]) key state := by
  rcases h with ⟨hstate, hnone⟩ | ⟨winner, hmem, hkey, hverdict, hbest⟩
  · exact Or.inl ⟨hstate, List.forall_mem_append.mpr ⟨hnone, List.forall_mem_singleton.mpr he⟩⟩
  · refine Or.inr ⟨winner, List.mem_append_left _ hmem, hkey, hverdict, ?_⟩
    refine List.forall_mem_append.mpr ⟨hbest, List.forall_mem_singleton.mpr ?_⟩
    intro hekey haccepted
    rw [he hekey] at haccepted
    cases haccepted

/-- A change of the key decides, or leaves what was decided. -/
theorem revise (h : Decided schemas changes key state) {e : ChangeEvent} (he : e.key = key) :
    Decided schemas (changes ++ [e]) key (e.revise schemas state) := by
  cases hsaid : e.verdict? schemas with
  | none =>
    rw [ChangeEvent.revise_of_rejected hsaid]
    exact h.of_indifferent fun _ => hsaid
  | some said =>
    have hlast : e ∈ changes ++ [e] := List.mem_append_right _ List.mem_cons_self
    rcases h with ⟨rfl, hnone⟩ | ⟨winner, hmem, hkey, hverdict, hbest⟩
    · rw [ChangeEvent.revise_unknown hsaid]
      refine Or.inr ⟨e, hlast, he, hsaid, List.forall_mem_append.mpr ⟨?_, ?_⟩⟩
      · intro f hf hfkey haccepted
        rw [hnone f hf hfkey] at haccepted
        cases haccepted
      · exact List.forall_mem_singleton.mpr fun _ _ => e.outweighs_self
    · rcases ChangeEvent.revise_cases hverdict hsaid with ⟨hstays, hover⟩ | ⟨hyields, hover⟩
      · rw [hstays]
        refine Or.inr ⟨winner, List.mem_append_left _ hmem, hkey, hverdict, ?_⟩
        exact List.forall_mem_append.mpr ⟨hbest, List.forall_mem_singleton.mpr fun _ _ => hover⟩
      · rw [hyields]
        refine Or.inr ⟨e, hlast, he, hsaid, List.forall_mem_append.mpr ⟨?_, ?_⟩⟩
        · intro f hf hfkey haccepted
          exact hover.trans (hbest f hf hfkey haccepted)
        · exact List.forall_mem_singleton.mpr fun _ _ => e.outweighs_self

/-- The changes decide in one way, whatever their order and repetitions, if no two writes of one key
have one version. -/
theorem unique {changes' : List ChangeEvent} {state' : KeyState}
    (hsame : ∀ e, e ∈ changes ↔ e ∈ changes')
    (hversions : ∀ e ∈ changes, ∀ f ∈ changes, e.operation = .upsert → f.operation = .upsert →
      e.key = f.key → e.updatedAt = f.updatedAt → e = f)
    (h : Decided schemas changes key state) (h' : Decided schemas changes' key state') :
    state = state' := by
  rcases h with ⟨rfl, hnone⟩ | ⟨winner, hmem, hkey, hverdict, hbest⟩
  · rcases h' with ⟨rfl, _⟩ | ⟨winner', hmem', hkey', hverdict', _⟩
    · rfl
    · rw [hnone winner' ((hsame winner').mpr hmem') hkey'] at hverdict'
      cases hverdict'
  · rcases h' with ⟨rfl, hnone'⟩ | ⟨winner', hmem', hkey', hverdict', hbest'⟩
    · rw [hnone' winner ((hsame winner).mp hmem) hkey] at hverdict
      cases hverdict
    · have hmem'' := (hsame winner').mpr hmem'
      have hover := hbest winner' hmem'' hkey' (by rw [hverdict']; rfl)
      have hover' := hbest' winner ((hsame winner).mp hmem) hkey (by rw [hverdict]; rfl)
      obtain ⟨hat, hop⟩ := hover.antisymm hover'
      rcases ChangeEvent.verdict?_cases hverdict with ⟨hupsert, _⟩ | ⟨hdelete, rfl⟩
      · have heq : winner = winner' := hversions winner hmem winner' hmem'' hupsert
          (hop.symm.trans hupsert) (hkey.trans hkey'.symm) hat
        rw [← heq, hverdict] at hverdict'
        exact Option.some.inj hverdict'
      · rcases ChangeEvent.verdict?_cases hverdict' with ⟨hupsert, _⟩ | ⟨_, rfl⟩
        · rw [← hop, hdelete] at hupsert
          cases hupsert
        · rw [hat]

end Decided

namespace Engine

/-- After any changes what is known of every key is what they decide. -/
theorem decided_run {schemas : SchemaRegistry} (changes done : List ChangeEvent) {g : Engine}
    (hschemas : g.schemas = schemas) (hg : g.store.Consistent) (hon : g.store.available = true)
    (hdone : ∀ key, Decided schemas done key (g.store.keyState key)) :
    (g.run (changes.map .apply)).store.available = true ∧
      ∀ key, Decided schemas (done ++ changes) key
        ((g.run (changes.map .apply)).store.keyState key) := by
  induction changes generalizing g done with
  | nil =>
    rw [List.append_nil]
    exact ⟨hon, hdone⟩
  | cons e rest ih =>
    have hstep : ∀ key, Decided schemas (done ++ [e]) key
        ((g.after (.apply e)).store.keyState key) := by
      intro key
      rw [keyState_after_apply hg hon, hschemas]
      split
      · exact (hdone key).revise ‹_›
      · exact (hdone key).of_indifferent fun hkey => absurd hkey ‹_›
    have hrest := ih (done ++ [e]) ((sameConfiguration_after g _).schemas.trans hschemas)
      (consistent_after hg _) ((available_after_apply g e).trans hon) hstep
    rw [List.append_assoc] at hrest
    exact hrest

/-- Two engines that start with nothing and are told of the same changes, each as often and in whatever
order, know the same of every key, look up the same for every plan and suggest the same for every text,
if no two writes of one key have one version.  What they know of a key is what the newest change of it
that was accepted says, a deletion before a write of the same version; and what came before a change
does not bear on whether it is accepted. -/
theorem deliveries_converge (g : Engine) (hempty : g.store = Store.empty)
    (left right : List ChangeEvent) (hsame : ∀ e, e ∈ left ↔ e ∈ right)
    (hversions : ∀ e ∈ left, ∀ f ∈ left, e.operation = .upsert → f.operation = .upsert →
      e.key = f.key → e.updatedAt = f.updatedAt → e = f) :
    let s := (g.run (left.map .apply)).store
    let s' := (g.run (right.map .apply)).store
    (∀ key, ∃ state, Decided g.schemas left key state ∧
      s.get key = .ok state.document? ∧ s.directory[key]? = state.recorded? ∧
      s'.get key = .ok state.document? ∧ s'.directory[key]? = state.recorded?) ∧
    (∀ plan, ∃ found, s.lookup plan = .ok found ∧ s'.lookup plan = .ok found) ∧
    (∀ types scope start, ∃ counts,
      s.suggest types scope start = .ok counts ∧ s'.suggest types scope start = .ok counts) ∧
    ∀ (before : List ChangeEvent) (e : ChangeEvent),
      (∃ outcome, ((g.run (before.map .apply)).apply e).1 = .ok outcome) ↔
        (e.verdict? g.schemas).isSome = true := by
  intro s s'
  have hg : g.store.Consistent := hempty ▸ Store.consistent_empty
  have hon : g.store.available = true := by rw [hempty]; rfl
  have hnone : ∀ key, Decided g.schemas [] key (g.store.keyState key) := by
    intro key
    rw [hempty]
    exact Or.inl ⟨Store.keyState_empty key, fun e he => absurd he List.not_mem_nil⟩
  have hs : s.Consistent := consistent_run hg _
  have hs' : s'.Consistent := consistent_run hg _
  obtain ⟨hon₁, hdecided⟩ := decided_run left [] rfl hg hon hnone
  obtain ⟨hon₂, hdecided'⟩ := decided_run right [] rfl hg hon hnone
  rw [List.nil_append] at hdecided hdecided'
  have hknown : ∀ key, s.keyState key = s'.keyState key := fun key =>
    Decided.unique hsame hversions (hdecided key) (hdecided' key)
  have hread : ∀ {t : Store}, t.Consistent → t.available = true → ∀ key,
      t.get key = .ok (t.keyState key).document? ∧ t.directory[key]? = (t.keyState key).recorded? := by
    intro t ht hton key
    exact ⟨Store.get_eq_ok hton key, ht.directory_eq key⟩
  have hfound : ∀ types scope, s.found types scope = s'.found types scope := by
    intro types scope
    refine Store.found_eq hs hs' ?_
    intro key d _
    rw [Store.live?, Store.live?, hknown key]
  refine ⟨fun key => ?_, fun plan => ?_, fun types scope start => ?_, fun before e => ?_⟩
  · obtain ⟨hget, hdirectory⟩ := hread hs hon₁ key
    obtain ⟨hget', hdirectory'⟩ := hread hs' hon₂ key
    rw [← hknown key] at hget' hdirectory'
    exact ⟨s.keyState key, hdecided key, hget, hdirectory, hget', hdirectory'⟩
  · have hlookup := Store.lookup_eq_scan hs hon₁ plan
    refine ⟨_, hlookup, ?_⟩
    rw [← Store.lookup_eq hs hs' hon₁ hon₂ (hfound _ _)]
    exact hlookup
  · obtain ⟨counts, hcounts, _⟩ := Store.suggest_eq_scan hs hon₁ types scope start
    refine ⟨counts, hcounts, ?_⟩
    rw [← Store.suggest_eq hs hs' hon₁ hon₂ (fun t => by rw [hfound])]
    exact hcounts
  · have hstill := (decided_run before [] rfl hg hon hnone).1
    rw [apply_isOk_iff hstill, (sameConfiguration_run g _).schemas]

/-- A record written, then listed, and deleted in the version of the listing, told in order and told
backwards with the deletion twice. -/
theorem deliveries_converge_backwards :
    let record : List (String × Json) := [("name", .string "Pump")]
    let written := ChangeEvent.write .part (some "acme") "p1" (.object record) ⟨1, 0⟩
    let listed := ChangeEvent.write .part (some "acme") " p1 "
      (.object (("visibility", .string "public") :: record)) ⟨2, 0⟩
    let deleted := ChangeEvent.deletion .part (some "acme") "p1" ⟨2, 0⟩
    let g := Engine.start {} .standard .standard
    ∀ key, (g.run ([written, listed, deleted].map .apply)).store.get key =
      (g.run ([deleted, listed, deleted, written].map .apply)).store.get key := by
  intro record written listed deleted g key
  have hsame : ∀ e, e ∈ [written, listed, deleted] ↔ e ∈ [deleted, listed, deleted, written] := by
    intro e
    simp only [List.mem_cons, List.not_mem_nil, or_false]
    constructor
    · rintro (h | h | h)
      · exact Or.inr (Or.inr (Or.inr h))
      · exact Or.inr (Or.inl h)
      · exact Or.inl h
    · rintro (h | h | h | h)
      · exact Or.inr (Or.inr h)
      · exact Or.inr (Or.inl h)
      · exact Or.inr (Or.inr h)
      · exact Or.inl h
  have hversions : ∀ e ∈ [written, listed, deleted], ∀ f ∈ [written, listed, deleted],
      e.operation = .upsert → f.operation = .upsert → e.key = f.key →
        e.updatedAt = f.updatedAt → e = f := by
    intro e he f hf hop hop' _ hat
    simp only [List.mem_cons, List.not_mem_nil, or_false] at he hf
    rcases he with rfl | rfl | rfl
    · rcases hf with rfl | rfl | rfl
      · rfl
      · cases hat
      · cases hop'
    · rcases hf with rfl | rfl | rfl
      · cases hat
      · rfl
      · cases hop'
    · cases hop
  obtain ⟨hread, _⟩ := deliveries_converge g rfl _ _ hsame hversions
  obtain ⟨state, _, hget, _, hget', _⟩ := hread key
  rw [hget, hget']

end Engine

end CatalogSearch
