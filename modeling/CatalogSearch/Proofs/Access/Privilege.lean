import CatalogSearch.Access.View

/-!
# Privileges of callers

Permissions only ever allow: no grant takes anything away.  So whoever is known and has the roles of
somebody else of its tenant finds what that one finds and reads what that one reads; and everybody who
is known has the privileges of a guest, whatever roles the guest carries.
-/

set_option autoImplicit false

namespace CatalogSearch

open CatalogSearch.Text

/-! ## Roles -/

namespace AccessPolicy

variable {policy : AccessPolicy} {roles roles' : List String}

/-- More roles have more grants. -/
theorem grants_subset (hroles : roles ⊆ roles') : policy.grants roles ⊆ policy.grants roles' :=
  List.filterMap_subset _ hroles

theorem hasGlobalRead_of_subset (hroles : roles ⊆ roles')
    (h : policy.hasGlobalRead roles = true) : policy.hasGlobalRead roles' = true := by
  obtain ⟨grant, hgrant, hreads⟩ := List.any_eq_true.mp h
  exact List.any_eq_true.mpr ⟨grant, grants_subset hroles hgrant, hreads⟩

theorem permits_of_subset (hroles : roles ⊆ roles') {resource action : String}
    (h : policy.permits roles resource action = true) :
    policy.permits roles' resource action = true := by
  obtain ⟨grant, hgrant, hallows⟩ := List.any_eq_true.mp h
  exact List.any_eq_true.mpr ⟨grant, grants_subset hroles hgrant, hallows⟩

end AccessPolicy

/-! ## Callers -/

/-- A caller with all privileges of another one: it is known, and the other is a guest, or one of its
tenant that has none but its roles. -/
structure Caller.Outranks (caller other : Caller) : Prop where
  known : caller.isGuest = false
  covers : other.isGuest = true ∨
    other.isGuest = false ∧ nonBlank? caller.tenant = nonBlank? other.tenant ∧
      other.roles ⊆ caller.roles

/-! ## Views -/

/-- A view in which nothing is seen that is not seen in another one. -/
structure AccessView.Within (view wider : AccessView) : Prop where
  scope : ∀ place, view.scope.admitsPartition place = true →
    wider.scope.admitsPartition place = true
  types : ∀ t, view.canReadSensitiveType t = true → wider.canReadSensitiveType t = true
  documents : ∀ d, view.canReadSensitive d = true → wider.canReadSensitive d = true

namespace AccessView

variable {policy : AccessPolicy} {caller other : Caller}

theorem caller_resolve (policy : AccessPolicy) (caller : Caller) :
    (resolve policy caller).caller = caller := by
  unfold resolve
  split
  · rfl
  · rfl

theorem resolve_of_guest (hguest : caller.isGuest = true) :
    resolve policy caller = ⟨caller, .restricted none, []⟩ := by
  rw [resolve, if_pos hguest]

theorem resolve_of_known (hknown : caller.isGuest = false) :
    resolve policy caller =
      ⟨caller,
        if policy.hasGlobalRead caller.roles then .unrestricted
        else .restricted (nonBlank? caller.tenant),
        EntityType.all.filter (policy.canReadSensitive caller.roles)⟩ := by
  rw [resolve, hknown, if_neg Bool.false_ne_true]

/-- A guest reads confidential fields of no type. -/
theorem canReadSensitiveType_of_guest (hguest : caller.isGuest = true) (t : EntityType) :
    (resolve policy caller).canReadSensitiveType t = false := by
  rw [resolve_of_guest hguest]
  simp [canReadSensitiveType]

theorem canReadSensitiveType_of_known (hknown : caller.isGuest = false) (t : EntityType) :
    (resolve policy caller).canReadSensitiveType t = policy.canReadSensitive caller.roles t := by
  rw [resolve_of_known hknown]
  simp [canReadSensitiveType, isGuest, hknown, EntityType.mem_all]

/-- What a guest may find, everybody may. -/
theorem admitsPartition_of_guest (scope : TenantScope) {place : PartitionScope}
    (h : (TenantScope.restricted none).admitsPartition place = true) :
    scope.admitsPartition place = true := by
  cases scope with
  | unrestricted => rfl
  | restricted tenant =>
    cases place with
    | global => rfl
    | listed => rfl
    | tenant owner => simp [TenantScope.admitsPartition] at h

/-- The view of a guest is within every view. -/
theorem within_of_guest (hguest : other.isGuest = true) (wider : AccessView) :
    (resolve policy other).Within wider where
  scope place h := by
    rw [resolve_of_guest hguest] at h
    exact admitsPartition_of_guest wider.scope h
  types t h := by
    rw [canReadSensitiveType_of_guest hguest] at h
    exact absurd h Bool.false_ne_true
  documents d h := by
    rw [canReadSensitive, canReadSensitiveType_of_guest hguest, Bool.false_and] at h
    exact absurd h Bool.false_ne_true

/-- More roles in one tenant have a wider view. -/
theorem within_of_roles (hknown : caller.isGuest = false) (hother : other.isGuest = false)
    (htenant : nonBlank? caller.tenant = nonBlank? other.tenant)
    (hroles : other.roles ⊆ caller.roles) :
    (resolve policy other).Within (resolve policy caller) := by
  have htypes : ∀ t, (resolve policy other).canReadSensitiveType t = true →
      (resolve policy caller).canReadSensitiveType t = true := by
    intro t h
    rw [canReadSensitiveType_of_known hother] at h
    rw [canReadSensitiveType_of_known hknown]
    exact AccessPolicy.permits_of_subset hroles h
  refine ⟨fun place h => ?_, htypes, fun d h => ?_⟩
  · rw [resolve_of_known hother] at h
    rw [resolve_of_known hknown]
    cases hreads : policy.hasGlobalRead caller.roles with
    | true => rfl
    | false =>
      have hreads' : policy.hasGlobalRead other.roles ≠ true := by
        intro hreads'
        rw [AccessPolicy.hasGlobalRead_of_subset hroles hreads'] at hreads
        cases hreads
      simpa [hreads', htenant] using h
  · rw [canReadSensitive, Bool.and_eq_true] at h ⊢
    rw [caller_resolve] at h ⊢
    rw [htenant]
    exact ⟨htypes _ h.1, h.2⟩

/-- Whoever has all privileges of another caller has a wider view. -/
theorem within_of_outranks (h : caller.Outranks other) :
    (resolve policy other).Within (resolve policy caller) := by
  rcases h.covers with hguest | ⟨hother, htenant, hroles⟩
  · exact within_of_guest hguest _
  · exact within_of_roles h.known hother htenant hroles

namespace Within

variable {view wider : AccessView} {d : Document}

/-- What is hidden in a wider view is hidden. -/
theorem isHidden (h : view.Within wider) {field : String} (hhidden : wider.isHidden d field = true) :
    view.isHidden d field = true := by
  unfold AccessView.isHidden at hhidden ⊢
  rw [Bool.and_eq_true] at hhidden ⊢
  refine ⟨hhidden.1, ?_⟩
  cases hread : view.canReadSensitive d with
  | false => rfl
  | true => simp [h.documents d hread] at hhidden

/-- What is seen of a field is seen in a wider view. -/
theorem visibleValue? (h : view.Within wider) {field : String} {value : FieldValue}
    (hvalue : view.visibleValue? d field = some value) :
    wider.visibleValue? d field = some value := by
  unfold AccessView.visibleValue? at hvalue ⊢
  split at hvalue
  · cases hvalue
  · rename_i hvisible
    rw [if_neg (mt h.isHidden hvisible)]
    exact hvalue

end Within

end AccessView

end CatalogSearch
