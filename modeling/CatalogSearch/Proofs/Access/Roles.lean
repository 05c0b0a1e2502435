import CatalogSearch.Proofs.Text.Lowercase
import CatalogSearch.Settings.Data

/-!
# Roles in effect

A policy is looked up by trimmed, lower-cased names.  A grant is thus in effect exactly when its name is
such a name and somebody's role becomes equal to it.  Adding a role lower-cases its name, so a name
without white space around it is found; reading a policy keeps the names as written, so a role that is
written with capitals is never found.
-/

set_option autoImplicit false

namespace CatalogSearch.AccessPolicy

open CatalogSearch.Text

/-- A grant that one of the roles brings: the policy has it under a name that is already trimmed and
lower-cased, and the role becomes equal to that name once both are. -/
def Brings (p : AccessPolicy) (roles : List String) (grant : RoleGrant) : Prop :=
  ∃ name, p.roles[name]? = some grant ∧ lower (trim name) = name ∧
    ∃ role ∈ roles, lower (trim role) = lower (trim name)

variable {p : AccessPolicy} {roles : List String}

/-- The grants of somebody are those that one of its roles brings. -/
theorem mem_grants_iff {grant : RoleGrant} : grant ∈ p.grants roles ↔ p.Brings roles grant := by
  constructor
  · intro hgrant
    obtain ⟨role, hrole, hfound⟩ := List.mem_filterMap.mp hgrant
    have hname : lower (trim (lower (trim role))) = lower (trim role) := lower_trim_lower_trim role
    exact ⟨lower (trim role), hfound, hname, role, hrole, hname.symm⟩
  · rintro ⟨name, hfound, hname, role, hrole, heq⟩
    refine List.mem_filterMap.mpr ⟨role, hrole, ?_⟩
    rw [heq, hname]
    exact hfound

/-- A grant covers an action when one of its permissions that are well formed does. -/
theorem allows_grant_iff {grant : RoleGrant} {resource action : String} :
    grant.allows resource action = true ↔
      ∃ raw ∈ grant.permissions, ∃ permission, Permission.parse? raw = some permission ∧
        permission.allows resource action = true := by
  simp only [RoleGrant.allows, List.any_eq_true, List.mem_filterMap]
  constructor
  · rintro ⟨permission, ⟨raw, hraw, hparse⟩, hallows⟩
    exact ⟨raw, hraw, permission, hparse, hallows⟩
  · rintro ⟨raw, hraw, permission, hparse, hallows⟩
    exact ⟨permission, ⟨raw, hraw, hparse⟩, hallows⟩

/-- A role is added under a name by which it is found, if there is no white space around it. -/
theorem getElem?_withRole {name : String} (h : trim name = name) (grant : RoleGrant) :
    (p.withRole name grant).roles[lower name]? = some grant ∧
      lower (trim (lower name)) = lower name :=
  ⟨Std.ExtTreeMap.getElem?_insert_self, lower_trim_lower h⟩

/-- In any policy, somebody may read everywhere, or do an action on a resource, exactly when a grant that
one of its roles brings says so; a role that is added under a name without white space around it brings
its grant to everybody with a role of that name, in whatever capitals. -/
theorem in_effect_iff (p : AccessPolicy) (roles : List String) :
    (p.hasGlobalRead roles = true ↔ ∃ grant, p.Brings roles grant ∧ grant.globalRead = true) ∧
    (∀ resource action, p.permits roles resource action = true ↔
      ∃ grant, p.Brings roles grant ∧
        ∃ raw ∈ grant.permissions, ∃ permission, Permission.parse? raw = some permission ∧
          permission.allows resource action = true) ∧
    (∀ name grant, trim name = name → ∀ role ∈ roles, lower (trim role) = lower name →
      (p.withRole name grant).Brings roles grant) := by
  refine ⟨?_, fun resource action => ?_, fun name grant htrim role hrole heq => ?_⟩
  · simp only [hasGlobalRead, List.any_eq_true, mem_grants_iff]
  · simp only [permits, List.any_eq_true, mem_grants_iff, allows_grant_iff]
  · obtain ⟨hfound, hname⟩ := getElem?_withRole (p := p) htrim grant
    exact ⟨lower name, hfound, hname, role, hrole, heq.trans hname.symm⟩

/-- Whoever carries a role with white space around it and in other capitals has what was added. -/
theorem in_effect_auditor :
    let p := empty.withRole "Auditor" ⟨true, ["Catalog:Read"]⟩
    p.hasGlobalRead [" AUDITOR "] = true ∧ p.permits [" AUDITOR "] "catalog" "read" = true := by
  have hbrings := (in_effect_iff empty [" AUDITOR "]).2.2 "Auditor" ⟨true, ["Catalog:Read"]⟩
    (by decide) " AUDITOR " (List.mem_singleton.mpr rfl) (by decide)
  have hglobal := (in_effect_iff (empty.withRole "Auditor" ⟨true, ["Catalog:Read"]⟩) [" AUDITOR "]).1
  have hpermits :=
    (in_effect_iff (empty.withRole "Auditor" ⟨true, ["Catalog:Read"]⟩) [" AUDITOR "]).2.1
  have hparse : Permission.parse? "Catalog:Read" = some ⟨"catalog", "read"⟩ := by decide
  exact ⟨hglobal.mpr ⟨_, hbrings, rfl⟩,
    (hpermits "catalog" "read").mpr
      ⟨_, hbrings, "Catalog:Read", List.mem_singleton.mpr rfl, ⟨"catalog", "read"⟩, hparse, by decide⟩⟩

/-- A role that is read with a capital in its name is in the policy and without effect, even for
somebody who has it as written. -/
theorem capital_without_effect :
    ∃ p grant,
      SettingSource.json.policy?
        (.object [("roles", .object [("Auditor", .object [("global_read", .bool true)])])]) = some p ∧
      p.roles["Auditor"]? = some grant ∧ grant.globalRead = true ∧
      p.hasGlobalRead ["Auditor"] = false := by
  refine ⟨⟨(∅ : Std.ExtTreeMap String RoleGrant).insert "Auditor" ⟨true, []⟩⟩, ⟨true, []⟩, rfl,
    Std.ExtTreeMap.getElem?_insert_self, rfl, ?_⟩
  decide

end CatalogSearch.AccessPolicy
