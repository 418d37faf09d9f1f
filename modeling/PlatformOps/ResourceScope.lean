/-
**Resource Scopes.**

A Resource Scope is one complete logical ownership and authorization context: an organization, a
business unit, a team, a project and an environment, each belonging to the one before it.  It is
independent of any cloud container.  The records carry what their validators check — the lengths of
the identifiers, the hierarchy, a version from one on — so a scope that does not hang together
cannot be built, and the canonical path, which the validator always overwrites, is computed from
the slugs.

Main definitions:

* `ResourceScopeState`, `Organization`, `BusinessUnit`, `Team`, `PlatformOpsProject`,
  `Environment`, `ResourceScope` — the reviewed records;
* `ResourceScope.canonicalPath` — the path a scope is registered under;
* `ResourceScope.isCompleteAndActive` — the scope and every ancestor are active;
* `ReviewedResourceScopeRegistry` — what a registry of reviewed scopes resolves;
* `InMemoryReviewedResourceScopeRegistry` — the registry kept in one process.

Main results:

* `InMemoryReviewedResourceScopeRegistry.registerReviewed_eq_ok_iff` — a registration is refused
  exactly when its canonical path belongs to another scope.
-/

import Mathlib.Data.String.Basic
import PlatformOps.Dict

set_option relaxedAutoImplicit false
set_option autoImplicit false

namespace PlatformOps

/-- The lifecycle state of a record of the hierarchy. -/
inductive ResourceScopeState
  | draft
  | active
  | suspended
  | retired
  deriving DecidableEq, Repr

structure Organization where
  organizationId : String
  slug : String
  state : ResourceScopeState
  organizationId_length : 5 ≤ organizationId.length
  deriving DecidableEq

structure BusinessUnit where
  businessUnitId : String
  organizationId : String
  slug : String
  state : ResourceScopeState
  businessUnitId_length : 4 ≤ businessUnitId.length
  deriving DecidableEq

structure Team where
  teamId : String
  businessUnitId : String
  slug : String
  state : ResourceScopeState
  teamId_length : 5 ≤ teamId.length
  deriving DecidableEq

/-- A logical PlatformOps container; not a project of a cloud provider. -/
structure PlatformOpsProject where
  projectId : String
  teamId : String
  slug : String
  state : ResourceScopeState
  projectId_length : 8 ≤ projectId.length
  deriving DecidableEq

structure Environment where
  environmentId : String
  projectId : String
  slug : String
  state : ResourceScopeState
  environmentId_length : 4 ≤ environmentId.length
  deriving DecidableEq

/-- One complete logical ownership and authorization context. -/
structure ResourceScope where
  scopeId : String
  organization : Organization
  businessUnit : BusinessUnit
  team : Team
  project : PlatformOpsProject
  environment : Environment
  state : ResourceScopeState
  version : ℕ
  scopeId_length : 8 ≤ scopeId.length
  version_pos : 1 ≤ version
  businessUnit_of_organization : businessUnit.organizationId = organization.organizationId
  team_of_businessUnit : team.businessUnitId = businessUnit.businessUnitId
  project_of_team : project.teamId = team.teamId
  environment_of_project : environment.projectId = project.projectId
  deriving DecidableEq

namespace ResourceScope

/-- The path made of the slugs of the hierarchy. -/
def canonicalPath (s : ResourceScope) : String :=
  "org:" ++ s.organization.slug ++ ":bu:" ++ s.businessUnit.slug ++ ":team:" ++ s.team.slug
    ++ ":project:" ++ s.project.slug ++ ":env:" ++ s.environment.slug

theorem canonicalPath_length (s : ResourceScope) : 1 ≤ s.canonicalPath.length := by
  simp only [canonicalPath, String.length_append]
  have : "org:".length = 4 := by decide
  omega

/-- The scope and every record of its hierarchy are active. -/
def isCompleteAndActive (s : ResourceScope) : Bool :=
  s.state = .active &&
    [s.organization.state, s.businessUnit.state, s.team.state, s.project.state,
      s.environment.state].all (· = .active)

end ResourceScope

/-- A project of the team that takes payments. -/
def checkoutProject : PlatformOpsProject :=
  ⟨"project_checkout", "team_payments", "checkout", .active, by decide⟩

/-- The active production scope of the checkout project. -/
def checkoutScope : ResourceScope where
  scopeId := "scope_checkout_prod"
  organization := ⟨"org_acme", "acme", .active, by decide⟩
  businessUnit := ⟨"bu_commerce", "org_acme", "commerce", .active, by decide⟩
  team := ⟨"team_payments", "bu_commerce", "payments", .active, by decide⟩
  project := checkoutProject
  environment := ⟨"env_prod", "project_checkout", "prod", .active, by decide⟩
  state := .active
  version := 1
  scopeId_length := by decide
  version_pos := Nat.one_pos
  businessUnit_of_organization := rfl
  team_of_businessUnit := rfl
  project_of_team := rfl
  environment_of_project := rfl

/-! ### Registries of reviewed scopes -/

/-- What a registry resolves: only scopes that are complete and active, under their own
identifiers. -/
structure ReviewedResourceScopeRegistry where
  resolveActive : String → Option ResourceScope
  resolveActive_spec : ∀ i s, resolveActive i = some s → s.scopeId = i ∧ s.isCompleteAndActive = true

/-- The registry kept in one process: the scopes by identifier, and the identifiers by path. -/
structure InMemoryReviewedResourceScopeRegistry where
  byScopeId : Dict String ResourceScope
  scopeIdByPath : Dict String String
  keyed : ∀ i s, byScopeId.get? i = some s → s.scopeId = i

/-- The refusal of a canonical path that is taken. -/
def duplicateCanonicalResourceScope : String := "canonical Resource Scope path already exists"

namespace InMemoryReviewedResourceScopeRegistry

def empty : InMemoryReviewedResourceScopeRegistry where
  byScopeId := .empty
  scopeIdByPath := .empty
  keyed := by simp

/-- Store a scope: the path it had before is given up, the path it has now is taken. -/
def store (r : InMemoryReviewedResourceScopeRegistry) (scope : ResourceScope) :
    InMemoryReviewedResourceScopeRegistry where
  byScopeId := r.byScopeId.set scope.scopeId scope
  scopeIdByPath :=
    (match r.byScopeId.get? scope.scopeId with
      | some previous => r.scopeIdByPath.erase previous.canonicalPath
      | none => r.scopeIdByPath).set scope.canonicalPath scope.scopeId
  keyed i s h := by
    by_cases hi : i = scope.scopeId
    · subst hi
      obtain rfl : scope = s := by simpa using h
      rfl
    · rw [Dict.get?_set_of_ne _ _ hi] at h
      exact r.keyed i s h

/-- Store a scope unless its path belongs to another one. -/
def registerReviewed (r : InMemoryReviewedResourceScopeRegistry) (scope : ResourceScope) :
    Except String InMemoryReviewedResourceScopeRegistry :=
  match r.scopeIdByPath.get? scope.canonicalPath with
  | some existing =>
      if existing = scope.scopeId then .ok (r.store scope)
      else .error duplicateCanonicalResourceScope
  | none => .ok (r.store scope)

theorem registerReviewed_eq_ok_iff {r r' : InMemoryReviewedResourceScopeRegistry}
    {scope : ResourceScope} :
    r.registerReviewed scope = .ok r' ↔
      (∀ i ∈ r.scopeIdByPath.get? scope.canonicalPath, i = scope.scopeId) ∧ r.store scope = r' := by
  unfold registerReviewed
  cases h : r.scopeIdByPath.get? scope.canonicalPath with
  | none => simp
  | some i =>
      by_cases hi : i = scope.scopeId
      · simp [hi]
      · simp [hi]

/-- The scope under an identifier, if it is complete and active. -/
def resolveActive (r : InMemoryReviewedResourceScopeRegistry) (scopeId : String) :
    Option ResourceScope :=
  (r.byScopeId.get? scopeId).filter (·.isCompleteAndActive)

def toRegistry (r : InMemoryReviewedResourceScopeRegistry) : ReviewedResourceScopeRegistry where
  resolveActive := r.resolveActive
  resolveActive_spec i s h := by
    obtain ⟨hs, hactive⟩ := Option.filter_eq_some_iff.1 h
    exact ⟨r.keyed i s hs, hactive⟩

end InMemoryReviewedResourceScopeRegistry

end PlatformOps
