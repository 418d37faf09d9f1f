/-
**Authorization on a Resource Scope.**

A role binding grants a set of actions to a principal on a scope or, where it is inherited, on
everything below a record of the hierarchy.  A principal is allowed an action when the scope is
complete and active, the principal belongs to the scope's organization and at least one active
binding grants the action.

Main definitions:

* `PrincipalReference`, `ResourceScopeAction`, `ResourceScopeRoleBinding` — who may do what where;
* `ResourceScopeRoleBindingStore`, `InMemoryResourceScopeRoleBindingStore` — the stored bindings;
* `ResourceScopeAuthorizer`, `ResourceScopeAuthorizer.authorize` — the evaluator;
* `ResourceScopeAuthorizer.Granted` — an active binding grants an action on a scope.

Main results:

* `ResourceScopeAuthorizer.authorize_allowed_iff` — **an action is allowed exactly when the scope is
  active, the principal belongs to its organization and an active binding grants the action**.
-/

import Mathlib.Data.Finset.Basic
import PlatformOps.ResourceScope

set_option relaxedAutoImplicit false
set_option autoImplicit false

namespace PlatformOps

inductive PrincipalKind
  | user
  | identityGroup
  | service
  deriving DecidableEq, Repr

inductive ResourceScopeAction
  | view
  | requestProvision
  | approveProvision
  | admin
  deriving DecidableEq, Repr

inductive ResourceScopeBindingState
  | active
  | revoked
  deriving DecidableEq, Repr

inductive ScopeBindingTargetKind
  | scope
  | organization
  | businessUnit
  | team
  | project
  | environment
  deriving DecidableEq, Repr

/-- The wire value of a target kind. -/
def ScopeBindingTargetKind.value : ScopeBindingTargetKind → String
  | scope => "scope"
  | organization => "organization"
  | businessUnit => "business_unit"
  | team => "team"
  | project => "project"
  | environment => "environment"

/-- An identity principal; a group is never a business unit. -/
structure PrincipalReference where
  kind : PrincipalKind
  principalId : String
  principalId_length : 1 ≤ principalId.length
  deriving DecidableEq

/-- A scope, or a named record of the hierarchy above it. -/
structure ScopeBindingTarget where
  kind : ScopeBindingTargetKind
  resourceId : String
  inheritToDescendants : Bool
  resourceId_length : 1 ≤ resourceId.length
  deriving DecidableEq

structure ResourceScopeBindingConditions where
  environmentIds : List String
  deriving DecidableEq

@[ext] structure ResourceScopeRoleBinding where
  bindingId : String
  principal : PrincipalReference
  actions : Finset ResourceScopeAction
  target : ScopeBindingTarget
  conditions : ResourceScopeBindingConditions
  state : ResourceScopeBindingState
  version : ℕ
  bindingId_length : 10 ≤ bindingId.length
  actions_nonempty : actions.Nonempty
  version_pos : 1 ≤ version
  /-- A scope and an environment have no descendants to inherit to. -/
  inheritance : target.kind = .scope ∨ target.kind = .environment →
    target.inheritToDescendants = false

instance : DecidableEq ResourceScopeRoleBinding := fun _ _ =>
  decidable_of_iff _ ResourceScopeRoleBinding.ext_iff.symm

/-! ### The stored bindings -/

/-- What a store of role bindings returns. -/
structure ResourceScopeRoleBindingStore where
  activeBindings : List ResourceScopeRoleBinding
  active : ∀ b ∈ activeBindings, b.state = .active

/-- The store kept in one process. -/
structure InMemoryResourceScopeRoleBindingStore where
  bindings : Dict String ResourceScopeRoleBinding

namespace InMemoryResourceScopeRoleBindingStore

def ofBindings (l : List ResourceScopeRoleBinding) : InMemoryResourceScopeRoleBindingStore :=
  ⟨.ofPairs (l.map fun b => (b.bindingId, b))⟩

def replace (s : InMemoryResourceScopeRoleBindingStore) (b : ResourceScopeRoleBinding) :
    InMemoryResourceScopeRoleBindingStore :=
  ⟨s.bindings.set b.bindingId b⟩

def toStore (s : InMemoryResourceScopeRoleBindingStore) : ResourceScopeRoleBindingStore where
  activeBindings := s.bindings.values.filter (·.state = .active)
  active b hb := by simpa using List.of_mem_filter hb

end InMemoryResourceScopeRoleBindingStore

/-! ### The evaluator -/

structure ResourceScopeAuthorizationRequest where
  principal : PrincipalReference
  action : ResourceScopeAction
  scopeId : String
  scopeId_length : 8 ≤ scopeId.length

structure ResourceScopeAuthorizationDecision where
  allowed : Bool
  matchedBindingIds : List String
  deriving DecidableEq

/-- Whether a target covers a scope. -/
def targetMatches (target : ScopeBindingTarget) (scope : ResourceScope) : Bool :=
  match target.kind with
  | .scope => target.resourceId = scope.scopeId
  | .environment => target.resourceId = scope.environment.environmentId
  | .organization =>
      target.inheritToDescendants && scope.organization.organizationId = target.resourceId
  | .businessUnit =>
      target.inheritToDescendants && scope.businessUnit.businessUnitId = target.resourceId
  | .team => target.inheritToDescendants && scope.team.teamId = target.resourceId
  | .project => target.inheritToDescendants && scope.project.projectId = target.resourceId

/-- The evaluator and the records it reads: the scopes, the role bindings, the memberships of users
by subject and organization, and the optional lookups for other principals and for groups. -/
structure ResourceScopeAuthorizer where
  registry : ReviewedResourceScopeRegistry
  bindings : ResourceScopeRoleBindingStore
  hasMembership : String → String → Bool
  principalAffiliations : Option (PrincipalReference → String → Bool)
  identityGroups : Option (PrincipalReference → List String)

namespace ResourceScopeAuthorizer

variable (a : ResourceScopeAuthorizer)

/-- The principal belongs to the organization of the scope. -/
def hasActiveMembership (principal : PrincipalReference) (scope : ResourceScope) : Bool :=
  if principal.kind ≠ .user then
    a.principalAffiliations.any fun hasActiveAffiliation =>
      hasActiveAffiliation principal scope.organization.organizationId
  else a.hasMembership principal.principalId scope.organization.organizationId

/-- The principal of a binding is the requesting one, or a group it is in. -/
def principalMatches (bindingPrincipal principal : PrincipalReference) : Bool :=
  bindingPrincipal = principal ||
    (bindingPrincipal.kind = .identityGroup &&
      a.identityGroups.any fun activeIdentityGroupIds =>
        bindingPrincipal.principalId ∈ activeIdentityGroupIds principal)

/-- A binding grants a principal an action on a scope. -/
def bindingAllows (b : ResourceScopeRoleBinding) (principal : PrincipalReference)
    (action : ResourceScopeAction) (scope : ResourceScope) : Bool :=
  if action ∉ b.actions || !a.principalMatches b.principal principal then false
  else if b.conditions.environmentIds ≠ [] &&
      scope.environment.environmentId ∉ b.conditions.environmentIds then false
  else targetMatches b.target scope

/-- Decide a request: which active bindings grant it. -/
def authorize (request : ResourceScopeAuthorizationRequest) : ResourceScopeAuthorizationDecision :=
  match a.registry.resolveActive request.scopeId with
  | none => ⟨false, []⟩
  | some scope =>
      if a.hasActiveMembership request.principal scope then
        let matched := (a.bindings.activeBindings.filter fun b =>
          a.bindingAllows b request.principal request.action scope).map (·.bindingId)
        ⟨!matched.isEmpty, matched⟩
      else ⟨false, []⟩

/-- An active role binding of the store grants the principal the action on the scope. -/
def Granted (principal : PrincipalReference) (action : ResourceScopeAction)
    (scope : ResourceScope) : Prop :=
  ∃ b ∈ a.bindings.activeBindings, b.state = .active ∧ a.bindingAllows b principal action scope = true

instance (principal : PrincipalReference) (action : ResourceScopeAction) (scope : ResourceScope) :
    Decidable (a.Granted principal action scope) :=
  inferInstanceAs (Decidable (∃ b ∈ a.bindings.activeBindings, _ ∧ _))

variable {a}

/-- A binding grants an action it lists, to its principal or group, within its environments and
below its target. -/
theorem bindingAllows_iff {b : ResourceScopeRoleBinding} {principal : PrincipalReference}
    {action : ResourceScopeAction} {scope : ResourceScope} :
    a.bindingAllows b principal action scope = true ↔
      action ∈ b.actions ∧ a.principalMatches b.principal principal = true ∧
        (b.conditions.environmentIds = [] ∨
          scope.environment.environmentId ∈ b.conditions.environmentIds) ∧
        targetMatches b.target scope = true := by
  unfold bindingAllows
  by_cases hact : action ∈ b.actions
  · cases hprin : a.principalMatches b.principal principal with
    | false => simp
    | true =>
        by_cases henv : b.conditions.environmentIds = []
        · simp [hact, henv]
        · by_cases hmem : scope.environment.environmentId ∈ b.conditions.environmentIds
          · simp [hact, hmem]
          · simp [hact, henv, hmem]
  · simp [hact]

/-- **An action is allowed exactly when the scope is active, the principal belongs to its
organization and an active binding grants the action.** -/
theorem authorize_allowed_iff {request : ResourceScopeAuthorizationRequest} :
    (a.authorize request).allowed = true ↔
      ∃ scope, a.registry.resolveActive request.scopeId = some scope ∧
        a.hasActiveMembership request.principal scope = true ∧
        a.Granted request.principal request.action scope := by
  unfold authorize
  cases hscope : a.registry.resolveActive request.scopeId with
  | none => simp
  | some scope =>
      cases hmember : a.hasActiveMembership request.principal scope with
      | false => simp [hmember]
      | true =>
          simp only [if_true, Bool.not_eq_true', List.isEmpty_eq_false_iff, ne_eq,
            List.map_eq_nil_iff, List.filter_eq_nil_iff, not_forall, not_not, Option.some.injEq,
            exists_eq_left', hmember, true_and, Granted]
          constructor
          · rintro ⟨b, hb, hallows⟩
            exact ⟨b, hb, a.bindings.active b hb, hallows⟩
          · rintro ⟨b, hb, -, hallows⟩
            exact ⟨b, hb, hallows⟩

end ResourceScopeAuthorizer

end PlatformOps
