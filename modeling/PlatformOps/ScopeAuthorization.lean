/-
**What an authorization rests on, and what may change it.**

The evaluator allows an action when some active binding grants it, so that the order of the bindings
does not matter, further active bindings take nothing away, and neither a revoked binding nor a
membership that has ended gives anything.  All of this follows from one comparison: an evaluator
that knows no binding and no membership that another does not know allows nothing the other denies.

Main definitions:

* `ResourceScopeRoleBindingStore.ofList` — a store as the list of its bindings, revoked ones included;
* `ScopeBindingTarget.Covers`, `ResourceScopeAuthorizer.BelongsTo`, `ResourceScopeAuthorizer.Holds` —
  what an allowed decision rests on;
* `Revokes` — some bindings of a list have been revoked;
* `ResourceScopeAuthorizer.KnowsAtMost` — the comparison of two evaluators.

Main results:

* `ResourceScopeAuthorizer.KnowsAtMost.allowed` — the comparison carries over to the decisions;
* `activeBindings_inMemory` — the store kept in one process is the list, if no identifier is repeated;
* `scope_authorization_sound_monotone` — **scope authorization is sound and monotone**.
-/

import PlatformOps.ScopeAccess

set_option relaxedAutoImplicit false
set_option autoImplicit false

namespace PlatformOps

/-! ### Bindings as a list -/

/-- The store of a list of bindings: the active ones are returned. -/
def ResourceScopeRoleBindingStore.ofList (bindings : List ResourceScopeRoleBinding) :
    ResourceScopeRoleBindingStore where
  activeBindings := bindings.filter (·.state = .active)
  active b hb := by simpa using List.of_mem_filter hb

@[simp] theorem mem_activeBindings_ofList {bindings : List ResourceScopeRoleBinding}
    {b : ResourceScopeRoleBinding} :
    b ∈ (ResourceScopeRoleBindingStore.ofList bindings).activeBindings ↔
      b ∈ bindings ∧ b.state = .active := by
  simp [ResourceScopeRoleBindingStore.ofList]

/-- The store kept in one process returns the active bindings of its list, if no identifier is
repeated; of two bindings with one identifier the later replaces the earlier. -/
theorem activeBindings_inMemory {bindings : List ResourceScopeRoleBinding}
    (h : (bindings.map (·.bindingId)).Nodup) :
    (InMemoryResourceScopeRoleBindingStore.ofBindings bindings).toStore.activeBindings =
      (ResourceScopeRoleBindingStore.ofList bindings).activeBindings := by
  have hpairs : ((bindings.map fun b => (b.bindingId, b)).map Prod.fst).Nodup := by
    simpa [Function.comp_def] using h
  have hvalues : (InMemoryResourceScopeRoleBindingStore.ofBindings bindings).bindings.values =
      bindings := by
    simp [InMemoryResourceScopeRoleBindingStore.ofBindings, Dict.values,
      Dict.entries_ofPairs hpairs, Function.comp_def]
  simp only [InMemoryResourceScopeRoleBindingStore.toStore, hvalues]
  rfl

/-- Some of the bindings have been revoked. -/
def Revokes (before after : List ResourceScopeRoleBinding) : Prop :=
  List.Forall₂ (fun b b' => b' = b ∨ b' = { b with state := .revoked }) before after

theorem Revokes.mem_of_active {before after : List ResourceScopeRoleBinding}
    (h : Revokes before after) {b : ResourceScopeRoleBinding} (hb : b ∈ after)
    (hactive : b.state = .active) : b ∈ before := by
  induction h with
  | nil => cases hb
  | cons hstep _ ih =>
      rcases List.mem_cons.1 hb with rfl | hb
      · rcases hstep with rfl | rfl
        · exact List.mem_cons_self
        · cases hactive
      · exact List.mem_cons_of_mem _ (ih hb)

/-! ### What an allowed decision rests on -/

/-- The target is the scope or its environment, or covers everything below a record above it. -/
def ScopeBindingTarget.Covers (target : ScopeBindingTarget) (scope : ResourceScope) : Prop :=
  (target.kind = .scope ∧ target.resourceId = scope.scopeId) ∨
    (target.kind = .environment ∧ target.resourceId = scope.environment.environmentId) ∨
    (target.inheritToDescendants = true ∧
      ((target.kind = .project ∧ target.resourceId = scope.project.projectId) ∨
        (target.kind = .team ∧ target.resourceId = scope.team.teamId) ∨
        (target.kind = .businessUnit ∧
          target.resourceId = scope.businessUnit.businessUnitId) ∨
        (target.kind = .organization ∧
          target.resourceId = scope.organization.organizationId)))

theorem targetMatches_iff {target : ScopeBindingTarget} {scope : ResourceScope} :
    targetMatches target scope = true ↔ target.Covers scope := by
  unfold targetMatches ScopeBindingTarget.Covers
  cases hkind : target.kind with
  | scope => simp
  | organization => simp [@eq_comm _ target.resourceId]
  | businessUnit => simp [@eq_comm _ target.resourceId]
  | team => simp [@eq_comm _ target.resourceId]
  | project => simp [@eq_comm _ target.resourceId]
  | environment => simp

/-- **A target above the scope that is not inherited never matches.** -/
theorem targetMatches_of_not_inherited {target : ScopeBindingTarget} (scope : ResourceScope)
    (hinherit : target.inheritToDescendants = false) (hscope : target.kind ≠ .scope)
    (henvironment : target.kind ≠ .environment) : targetMatches target scope = false := by
  rw [← Bool.not_eq_true, targetMatches_iff]
  rintro (⟨hkind, -⟩ | ⟨hkind, -⟩ | ⟨hinherited, -⟩)
  · exact hscope hkind
  · exact henvironment hkind
  · rw [hinherit] at hinherited
    cases hinherited

/-- Every record of the scope's hierarchy is active. -/
structure ResourceScope.WhollyActive (scope : ResourceScope) : Prop where
  itself : scope.state = .active
  organization : scope.organization.state = .active
  businessUnit : scope.businessUnit.state = .active
  team : scope.team.state = .active
  project : scope.project.state = .active
  environment : scope.environment.state = .active

theorem ResourceScope.isCompleteAndActive_iff {scope : ResourceScope} :
    scope.isCompleteAndActive = true ↔ scope.WhollyActive := by
  simp only [isCompleteAndActive, List.all_cons, List.all_nil, Bool.and_true, Bool.and_eq_true,
    decide_eq_true_eq]
  constructor
  · rintro ⟨hscope, horganization, hunit, hteam, hproject, henvironment⟩
    exact ⟨hscope, horganization, hunit, hteam, hproject, henvironment⟩
  · rintro ⟨hscope, horganization, hunit, hteam, hproject, henvironment⟩
    exact ⟨hscope, horganization, hunit, hteam, hproject, henvironment⟩

namespace ResourceScopeAuthorizer

variable (a : ResourceScopeAuthorizer)

/-- A user is a member of the organization, any other principal is affiliated with it. -/
def BelongsTo (principal : PrincipalReference) (organizationId : String) : Prop :=
  (principal.kind = .user ∧ a.hasMembership principal.principalId organizationId = true) ∨
    (principal.kind ≠ .user ∧
      ∃ hasActiveAffiliation, a.principalAffiliations = some hasActiveAffiliation ∧
        hasActiveAffiliation principal organizationId = true)

/-- The binding is the principal's, or that of one of its groups. -/
def Holds (principal : PrincipalReference) (b : ResourceScopeRoleBinding) : Prop :=
  b.principal = principal ∨
    (b.principal.kind = .identityGroup ∧
      ∃ activeIdentityGroupIds, a.identityGroups = some activeIdentityGroupIds ∧
        b.principal.principalId ∈ activeIdentityGroupIds principal)

variable {a}

theorem hasActiveMembership_iff {principal : PrincipalReference} {scope : ResourceScope} :
    a.hasActiveMembership principal scope = true ↔
      a.BelongsTo principal scope.organization.organizationId := by
  unfold hasActiveMembership BelongsTo
  by_cases hkind : principal.kind = .user
  · simp [hkind]
  · simp [hkind, Option.any_eq_true]

theorem principalMatches_iff {principal : PrincipalReference} {b : ResourceScopeRoleBinding} :
    a.principalMatches b.principal principal = true ↔ a.Holds principal b := by
  simp [principalMatches, Holds, Option.any_eq_true]

/-! ### Comparing evaluators -/

/-- The evaluator knows no binding and no membership that the other does not know. -/
structure KnowsAtMost (a a' : ResourceScopeAuthorizer) : Prop where
  registry : a.registry = a'.registry
  bindings : ∀ b ∈ a.bindings.activeBindings, b ∈ a'.bindings.activeBindings
  memberships : ∀ subject organizationId, a.hasMembership subject organizationId = true →
    a'.hasMembership subject organizationId = true
  affiliations : ∀ principal organizationId,
    (a.principalAffiliations.any fun lookup => lookup principal organizationId) = true →
      (a'.principalAffiliations.any fun lookup => lookup principal organizationId) = true
  identityGroups : ∀ principal groupId,
    (a.identityGroups.any fun lookup => decide (groupId ∈ lookup principal)) = true →
      (a'.identityGroups.any fun lookup => decide (groupId ∈ lookup principal)) = true

variable {a' : ResourceScopeAuthorizer}

theorem KnowsAtMost.hasActiveMembership (h : a.KnowsAtMost a') {principal : PrincipalReference}
    {scope : ResourceScope} (hmember : a.hasActiveMembership principal scope = true) :
    a'.hasActiveMembership principal scope = true := by
  unfold ResourceScopeAuthorizer.hasActiveMembership at hmember ⊢
  by_cases hkind : principal.kind ≠ .user
  · rw [if_pos hkind] at hmember ⊢
    exact h.affiliations _ _ hmember
  · rw [if_neg hkind] at hmember ⊢
    exact h.memberships _ _ hmember

theorem KnowsAtMost.bindingAllows (h : a.KnowsAtMost a') {b : ResourceScopeRoleBinding}
    {principal : PrincipalReference} {action : ResourceScopeAction} {scope : ResourceScope}
    (hallows : a.bindingAllows b principal action scope = true) :
    a'.bindingAllows b principal action scope = true := by
  obtain ⟨haction, hprincipal, hrest⟩ := bindingAllows_iff.1 hallows
  refine bindingAllows_iff.2 ⟨haction, ?_, hrest⟩
  simp only [principalMatches, Bool.or_eq_true, Bool.and_eq_true] at hprincipal ⊢
  rcases hprincipal with heq | ⟨hkind, hgroup⟩
  · exact .inl heq
  · exact .inr ⟨hkind, h.identityGroups _ _ hgroup⟩

/-- **An evaluator that knows no more allows no more.** -/
theorem KnowsAtMost.allowed (h : a.KnowsAtMost a') {request : ResourceScopeAuthorizationRequest}
    (hallowed : (a.authorize request).allowed = true) :
    (a'.authorize request).allowed = true := by
  obtain ⟨scope, hscope, hmember, b, hb, hactive, hallows⟩ := authorize_allowed_iff.1 hallowed
  exact authorize_allowed_iff.2 ⟨scope, h.registry ▸ hscope, h.hasActiveMembership hmember, b,
    h.bindings b hb, hactive, h.bindingAllows hallows⟩

/-- The evaluator over a list of bindings. -/
def withBindings (a : ResourceScopeAuthorizer) (bindings : List ResourceScopeRoleBinding) :
    ResourceScopeAuthorizer :=
  { a with bindings := .ofList bindings }

/-- With a list of bindings that has the active ones of another, no less is known. -/
theorem knowsAtMost_withBindings {bindings bindings' : List ResourceScopeRoleBinding}
    (h : ∀ b ∈ bindings, b.state = .active → b ∈ bindings') :
    (a.withBindings bindings).KnowsAtMost (a.withBindings bindings') where
  registry := rfl
  bindings b hb := by
    obtain ⟨hmem, hactive⟩ := mem_activeBindings_ofList.1 hb
    exact mem_activeBindings_ofList.2 ⟨h b hmem hactive, hactive⟩
  memberships _ _ h := h
  affiliations _ _ h := h
  identityGroups _ _ h := h

/-- What an allowed decision rests on. -/
theorem grounds_of_allowed {bindings : List ResourceScopeRoleBinding}
    {request : ResourceScopeAuthorizationRequest}
    (h : ((a.withBindings bindings).authorize request).allowed = true) :
    ∃ scope, a.registry.resolveActive request.scopeId = some scope ∧
      scope.scopeId = request.scopeId ∧ scope.WhollyActive ∧
      a.BelongsTo request.principal scope.organization.organizationId ∧
      ∃ b ∈ bindings, b.state = .active ∧ a.Holds request.principal b ∧
        request.action ∈ b.actions ∧
        (b.conditions.environmentIds = [] ∨
          scope.environment.environmentId ∈ b.conditions.environmentIds) ∧
        b.target.Covers scope := by
  obtain ⟨scope, hscope, hmember, b, hb, hactive, hallows⟩ := authorize_allowed_iff.1 h
  obtain ⟨hid, hcomplete⟩ := a.registry.resolveActive_spec _ _ hscope
  obtain ⟨haction, hprincipal, hcondition, htarget⟩ := bindingAllows_iff.1 hallows
  exact ⟨scope, hscope, hid, ResourceScope.isCompleteAndActive_iff.1 hcomplete,
    hasActiveMembership_iff.1 hmember, b, (mem_activeBindings_ofList.1 hb).1, hactive,
    principalMatches_iff.1 hprincipal, haction, hcondition, targetMatches_iff.1 htarget⟩

end ResourceScopeAuthorizer

/-- **Scope authorization is sound and monotone.** -/
theorem scope_authorization_sound_monotone (a : ResourceScopeAuthorizer)
    (bindings : List ResourceScopeRoleBinding) (request : ResourceScopeAuthorizationRequest) :
    -- what an allowed decision rests on
    (((a.withBindings bindings).authorize request).allowed = true →
      ∃ scope, a.registry.resolveActive request.scopeId = some scope ∧
        scope.scopeId = request.scopeId ∧ scope.WhollyActive ∧
        a.BelongsTo request.principal scope.organization.organizationId ∧
        ∃ b ∈ bindings, b.state = .active ∧ a.Holds request.principal b ∧
          request.action ∈ b.actions ∧
          (b.conditions.environmentIds = [] ∨
            scope.environment.environmentId ∈ b.conditions.environmentIds) ∧
          b.target.Covers scope) ∧
    -- the order of the bindings
    (∀ bindings', bindings'.Perm bindings →
      ((a.withBindings bindings').authorize request).allowed =
        ((a.withBindings bindings).authorize request).allowed) ∧
    -- further active bindings, at any positions
    (∀ bindings' extra, bindings'.Perm (bindings ++ extra) → (∀ b ∈ extra, b.state = .active) →
      ((a.withBindings bindings).authorize request).allowed = true →
        ((a.withBindings bindings').authorize request).allowed = true) ∧
    -- revoked bindings, and memberships that have ended
    (∀ (a' : ResourceScopeAuthorizer) (bindings' : List ResourceScopeRoleBinding),
      Revokes bindings bindings' →
      (a'.withBindings bindings').KnowsAtMost (a.withBindings bindings') →
      ((a.withBindings bindings).authorize request).allowed = false →
        ((a'.withBindings bindings').authorize request).allowed = false) ∧
    -- bindings above the scope that are not inherited
    ∀ b scope, b.target.inheritToDescendants = false → b.target.kind ≠ .scope →
      b.target.kind ≠ .environment →
        a.bindingAllows b request.principal request.action scope = false := by
  refine ⟨ResourceScopeAuthorizer.grounds_of_allowed, fun bindings' hperm => ?_, ?_, ?_, ?_⟩
  · refine Bool.eq_iff_iff.2 ⟨fun h => ?_, fun h => ?_⟩
    · exact (ResourceScopeAuthorizer.knowsAtMost_withBindings
        fun b hb _ => hperm.mem_iff.1 hb).allowed h
    · exact (ResourceScopeAuthorizer.knowsAtMost_withBindings
        fun b hb _ => hperm.mem_iff.2 hb).allowed h
  · intro bindings' extra hperm _ h
    refine (ResourceScopeAuthorizer.knowsAtMost_withBindings fun b hb _ => ?_).allowed h
    exact hperm.mem_iff.2 (List.mem_append_left _ hb)
  · intro a' bindings' hrevokes hknows hdenied
    rw [← Bool.not_eq_true] at hdenied ⊢
    intro hallowed
    have hallowed' := hknows.allowed hallowed
    exact hdenied ((ResourceScopeAuthorizer.knowsAtMost_withBindings fun b hb hactive =>
      hrevokes.mem_of_active hb hactive).allowed hallowed')
  · intro b scope hinherit hscope henvironment
    rw [← Bool.not_eq_true, ResourceScopeAuthorizer.bindingAllows_iff]
    rintro ⟨-, -, -, htarget⟩
    rw [targetMatches_of_not_inherited scope hinherit hscope henvironment] at htarget
    cases htarget

end PlatformOps
