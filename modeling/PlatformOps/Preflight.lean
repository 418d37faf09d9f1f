/-
**Preflight of a provision request.**

The preflight takes one request through the scope registry, the authorizer, the binding resolver and
the governance policies, and seals the context of the decision.  It fails closed at every stage.
The action it asks the authorizer and the policies about is the one that the caller put into the
request, while the context it seals is later read as the right to provision.

Main definitions:

* `ResourceScopeProvisionPreflight`, `ResourceScopeProvisionPreflight.evaluate` — the pipeline;
* `Passes` — every stage lets an action through;
* `BoundToProvision` — an outcome with a context stands for the right to provision;
* `ActionStandsForProvision` — the requests on which it does.

Main results:

* `evaluate_eq_ready_iff`, `evaluate_eq_approvalRequired_iff` — the two outcomes with a context;
* `evaluate_isOk` — the sealing never fails;
* `boundToProvision_iff` — **an outcome stands for the right to provision exactly when the request
  asks for that action, is stopped, or would have passed with that action as well**.
-/

import PlatformOps.Freshness

set_option relaxedAutoImplicit false
set_option autoImplicit false

namespace PlatformOps

open ResourceScopeBindingRegistry

/-- A request: a logical scope, a principal, an action and a trusted profile. -/
structure ProvisionPreflightRequest where
  authorization : ResourceScopeAuthorizationRequest
  profile : ProvisioningBindingProfile

/-- The same request for another action. -/
def ProvisionPreflightRequest.withAction (request : ProvisionPreflightRequest)
    (action : ResourceScopeAction) : ProvisionPreflightRequest :=
  { request with authorization := { request.authorization with action := action } }

/-- The outcomes; exactly the first two carry a context. -/
inductive ProvisionPreflightResult (sha256 : String → HexDigest)
  | ready (resolvedContext : ResolvedResourceScopeContext sha256)
  | approvalRequired (resolvedContext : ResolvedResourceScopeContext sha256)
  | denied
  | nonRoutable

theorem CloudProvider.value_length (p : CloudProvider) : 1 ≤ p.value.length := by
  cases p <;> decide

/-- What governance is asked about an action on a scope with the provider of a binding, before
anybody approved it. -/
def unapprovedRequest (scope : ResourceScope) (binding : CloudResourceContainerBinding)
    (action : ResourceScopeAction) : ResourceScopeGovernanceRequest where
  scope := scope
  provider := binding.provider.value
  action := action
  approvalPresent := false
  provider_length := binding.provider.value_length

/-- The stages of the pipeline.  The authorizer brings the scope registry, in which the preflight
resolves the scope as well. -/
structure ResourceScopeProvisionPreflight (ρ : Type) where
  authorizer : ResourceScopeAuthorizer
  bindings : ρ
  governance : ResourceScopeGovernancePolicyStore

section Pipeline

variable {ρ : Type} [ResourceScopeBindingRegistry ρ] (sha256 : String → HexDigest)

/-- Take a request through the stages. -/
def ResourceScopeProvisionPreflight.evaluate (p : ResourceScopeProvisionPreflight ρ)
    (request : ProvisionPreflightRequest) : Except String (ProvisionPreflightResult sha256) :=
  match p.authorizer.registry.resolveActive request.authorization.scopeId with
  | none => .ok .nonRoutable
  | some scope =>
      let authorization := p.authorizer.authorize request.authorization
      if !authorization.allowed then .ok .denied
      else
        match resolve p.bindings scope.scopeId request.profile with
        | .nonRoutable => .ok .nonRoutable
        | .resolved binding =>
            let governance := p.governance.evaluate
              (unapprovedRequest scope binding request.authorization.action)
            if !governance.allowed && !governance.approvalRequired then .ok .denied
            else
              match sealContext sha256 scope authorization governance binding with
              | .error message => .error message
              | .ok resolvedContext =>
                  if governance.approvalRequired then .ok (.approvalRequired resolvedContext)
                  else .ok (.ready resolvedContext)

/-- The scope is active, the action is granted on it, and the profile selects one binding. -/
structure Routable (p : ResourceScopeProvisionPreflight ρ) (request : ProvisionPreflightRequest)
    (scope : ResourceScope) (binding : CloudResourceContainerBinding) : Prop where
  scope_active : p.authorizer.registry.resolveActive request.authorization.scopeId = some scope
  authorized : (p.authorizer.authorize request.authorization).allowed = true
  selected : resolve p.bindings scope.scopeId request.profile = .resolved binding

/-- What a routable request seals. -/
def requestContents (p : ResourceScopeProvisionPreflight ρ) (request : ProvisionPreflightRequest)
    (scope : ResourceScope) (binding : CloudResourceContainerBinding) : ContextContents :=
  decisionContents scope (p.authorizer.authorize request.authorization)
    (p.governance.evaluate (unapprovedRequest scope binding request.authorization.action)) binding

variable {sha256} {p : ResourceScopeProvisionPreflight ρ} {request : ProvisionPreflightRequest}

/-- A routable request that governance does not deny is sealed. -/
theorem Routable.sealContext_eq {scope : ResourceScope} {binding : CloudResourceContainerBinding}
    (h : Routable p request scope binding)
    (hgov : (p.governance.evaluate (unapprovedRequest scope binding
        request.authorization.action)).allowed = true ∨
      (p.governance.evaluate (unapprovedRequest scope binding
        request.authorization.action)).approvalRequired = true) :
    sealContext sha256 scope (p.authorizer.authorize request.authorization)
        (p.governance.evaluate (unapprovedRequest scope binding request.authorization.action)) binding
      = .ok ((requestContents p request scope binding).context sha256) := by
  obtain ⟨-, hactive⟩ := p.authorizer.registry.resolveActive_spec _ _ h.scope_active
  obtain ⟨hscope, hstate⟩ := mem_of_resolve h.selected
  exact sealContext_eq_ok_iff.2 ⟨hactive, h.authorized, hgov, hscope, hstate, rfl⟩

/-- The outcome of a routable request, as governance decides it. -/
def governedResult (sha256 : String → HexDigest) (p : ResourceScopeProvisionPreflight ρ)
    (request : ProvisionPreflightRequest) (scope : ResourceScope)
    (binding : CloudResourceContainerBinding) : ProvisionPreflightResult sha256 :=
  if (p.governance.evaluate (unapprovedRequest scope binding
      request.authorization.action)).approvalRequired then
    .approvalRequired ((requestContents p request scope binding).context sha256)
  else if (p.governance.evaluate (unapprovedRequest scope binding
      request.authorization.action)).allowed then
    .ready ((requestContents p request scope binding).context sha256)
  else .denied

/-- The outcomes of the pipeline, by the stage that decides. -/
theorem evaluate_outcomes (sha256 : String → HexDigest) (p : ResourceScopeProvisionPreflight ρ)
    (request : ProvisionPreflightRequest) :
    ((∀ scope binding, ¬ Routable p request scope binding) ∧
        (p.evaluate sha256 request = .ok .nonRoutable ∨ p.evaluate sha256 request = .ok .denied)) ∨
      ∃ scope binding, Routable p request scope binding ∧
        p.evaluate sha256 request = .ok (governedResult sha256 p request scope binding) := by
  unfold ResourceScopeProvisionPreflight.evaluate
  cases hscope : p.authorizer.registry.resolveActive request.authorization.scopeId with
  | none =>
      refine Or.inl ⟨fun scope binding h => ?_, Or.inl rfl⟩
      rw [h.scope_active] at hscope
      cases hscope
  | some scope =>
      simp only
      cases hauth : (p.authorizer.authorize request.authorization).allowed with
      | false =>
          refine Or.inl ⟨fun _ _ h => ?_, Or.inr rfl⟩
          rw [h.authorized] at hauth
          cases hauth
      | true =>
          simp only [Bool.not_true, Bool.false_eq_true, if_false]
          cases hresolve : resolve p.bindings scope.scopeId request.profile with
          | nonRoutable =>
              refine Or.inl ⟨fun scope' binding h => ?_, Or.inl rfl⟩
              obtain rfl : scope = scope' := by
                rw [← Option.some_inj, ← hscope, h.scope_active]
              rw [h.selected] at hresolve
              cases hresolve
          | resolved binding =>
              have hroute : Routable p request scope binding := ⟨hscope, hauth, hresolve⟩
              refine Or.inr ⟨scope, binding, hroute, ?_⟩
              simp only [governedResult]
              cases happroval : (p.governance.evaluate (unapprovedRequest scope binding
                  request.authorization.action)).approvalRequired with
              | true =>
                  rw [hroute.sealContext_eq (Or.inr happroval)]
                  simp
              | false =>
                  cases hallowed : (p.governance.evaluate (unapprovedRequest scope binding
                      request.authorization.action)).allowed with
                  | true =>
                      rw [hroute.sealContext_eq (Or.inl hallowed)]
                      simp
                  | false => simp

/-- A request is routable in one way. -/
theorem Routable.unique {scope scope' : ResourceScope}
    {binding binding' : CloudResourceContainerBinding} (h : Routable p request scope binding)
    (h' : Routable p request scope' binding') : scope = scope' ∧ binding = binding' := by
  obtain rfl : scope = scope' := by
    have hscope := h.scope_active
    rw [h'.scope_active] at hscope
    exact (Option.some.inj hscope).symm
  have hbinding := h.selected
  rw [h'.selected] at hbinding
  cases hbinding
  exact ⟨rfl, rfl⟩

/-- An outcome with a context is the one governance gives a routable request. -/
theorem evaluate_eq_ok_iff {result : ProvisionPreflightResult sha256}
    (hnonRoutable : result ≠ .nonRoutable) (hdenied : result ≠ .denied) :
    p.evaluate sha256 request = .ok result ↔
      ∃ scope binding, Routable p request scope binding ∧
        governedResult sha256 p request scope binding = result := by
  rcases evaluate_outcomes sha256 p request with ⟨hnone, hout⟩ | ⟨scope, binding, hroute, hout⟩
  · constructor
    · intro h
      rcases hout with h' | h'
      · rw [h'] at h
        cases h
        exact absurd rfl hnonRoutable
      · rw [h'] at h
        cases h
        exact absurd rfl hdenied
    · rintro ⟨scope, binding, hroute, -⟩
      exact absurd hroute (hnone scope binding)
  · rw [hout]
    constructor
    · intro h
      cases h
      exact ⟨scope, binding, hroute, rfl⟩
    · rintro ⟨scope', binding', hroute', rfl⟩
      obtain ⟨rfl, rfl⟩ := hroute.unique hroute'
      rfl

/-- **A request is ready when every stage lets its action through.** -/
theorem evaluate_eq_ready_iff {context : ResolvedResourceScopeContext sha256} :
    p.evaluate sha256 request = .ok (.ready context) ↔
      ∃ scope binding, Routable p request scope binding ∧
        (p.governance.evaluate (unapprovedRequest scope binding
          request.authorization.action)).allowed = true ∧
        context = (requestContents p request scope binding).context sha256 := by
  rw [evaluate_eq_ok_iff (by simp) (by simp)]
  constructor
  · rintro ⟨scope, binding, hroute, hresult⟩
    unfold governedResult at hresult
    split_ifs at hresult with happroval hallowed
    cases hresult
    exact ⟨scope, binding, hroute, hallowed, rfl⟩
  · rintro ⟨scope, binding, hroute, hallowed, rfl⟩
    have happroval := approvalRequired_eq_false_of_allowed hallowed
    exact ⟨scope, binding, hroute, by simp [governedResult, happroval, hallowed]⟩

/-- **A request awaits an approval when that is all that is missing.** -/
theorem evaluate_eq_approvalRequired_iff {context : ResolvedResourceScopeContext sha256} :
    p.evaluate sha256 request = .ok (.approvalRequired context) ↔
      ∃ scope binding, Routable p request scope binding ∧
        (p.governance.evaluate (unapprovedRequest scope binding
          request.authorization.action)).approvalRequired = true ∧
        context = (requestContents p request scope binding).context sha256 := by
  rw [evaluate_eq_ok_iff (by simp) (by simp)]
  constructor
  · rintro ⟨scope, binding, hroute, hresult⟩
    unfold governedResult at hresult
    split_ifs at hresult with happroval
    cases hresult
    exact ⟨scope, binding, hroute, happroval, rfl⟩
  · rintro ⟨scope, binding, hroute, happroval, rfl⟩
    exact ⟨scope, binding, hroute, by simp [governedResult, happroval]⟩

/-- The preflight never raises. -/
theorem evaluate_isOk (p : ResourceScopeProvisionPreflight ρ)
    (request : ProvisionPreflightRequest) :
    ∃ result, p.evaluate sha256 request = .ok result := by
  rcases evaluate_outcomes sha256 p request with ⟨-, h | h⟩ | ⟨scope, binding, -, hout⟩
  · exact ⟨_, h⟩
  · exact ⟨_, h⟩
  · exact ⟨_, hout⟩

/-! ### The right to provision -/

/-- A context stands for the right to provision: its scope is active, an active role binding grants
the principal to request provisioning there, and governance of that request with the provider of
the sealed binding has the given outcome. -/
def RightToProvision (p : ResourceScopeProvisionPreflight ρ) (request : ProvisionPreflightRequest)
    (context : ResolvedResourceScopeContext sha256)
    (outcome : ResourceScopeGovernanceDecision → Bool) : Prop :=
  ∃ scope binding,
    p.authorizer.registry.resolveActive request.authorization.scopeId = some scope ∧
    binding ∈ activeBindings p.bindings scope.scopeId ∧
    context.bindingVersions.map (·.bindingId) = [binding.bindingId] ∧
    p.authorizer.Granted request.authorization.principal .requestProvision scope ∧
    outcome (p.governance.evaluate (unapprovedRequest scope binding .requestProvision)) = true

/-- Every outcome with a context stands for the right to provision. -/
def BoundToProvision (sha256 : String → HexDigest) (p : ResourceScopeProvisionPreflight ρ)
    (request : ProvisionPreflightRequest) : Prop :=
  ∀ context : ResolvedResourceScopeContext sha256,
    (p.evaluate sha256 request = .ok (.ready context) →
      RightToProvision p request context (·.allowed)) ∧
    (p.evaluate sha256 request = .ok (.approvalRequired context) →
      RightToProvision p request context (·.approvalRequired))

/-- The stages let the action of a request through without an approval. -/
def Passes (p : ResourceScopeProvisionPreflight ρ) (request : ProvisionPreflightRequest)
    (scope : ResourceScope) (binding : CloudResourceContainerBinding) : Prop :=
  Routable p request scope binding ∧
    (p.governance.evaluate (unapprovedRequest scope binding
      request.authorization.action)).allowed = true

/-- The request asks for provisioning, or it passes only where it would with that action. -/
def ActionStandsForProvision (p : ResourceScopeProvisionPreflight ρ)
    (request : ProvisionPreflightRequest) : Prop :=
  request.authorization.action = .requestProvision ∨
    ∀ scope binding, Passes p request scope binding →
      Passes p (request.withAction .requestProvision) scope binding

/-- The context of a routable request stands for the right to provision when the same request
for that action is routable and governance has the outcome. -/
theorem Routable.rightToProvision_iff {scope : ResourceScope}
    {binding : CloudResourceContainerBinding} (h : Routable p request scope binding)
    {outcome : ResourceScopeGovernanceDecision → Bool} :
    RightToProvision p request ((requestContents p request scope binding).context sha256) outcome ↔
      Routable p (request.withAction .requestProvision) scope binding ∧
        outcome (p.governance.evaluate (unapprovedRequest scope binding .requestProvision))
          = true := by
  have hbinding := mem_activeBindings_of_resolve h.selected
  obtain ⟨scope₀, hscope₀, hmember, -⟩ :=
    ResourceScopeAuthorizer.authorize_allowed_iff.1 h.authorized
  obtain rfl : scope = scope₀ := by
    rw [h.scope_active] at hscope₀
    exact Option.some.inj hscope₀
  constructor
  · rintro ⟨scope', binding', hscope', hactive', hid, hgranted, hout⟩
    obtain rfl : scope = scope' := by
      rw [h.scope_active] at hscope'
      exact Option.some.inj hscope'
    -- two active bindings with one identifier are one binding
    obtain rfl : binding = binding' := by
      have hid' : binding.bindingId = binding'.bindingId := (List.cons.inj hid).1
      have htable := (mem_activeBindings.1 hbinding).1
      rw [hid', (mem_activeBindings.1 hactive').1] at htable
      exact (Option.some.inj htable).symm
    refine ⟨⟨h.scope_active, ?_, h.selected⟩, hout⟩
    exact ResourceScopeAuthorizer.authorize_allowed_iff.2 ⟨scope, h.scope_active, hmember, hgranted⟩
  · rintro ⟨hroute, hout⟩
    obtain ⟨scope', hscope', -, hgranted⟩ :=
      ResourceScopeAuthorizer.authorize_allowed_iff.1 hroute.authorized
    obtain rfl : scope = scope' := by
      have hscope'' : p.authorizer.registry.resolveActive request.authorization.scopeId
          = some scope' := hscope'
      rw [h.scope_active] at hscope''
      exact Option.some.inj hscope''
    exact ⟨scope, binding, h.scope_active, hbinding, rfl, hgranted, hout⟩

/-- **An outcome stands for the right to provision exactly when the request asks for that action,
is stopped, or would have passed with that action as well.** -/
theorem boundToProvision_iff :
    BoundToProvision sha256 p request ↔ ActionStandsForProvision p request := by
  by_cases haction : request.authorization.action = .requestProvision
  · have hsame : request.withAction .requestProvision = request := by
      obtain ⟨⟨principal, action, scopeId, hlen⟩, profile⟩ := request
      simp only at haction
      subst haction
      rfl
    refine ⟨fun _ => Or.inl haction, fun _ context => ⟨fun h => ?_, fun h => ?_⟩⟩
    · obtain ⟨scope, binding, hroute, hallowed, rfl⟩ := evaluate_eq_ready_iff.1 h
      rw [haction] at hallowed
      exact hroute.rightToProvision_iff.2 ⟨hsame ▸ hroute, hallowed⟩
    · obtain ⟨scope, binding, hroute, happroval, rfl⟩ := evaluate_eq_approvalRequired_iff.1 h
      rw [haction] at happroval
      exact hroute.rightToProvision_iff.2 ⟨hsame ▸ hroute, happroval⟩
  · constructor
    · intro h
      refine Or.inr fun scope binding hpasses => ?_
      obtain ⟨hroute, hallowed⟩ := hpasses
      have hready := (h _).1 (evaluate_eq_ready_iff.2 ⟨scope, binding, hroute, hallowed, rfl⟩)
      exact hroute.rightToProvision_iff.1 hready
    · intro h context
      refine ⟨fun hready => ?_, fun happroval => ?_⟩
      · obtain ⟨scope, binding, hroute, hallowed, rfl⟩ := evaluate_eq_ready_iff.1 hready
        exact hroute.rightToProvision_iff.2
          ((h.resolve_left haction) scope binding ⟨hroute, hallowed⟩)
      · obtain ⟨scope, binding, -, happroval, -⟩ := evaluate_eq_approvalRequired_iff.1 happroval
        -- governance asks for an approval of provisioning only
        exact absurd (action_of_approvalRequired happroval) haction

end Pipeline

/-! ### One member with one grant -/

def alice : PrincipalReference := ⟨.user, "usr_alice", by decide⟩

def bob : PrincipalReference := ⟨.user, "usr_bob", by decide⟩

/-- The binding that grants Alice one action on the checkout scope. -/
def aliceGrant (action : ResourceScopeAction) : ResourceScopeRoleBinding where
  bindingId := "scopebind_alice"
  principal := alice
  actions := {action}
  target := ⟨.scope, "scope_checkout_prod", false, by decide⟩
  conditions := ⟨[]⟩
  state := .active
  version := 1
  bindingId_length := by decide
  actions_nonempty := ⟨action, Finset.mem_singleton_self action⟩
  version_pos := Nat.one_pos
  inheritance _ := rfl

/-- The records of the checkout scope, where Alice is a member and holds one grant. -/
def checkoutAuthorizer (granted : ResourceScopeAction) : ResourceScopeAuthorizer where
  registry := (InMemoryReviewedResourceScopeRegistry.empty.store checkoutScope).toRegistry
  bindings := (InMemoryResourceScopeRoleBindingStore.ofBindings [aliceGrant granted]).toStore
  hasMembership userSubject organizationId :=
    userSubject = "usr_alice" && organizationId = "org_acme"
  principalAffiliations := none
  identityGroups := none

def checkoutPreflight (granted : ResourceScopeAction) :
    ResourceScopeProvisionPreflight InMemoryResourceScopeBindingRegistry where
  authorizer := checkoutAuthorizer granted
  bindings := checkoutRegistry
  governance := inMemoryPolicyStore []

/-- Alice's request for an action on the checkout scope. -/
def checkoutRequest (action : ResourceScopeAction) : ProvisionPreflightRequest where
  authorization := ⟨alice, action, "scope_checkout_prod", checkoutScope.scopeId_length⟩
  profile := ⟨"aws-static-web", {.aws}, by decide, ⟨.aws, by decide⟩⟩

/-- Whoever holds one grant and asks for that action passes. -/
theorem checkout_passes (action : ResourceScopeAction) :
    Passes (checkoutPreflight action) (checkoutRequest action) checkoutScope checkoutBinding := by
  refine ⟨⟨rfl, ?_, ?_⟩, ?_⟩
  · cases action <;> decide
  · exact resolve_eq_resolved_iff.2 (by cases action <;> decide)
  · cases action <;> decide

/-- A grant of another action is no grant to request provisioning. -/
theorem checkout_not_granted {action : ResourceScopeAction} (h : action ≠ .requestProvision) :
    ¬ (checkoutAuthorizer action).Granted alice .requestProvision checkoutScope := by
  cases action with
  | requestProvision => exact absurd rfl h
  | view => decide
  | approveProvision => decide
  | admin => decide

theorem checkout_not_bound {action : ResourceScopeAction} (h : action ≠ .requestProvision)
    (sha256 : String → HexDigest) :
    ¬ BoundToProvision sha256 (checkoutPreflight action) (checkoutRequest action) := by
  rw [boundToProvision_iff]
  rintro (haction | hpasses)
  · exact h haction
  · have hauth := (hpasses _ _ (checkout_passes action)).1.authorized
    obtain ⟨scope, hscope, -, hgranted⟩ := ResourceScopeAuthorizer.authorize_allowed_iff.1 hauth
    obtain rfl : checkoutScope = scope := Option.some.inj hscope
    exact checkout_not_granted h hgranted

/-! ### What the preflight promises -/

/-- **An outcome stands for the right to provision exactly when the request's action stands for
provisioning, and requests for an action always do exactly when it is that one.** -/
theorem preflight_stands_for_provision_iff (sha256 : String → HexDigest) :
    (∀ (ρ : Type) [ResourceScopeBindingRegistry ρ] (p : ResourceScopeProvisionPreflight ρ)
        (request : ProvisionPreflightRequest),
      BoundToProvision sha256 p request ↔ ActionStandsForProvision p request) ∧
    ∀ action : ResourceScopeAction,
      (∀ (p : ResourceScopeProvisionPreflight InMemoryResourceScopeBindingRegistry)
          (request : ProvisionPreflightRequest), request.authorization.action = action →
        BoundToProvision sha256 p request) ↔ action = .requestProvision := by
  refine ⟨fun ρ _ p request => boundToProvision_iff, fun action => ⟨fun h => ?_, ?_⟩⟩
  · by_contra hne
    exact checkout_not_bound hne sha256 (h (checkoutPreflight action) (checkoutRequest action) rfl)
  · rintro rfl p request haction
    exact boundToProvision_iff.2 (Or.inl haction)

/-- A member who may only view the checkout scope gets a context to provision on. -/
theorem viewer_is_ready_to_provision :
    (∃ context, (checkoutPreflight .view).evaluate checkoutHash (checkoutRequest .view)
        = .ok (.ready context)) ∧
      ¬ (checkoutPreflight .view).authorizer.Granted alice .requestProvision checkoutScope ∧
      ¬ BoundToProvision checkoutHash (checkoutPreflight .view) (checkoutRequest .view) := by
  obtain ⟨hroute, hallowed⟩ := checkout_passes .view
  exact ⟨⟨_, evaluate_eq_ready_iff.2 ⟨_, _, hroute, hallowed, rfl⟩⟩,
    checkout_not_granted (by decide), checkout_not_bound (by decide) checkoutHash⟩

end PlatformOps
