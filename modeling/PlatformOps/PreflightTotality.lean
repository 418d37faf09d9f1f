/-
**The constructors a preflight calls.**

The records of the preflight are validated when they are built: a resolution has a binding exactly
when it is resolved, a context has unique binding ids and the digest of its own contents, a result
has a context exactly when its status says so.  Here the constructors are written with all their
refusals and the pipeline calls them as the source does.  None of the refusals can be reached, from
any records the stores can hold: every stage before a constructor has checked what it asserts.

Main definitions:

* `bindingResolution`, `resolvedBindingVersion`, `resolvedResourceScopeContext`,
  `provisionPreflightResult` — the validating constructors;
* `sealChecked`, `resolveChecked`, `ResourceScopeProvisionPreflight.evaluateChecked` — the pipeline
  that calls them;
* `ContextDump`, `validateContext` — a context given by its fields, and its validation;
* `PreflightStores`, `PreflightStoreOperation`, `PreflightStores.run` — the stores a preflight reads
  and their histories.

Main results:

* `evaluateChecked_eq` — the constructors refuse nothing the pipeline builds;
* `validateContext_dump` — a context validates again from its own fields;
* `fresh_of_evaluate` — the context of a result is fresh for the records it was sealed from;
* `preflight_total` — **from every state the stores can reach a request gets one of the four
  outcomes, and a context that is valid again and fresh**.
-/

import PlatformOps.Preflight
import PlatformOps.PythonText

set_option relaxedAutoImplicit false
set_option autoImplicit false

namespace PlatformOps

open ResourceScopeBindingRegistry

/-- What the preflight can raise: a refusal of the sealing, a field that does not validate, or a
model whose fields do not fit together. -/
inductive PreflightFault
  | valueError (detail : String)
  | fieldError (error : ValidationError)
  | modelError (model detail : String)
  deriving DecidableEq

/-! ### The validating constructors -/

inductive BindingResolutionStatus
  | resolved
  | nonRoutable
  deriving DecidableEq, Repr

/-- A resolution has a binding exactly when it is resolved. -/
def bindingResolution (status : BindingResolutionStatus)
    (binding : Option CloudResourceContainerBinding) : Except PreflightFault BindingResolution :=
  match status, binding with
  | .resolved, some b => .ok (.resolved b)
  | .nonRoutable, none => .ok .nonRoutable
  | _, _ => .error (.modelError "BindingResolution" "resolved status requires exactly one binding")

/-- The selected identity and version of a binding. -/
def resolvedBindingVersion (bindingId : String) (version : ℕ) :
    Except PreflightFault ResolvedBindingVersion :=
  if hid : 10 ≤ bindingId.length then
    if hversion : 1 ≤ version then .ok ⟨bindingId, version, hid, hversion⟩
    else .error (.fieldError ⟨"ResolvedBindingVersion", "version"⟩)
  else .error (.fieldError ⟨"ResolvedBindingVersion", "binding_id"⟩)

theorem resolvedBindingVersion_self (b : ResolvedBindingVersion) :
    resolvedBindingVersion b.bindingId b.version = .ok b := by
  rw [resolvedBindingVersion, dif_pos b.bindingId_length, dif_pos b.version_pos]

/-- The fields of a context that its digest is taken of, before they are validated. -/
structure ContextFields where
  scopeId : String
  canonicalPath : String
  scopeVersion : ℕ
  bindingVersions : List ResolvedBindingVersion
  matchedGrantIds : List String
  matchedGuardrailIds : List String

/-- The texts a digest is taken of. -/
def ContextFields.values (f : ContextFields) : List String :=
  [f.scopeId, f.canonicalPath, toString f.scopeVersion]
    ++ f.bindingVersions.map (fun b => b.bindingId ++ ":" ++ toString b.version)
    ++ f.matchedGrantIds.map (fun grantId => "grant:" ++ grantId)
    ++ f.matchedGuardrailIds.map (fun guardrailId => "guardrail:" ++ guardrailId)

/-- The fields of some contents. -/
def ContextContents.fields (c : ContextContents) : ContextFields where
  scopeId := c.scopeId
  canonicalPath := c.canonicalPath
  scopeVersion := c.scopeVersion
  bindingVersions := c.bindingVersions
  matchedGrantIds := c.matchedGrantIds
  matchedGuardrailIds := c.matchedGuardrailIds

section Constructors

variable (sha256 : String → HexDigest)

/-- The digest of the values of some fields. -/
def digestValues (f : ContextFields) : HexDigest :=
  sha256 ((String.singleton '\x1f').intercalate f.values)

/-- A context: its fields within their bounds, the binding ids unique, and the digest that of the
contents. -/
def resolvedResourceScopeContext (f : ContextFields) (resolutionDigest : String) :
    Except PreflightFault (ResolvedResourceScopeContext sha256) :=
  if hscope : 8 ≤ f.scopeId.length then
    if hpath : 1 ≤ f.canonicalPath.length then
      if hversion : 1 ≤ f.scopeVersion then
        if hbindings : f.bindingVersions ≠ [] then
          if FitsLength 64 64 resolutionDigest then
            if hids : (f.bindingVersions.map (·.bindingId)).Nodup then
              let contents : ContextContents :=
                ⟨f.scopeId, f.canonicalPath, f.scopeVersion, f.bindingVersions, f.matchedGrantIds,
                  f.matchedGuardrailIds, hscope, hpath, hversion, hbindings, hids⟩
              if resolutionDigest ≠ (digestContext sha256 contents).text then
                .error (.modelError "ResolvedResourceScopeContext"
                  "resolved context digest does not match its sealed contents")
              else .ok (contents.context sha256)
            else .error (.modelError "ResolvedResourceScopeContext"
              "resolved binding IDs must be unique")
          else .error (.fieldError ⟨"ResolvedResourceScopeContext", "resolution_digest"⟩)
        else .error (.fieldError ⟨"ResolvedResourceScopeContext", "binding_versions"⟩)
      else .error (.fieldError ⟨"ResolvedResourceScopeContext", "scope_version"⟩)
    else .error (.fieldError ⟨"ResolvedResourceScopeContext", "canonical_path"⟩)
  else .error (.fieldError ⟨"ResolvedResourceScopeContext", "scope_id"⟩)

/-- Seal a routable decision. -/
def sealChecked (scope : ResourceScope) (authorization : ResourceScopeAuthorizationDecision)
    (governance : ResourceScopeGovernanceDecision) (binding : CloudResourceContainerBinding) :
    Except PreflightFault (ResolvedResourceScopeContext sha256) :=
  if !scope.isCompleteAndActive then
    .error (.valueError "only an active complete Resource Scope can be sealed")
  else if !authorization.allowed || (!governance.allowed && !governance.approvalRequired) then
    .error (.valueError
      "only an allowed or approval-required governance decision can be sealed")
  else if binding.scopeId ≠ scope.scopeId || binding.state ≠ .active then
    .error (.valueError
      "only an active binding for the resolved Resource Scope can be sealed")
  else do
    let bindingVersion ← resolvedBindingVersion binding.bindingId binding.version
    let contents : ContextFields :=
      ⟨scope.scopeId, scope.canonicalPath, scope.version, [bindingVersion],
        authorization.matchedBindingIds, governance.matchedPolicyTargets⟩
    resolvedResourceScopeContext sha256 contents (digestValues sha256 contents).text

inductive ProvisionPreflightStatus
  | ready
  | approvalRequired
  | denied
  | nonRoutable
  deriving DecidableEq, Repr

/-- A result has a context exactly when it is ready or awaits an approval. -/
def provisionPreflightResult (status : ProvisionPreflightStatus)
    (resolvedContext : Option (ResolvedResourceScopeContext sha256)) :
    Except PreflightFault (ProvisionPreflightResult sha256) :=
  match status, resolvedContext with
  | .ready, some context => .ok (.ready context)
  | .approvalRequired, some context => .ok (.approvalRequired context)
  | .denied, none => .ok .denied
  | .nonRoutable, none => .ok .nonRoutable
  | _, _ => .error (.modelError "ProvisionPreflightResult"
      "only a ready or approval-required preflight result contains a resolved context")

end Constructors

/-- A governance request names a provider. -/
def resourceScopeGovernanceRequest (scope : ResourceScope) (provider : String)
    (action : ResourceScopeAction) (approvalPresent : Bool) :
    Except PreflightFault ResourceScopeGovernanceRequest :=
  if hprovider : 1 ≤ provider.length then
    .ok ⟨scope, provider, action, approvalPresent, hprovider⟩
  else .error (.fieldError ⟨"ResourceScopeGovernanceRequest", "provider"⟩)

/-! ### The pipeline that calls them -/

section Pipeline

variable {ρ : Type} [ResourceScopeBindingRegistry ρ]

/-- Select the only eligible binding of a scope. -/
def resolveChecked (registry : ρ) (scopeId : String) (profile : ProvisioningBindingProfile) :
    Except PreflightFault BindingResolution :=
  match (activeBindings registry scopeId).filter (·.provider ∈ profile.eligibleProviders) with
  | [b] => bindingResolution .resolved (some b)
  | _ => bindingResolution .nonRoutable none

/-- Take a request through the stages, with every constructor on the way. -/
def ResourceScopeProvisionPreflight.evaluateChecked (sha256 : String → HexDigest)
    (p : ResourceScopeProvisionPreflight ρ) (request : ProvisionPreflightRequest) :
    Except PreflightFault (ProvisionPreflightResult sha256) :=
  match p.authorizer.registry.resolveActive request.authorization.scopeId with
  | none => provisionPreflightResult sha256 .nonRoutable none
  | some scope =>
      let authorization := p.authorizer.authorize request.authorization
      if !authorization.allowed then provisionPreflightResult sha256 .denied none
      else do
        match ← resolveChecked p.bindings scope.scopeId request.profile with
        | .nonRoutable => provisionPreflightResult sha256 .nonRoutable none
        | .resolved binding =>
            let governance := p.governance.evaluate (← resourceScopeGovernanceRequest scope
              binding.provider.value request.authorization.action false)
            if !governance.allowed && !governance.approvalRequired then
              provisionPreflightResult sha256 .denied none
            else
              let resolvedContext ← sealChecked sha256 scope authorization governance binding
              if governance.approvalRequired then
                provisionPreflightResult sha256 .approvalRequired (some resolvedContext)
              else provisionPreflightResult sha256 .ready (some resolvedContext)

end Pipeline

/-! ### No constructor refuses -/

section Unreachable

variable {sha256 : String → HexDigest} {ρ : Type} [ResourceScopeBindingRegistry ρ]

/-- The constructor takes the contents of a context back, with their digest. -/
theorem resolvedResourceScopeContext_fields (c : ContextContents) :
    resolvedResourceScopeContext sha256 c.fields (digestContext sha256 c).text
      = .ok (c.context sha256) := by
  have hdigest : FitsLength 64 64 (digestContext sha256 c).text := by
    rw [FitsLength, (digestContext sha256 c).length_eq]
    exact ⟨le_rfl, le_rfl⟩
  unfold resolvedResourceScopeContext
  rw [dif_pos (show 8 ≤ c.fields.scopeId.length from c.scopeId_length),
    dif_pos (show 1 ≤ c.fields.canonicalPath.length from c.canonicalPath_length),
    dif_pos (show 1 ≤ c.fields.scopeVersion from c.scopeVersion_pos),
    dif_pos (show c.fields.bindingVersions ≠ [] from c.bindingVersions_ne_nil), if_pos hdigest,
    dif_pos (show (c.fields.bindingVersions.map (·.bindingId)).Nodup from c.bindingIds_nodup)]
  exact if_neg (by simp [ContextContents.fields])

/-- The sealing refuses what it refuses before it builds anything. -/
theorem sealChecked_eq (scope : ResourceScope) (authorization : ResourceScopeAuthorizationDecision)
    (governance : ResourceScopeGovernanceDecision) (binding : CloudResourceContainerBinding) :
    sealChecked sha256 scope authorization governance binding
      = (sealContext sha256 scope authorization governance binding).mapError .valueError := by
  have hversion := resolvedBindingVersion_self
    ⟨binding.bindingId, binding.version, binding.bindingId_length, binding.version_pos⟩
  unfold sealChecked sealContext
  split_ifs with hscope hdecision hbinding
  · rfl
  · rfl
  · rfl
  · rw [hversion]
    exact resolvedResourceScopeContext_fields
      (decisionContents scope authorization governance binding)

theorem resolveChecked_eq (registry : ρ) (scopeId : String) (profile : ProvisioningBindingProfile) :
    resolveChecked registry scopeId profile = .ok (resolve registry scopeId profile) := by
  unfold resolveChecked resolve
  generalize (activeBindings registry scopeId).filter (·.provider ∈ profile.eligibleProviders) =
    bindings
  rcases bindings with _ | ⟨b, _ | ⟨b', rest⟩⟩
  · rfl
  · rfl
  · rfl

/-- The provider of a binding is one that governance can be asked about. -/
theorem governanceRequest_eq (scope : ResourceScope) (binding : CloudResourceContainerBinding)
    (action : ResourceScopeAction) :
    resourceScopeGovernanceRequest scope binding.provider.value action false
      = .ok (unapprovedRequest scope binding action) := by
  rw [resourceScopeGovernanceRequest, dif_pos binding.provider.value_length]
  rfl

/-- **The constructors refuse nothing the pipeline builds.** -/
theorem evaluateChecked_eq (p : ResourceScopeProvisionPreflight ρ)
    (request : ProvisionPreflightRequest) :
    p.evaluateChecked sha256 request = (p.evaluate sha256 request).mapError .valueError := by
  unfold ResourceScopeProvisionPreflight.evaluateChecked ResourceScopeProvisionPreflight.evaluate
  cases p.authorizer.registry.resolveActive request.authorization.scopeId with
  | none => rfl
  | some scope =>
      simp only
      by_cases hauth : (!(p.authorizer.authorize request.authorization).allowed) = true
      · rw [if_pos hauth, if_pos hauth]
        rfl
      · rw [if_neg hauth, if_neg hauth, resolveChecked_eq]
        cases resolve p.bindings scope.scopeId request.profile with
        | nonRoutable => rfl
        | resolved binding =>
            simp only [governanceRequest_eq, bind, Except.bind]
            generalize p.governance.evaluate
              (unapprovedRequest scope binding request.authorization.action) = governance
            by_cases hgov : (!governance.allowed && !governance.approvalRequired) = true
            · rw [if_pos hgov, if_pos hgov]
              rfl
            · rw [if_neg hgov, if_neg hgov, sealChecked_eq]
              cases sealContext sha256 scope (p.authorizer.authorize request.authorization)
                governance binding with
              | error message => rfl
              | ok resolvedContext =>
                  cases governance.approvalRequired with
                  | false => rfl
                  | true => rfl

/-- The preflight never raises. -/
theorem evaluateChecked_isOk (p : ResourceScopeProvisionPreflight ρ)
    (request : ProvisionPreflightRequest) :
    ∃ result, p.evaluateChecked sha256 request = .ok result ∧
      p.evaluate sha256 request = .ok result := by
  obtain ⟨result, h⟩ : ∃ result, p.evaluate sha256 request = .ok result := evaluate_isOk p request
  refine ⟨result, ?_, h⟩
  rw [evaluateChecked_eq, h]
  rfl

end Unreachable

/-! ### Contexts given by their fields -/

/-- A context as it is written out: the bindings by their fields, the digest as a text. -/
structure ContextDump where
  scopeId : String
  canonicalPath : String
  scopeVersion : ℕ
  bindingVersions : List (String × ℕ)
  matchedGrantIds : List String
  matchedGuardrailIds : List String
  resolutionDigest : String
  deriving DecidableEq

section Validation

variable {sha256 : String → HexDigest}

/-- The fields of a context. -/
def ResolvedResourceScopeContext.dump (context : ResolvedResourceScopeContext sha256) :
    ContextDump where
  scopeId := context.scopeId
  canonicalPath := context.canonicalPath
  scopeVersion := context.scopeVersion
  bindingVersions := context.bindingVersions.map fun b => (b.bindingId, b.version)
  matchedGrantIds := context.matchedGrantIds
  matchedGuardrailIds := context.matchedGuardrailIds
  resolutionDigest := context.resolutionDigest.text

variable (sha256) in
/-- Validate a context from its fields: first the bindings, then the context of them. -/
def validateContext (d : ContextDump) :
    Except PreflightFault (ResolvedResourceScopeContext sha256) := do
  let bindingVersions ← d.bindingVersions.mapM fun b => resolvedBindingVersion b.1 b.2
  resolvedResourceScopeContext sha256
    ⟨d.scopeId, d.canonicalPath, d.scopeVersion, bindingVersions, d.matchedGrantIds,
      d.matchedGuardrailIds⟩ d.resolutionDigest

theorem mapM_resolvedBindingVersion (l : List ResolvedBindingVersion) :
    (l.map fun b => (b.bindingId, b.version)).mapM (fun b => resolvedBindingVersion b.1 b.2)
      = .ok l := by
  induction l with
  | nil => rfl
  | cons b l ih =>
      rw [List.map_cons, List.mapM_cons, resolvedBindingVersion_self, ih]
      rfl

/-- **A context validates again from its own fields.** -/
theorem validateContext_dump (context : ResolvedResourceScopeContext sha256) :
    validateContext sha256 context.dump = .ok context := by
  have hcontext : context = context.toContextContents.context sha256 :=
    ResolvedResourceScopeContext.toContextContents_injective rfl
  unfold validateContext
  rw [show context.dump.bindingVersions = context.bindingVersions.map fun b =>
    (b.bindingId, b.version) from rfl, mapM_resolvedBindingVersion]
  conv_rhs => rw [hcontext]
  rw [← resolvedResourceScopeContext_fields, ← context.resolutionDigest_eq]
  rfl

end Validation

/-! ### Freshness of what was just sealed -/

section Fresh

variable {sha256 : String → HexDigest} {ρ : Type} [ResourceScopeBindingRegistry ρ]

/-- The context of a result. -/
def ProvisionPreflightResult.resolvedContext :
    ProvisionPreflightResult sha256 → Option (ResolvedResourceScopeContext sha256)
  | ready context => some context
  | approvalRequired context => some context
  | denied => none
  | nonRoutable => none

/-- The context of a result is that of a routable request. -/
theorem exists_routable_of_evaluate {p : ResourceScopeProvisionPreflight ρ}
    {request : ProvisionPreflightRequest} {result : ProvisionPreflightResult sha256}
    {context : ResolvedResourceScopeContext sha256} (h : p.evaluate sha256 request = .ok result)
    (hcontext : result.resolvedContext = some context) :
    ∃ scope binding, Routable p request scope binding ∧
      context = (requestContents p request scope binding).context sha256 := by
  cases result with
  | ready c =>
      cases hcontext
      obtain ⟨scope, binding, hroute, -, hc⟩ := evaluate_eq_ready_iff.1 h
      exact ⟨scope, binding, hroute, hc⟩
  | approvalRequired c =>
      cases hcontext
      obtain ⟨scope, binding, hroute, -, hc⟩ := evaluate_eq_approvalRequired_iff.1 h
      exact ⟨scope, binding, hroute, hc⟩
  | denied => cases hcontext
  | nonRoutable => cases hcontext

/-- **The context of a result is fresh for the records it was sealed from.** -/
theorem fresh_of_evaluate {p : ResourceScopeProvisionPreflight ρ}
    {request : ProvisionPreflightRequest} {result : ProvisionPreflightResult sha256}
    {context : ResolvedResourceScopeContext sha256} (h : p.evaluate sha256 request = .ok result)
    (hcontext : result.resolvedContext = some context) :
    requiresFreshResolution context
        (p.authorizer.registry.resolveActive request.authorization.scopeId)
        (currentBindings p.bindings
          (p.authorizer.registry.resolveActive request.authorization.scopeId)) = false := by
  obtain ⟨scope, binding, hroute, rfl⟩ := exists_routable_of_evaluate h hcontext
  obtain ⟨-, hactive⟩ := p.authorizer.registry.resolveActive_spec _ _ hroute.scope_active
  have hbinding := mem_activeBindings_of_resolve hroute.selected
  obtain ⟨htable, hscope, hstate⟩ := mem_activeBindings.1 hbinding
  refine requiresFreshResolution_eq_false_iff.2
    ⟨scope, hroute.scope_active, hactive, rfl, rfl, rfl, fun snapshot hsnapshot => ?_⟩
  obtain rfl := List.mem_singleton.1 hsnapshot
  rw [hroute.scope_active]
  -- the active bindings of a scope have different identifiers
  refine currentVersion_eq_some hbinding hscope hstate fun c hc hid _ _ => ?_
  have hc' := (mem_activeBindings.1 hc).1
  rw [hid, htable] at hc'
  rw [Option.some.inj hc']

end Fresh

/-! ### Reachable stores -/

/-- The stores a preflight reads. -/
structure PreflightStores where
  scopes : InMemoryReviewedResourceScopeRegistry
  roleBindings : InMemoryResourceScopeRoleBindingStore
  containerBindings : InMemoryResourceScopeBindingRegistry

/-- A call that changes a store. -/
inductive PreflightStoreOperation
  | registerScope (scope : ResourceScope)
  | replaceRoleBinding (binding : ResourceScopeRoleBinding)
  | containerBinding (op : BindingOperation)

namespace PreflightStores

/-- No scopes and no container bindings; the role bindings the store was built with. -/
def initial (roleBindings : List ResourceScopeRoleBinding) : PreflightStores where
  scopes := .empty
  roleBindings := .ofBindings roleBindings
  containerBindings := ⟨.empty⟩

/-- The stores after a call; a refused call leaves them as they were. -/
def step (s : PreflightStores) : PreflightStoreOperation → PreflightStores
  | .registerScope scope =>
      match s.scopes.registerReviewed scope with
      | .ok scopes => { s with scopes := scopes }
      | .error _ => s
  | .replaceRoleBinding binding => { s with roleBindings := s.roleBindings.replace binding }
  | .containerBinding op =>
      { s with containerBindings := ResourceScopeBindingRegistry.step s.containerBindings op }

/-- The stores after a history of calls. -/
def run (s : PreflightStores) (ops : List PreflightStoreOperation) : PreflightStores :=
  ops.foldl step s

/-- The preflight over the stores, some membership lookups and a list of policies. -/
def preflight (s : PreflightStores) (hasMembership : String → String → Bool)
    (principalAffiliations : Option (PrincipalReference → String → Bool))
    (identityGroups : Option (PrincipalReference → List String))
    (policies : List ResourceScopeGovernancePolicy) :
    ResourceScopeProvisionPreflight InMemoryResourceScopeBindingRegistry where
  authorizer :=
    { registry := s.scopes.toRegistry
      bindings := s.roleBindings.toStore
      hasMembership := hasMembership
      principalAffiliations := principalAffiliations
      identityGroups := identityGroups }
  bindings := s.containerBindings
  governance := inMemoryPolicyStore policies

end PreflightStores

/-- **From every state the stores can reach, a request gets one of the four outcomes.**  A context
among them validates again from its fields, and is fresh for the same scope and bindings. -/
theorem preflight_total (sha256 : String → HexDigest) (hasMembership : String → String → Bool)
    (principalAffiliations : Option (PrincipalReference → String → Bool))
    (identityGroups : Option (PrincipalReference → List String))
    (policies : List ResourceScopeGovernancePolicy)
    (roleBindings : List ResourceScopeRoleBinding) (ops : List PreflightStoreOperation)
    (request : ProvisionPreflightRequest) :
    let stores := (PreflightStores.initial roleBindings).run ops
    let p := stores.preflight hasMembership principalAffiliations identityGroups policies
    let scope := stores.scopes.resolveActive request.authorization.scopeId
    ∃ result, p.evaluateChecked sha256 request = .ok result ∧
      ∀ context ∈ result.resolvedContext,
        validateContext sha256 context.dump = .ok context ∧
        requiresFreshResolution context scope
          (currentBindings stores.containerBindings scope) = false := by
  intro stores p scope
  obtain ⟨result, hchecked, hresult⟩ : ∃ result, p.evaluateChecked sha256 request = .ok result ∧
      p.evaluate sha256 request = .ok result := evaluateChecked_isOk p request
  exact ⟨result, hchecked, fun context hcontext =>
    ⟨validateContext_dump context, fresh_of_evaluate hresult hcontext⟩⟩

/-- The calls that bring the checkout scope, its binding and the grant of Alice into the stores. -/
def checkoutCalls : List PreflightStoreOperation :=
  [.registerScope checkoutScope, .replaceRoleBinding (aliceGrant .requestProvision),
    .containerBinding (.registerReviewed checkoutBinding)]

example :
    (((PreflightStores.initial []).run checkoutCalls).preflight (fun _ _ => true) none none
        []).evaluateChecked (fun _ => emptyDigest) (checkoutRequest .requestProvision)
      = .ok (.ready ((decisionContents checkoutScope ⟨true, ["scopebind_alice"]⟩ ⟨true, false, []⟩
          checkoutBinding).context fun _ => emptyDigest)) := by
  rfl

end PlatformOps
