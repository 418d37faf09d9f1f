/-
**Who approves what they asked for.**

Four flows end with an approval: the review of a provision plan, the attachment of a container, the
creation of a container, and the review of an organization.  The first three compare the approver
with the requester.  The onboarding of organizations does not: neither the service that records the
approval, nor the one that activates the organization, nor the graph of the reviewer looks at the
applicant.

Main definitions:

* `ApprovalRecord`, `ApprovalRecord.SelfApproved` — the records of approvals, and those by the party
  that asked;
* `ApprovalSystem`, `ApprovalCall`, `ApprovalSystem.run` — the flows, and a run of calls;
* `ApprovalCall.Separated` — the call is none by which an onboarding is approved by its applicant.

Main results:

* `fourEyes_approve_iff`, `fourEyes_activate_iff`, `fourEyes_review_iff` — the onboarding;
* `fourEyes_call_iff` — one call keeps four eyes exactly if it is separated;
* `four_eyes_run_iff` — **a run keeps four eyes exactly if each of its calls is separated**.
-/

import PlatformOps.ApprovalGraph
import PlatformOps.OnboardingStores
import PlatformOps.ProviderConnections

set_option relaxedAutoImplicit false
set_option autoImplicit false

namespace PlatformOps

open ProviderConnections

/-! ### Records of approvals -/

/-- A record of an approval, with the party whose request it is about. -/
inductive ApprovalRecord
  | receipt (requester : PrincipalReference) (approval : ProvisionApprovalDigest)
  | attachment (request : ContainerAttachmentRequest)
  | bootstrap (request : ProviderContainerBootstrapRequest)
  | onboarding (request : OrganizationOnboardingRequest) (approval : OrganizationOnboardingApproval)
  | organization (activated : ActiveOrganization)
  deriving DecidableEq

/-- The approver is the party that asked. -/
def ApprovalRecord.SelfApproved : ApprovalRecord → Prop
  | .receipt requester approval => approval.approvedBy = requester
  | .attachment request => request.reviewedBy = some request.requestedBy
  | .bootstrap request => request.approvedBy = some request.requestedBy
  | .onboarding request approval => approval.approvedBy = request.applicant
  | .organization activated => activated.approval.approvedBy = activated.initialTenantAdmin

instance : DecidablePred ApprovalRecord.SelfApproved := fun record => by
  cases record <;> exact inferInstanceAs (Decidable (_ = _))

/-- Nobody approved what they asked for. -/
def FourEyes (records : List ApprovalRecord) : Prop := ∀ record ∈ records, ¬ record.SelfApproved

instance : DecidablePred FourEyes := fun records =>
  inferInstanceAs (Decidable (∀ record ∈ records, ¬ record.SelfApproved))

theorem fourEyes_append {earlier later : List ApprovalRecord} :
    FourEyes (earlier ++ later) ↔ FourEyes earlier ∧ FourEyes later :=
  List.forall_mem_append

/-- The record of a result. -/
def recordOf {ε α : Type} (record : α → ApprovalRecord) : Except ε α → List ApprovalRecord
  | .ok a => [record a]
  | .error _ => []

theorem fourEyes_recordOf {ε α : Type} {record : α → ApprovalRecord} {result : Except ε α} :
    FourEyes (recordOf record result) ↔ ∀ a, result = .ok a → ¬ (record a).SelfApproved := by
  cases result with
  | error e => simp [recordOf, FourEyes]
  | ok a => simp [recordOf, FourEyes]

/-! ### Calls -/

/-- The part of a review that ends with the recorded approval. -/
def recordApproval {lower : String → String} (deployment : OnboardingDeployment)
    (instants : OnboardingInstants) (invocation : CommandInvocation) :
    PlatformAction lower (OrganizationOnboardingRequest × OrganizationOnboardingApproval) :=
  withPrincipal invocation "validated reviewer principal is required" fun principal => do
    let command ← validated (reviewOnboardingCommand invocation.payload)
    let reviewer ← validated principal.applicant
    let loaded ← load deployment command.id
    authorize deployment reviewer command.id
    let approval ← approveOnboarding deployment loaded.1 reviewer instants.approvedAt
    pure (loaded.1, approval)

/-- The records in the final state of the graph of an applicant. -/
def OrganizationOnboardingState.records (state : OrganizationOnboardingState) :
    List ApprovalRecord :=
  (match state.request, state.approval with
    | some request, some approval => [.onboarding request approval]
    | _, _ => []) ++ state.organization.toList.map .organization

/-- The tables, and the records of approvals that there are. -/
structure ApprovalSystem (lower : String → String) where
  database : PlatformDatabase lower
  records : List ApprovalRecord

/-- A call of one of the flows. -/
inductive ApprovalCall (deployment : OnboardingDeployment)
  | resumePlan (authorizer : ResourceScopeAuthorizer)
      (plan : SealedProvisionPlan deployment.sha256) (requester : PrincipalReference)
      (reviewer : Option PrincipalReference) (resume : Json)
  | requestAttachment (authorizer : ProviderContainerAttachmentAuthorizer)
      (generated : GeneratedHex) (actorId : String) (connection : ProviderConnection)
      (resourceScopeId : String) (candidate : ProviderContainerCandidate)
  | approveAttachment (authorizer : ProviderContainerAttachmentAuthorizer)
      (generated : GeneratedHex) (actorId : String) (connection : ProviderConnection)
      (request : ContainerAttachmentRequest)
  | requestBootstrap (authorizer : ProviderContainerBootstrapAuthorizer)
      (allowsContainerBootstrap : ProviderConnection → Bool) (generated : GeneratedHex)
      (actorId : String) (connection : ProviderConnection) (displayName : String)
  | approveBootstrap (authorizer : ProviderContainerBootstrapAuthorizer) (actorId : String)
      (connection : ProviderConnection) (request : ProviderContainerBootstrapRequest)
  | createContainer (adapters : CloudProvider → Option ProviderContainerBootstrapAdapter)
      (connection : ProviderConnection) (request : ProviderContainerBootstrapRequest)
  | start (applicant : AuthenticatedApplicant) (onboarding : OrganizationOnboardingStart)
      (generated : GeneratedRequest) (createdAt : ℕ)
  | recordProof (request : OrganizationOnboardingRequest)
      (proof : IdentityBoundaryVerificationEvidence)
  | onboard (generated : GeneratedRequest) (instants : OnboardingInstants)
      (invocation : CommandInvocation)
  | approve (request : OrganizationOnboardingRequest) (approver : AuthenticatedApplicant)
      (approvedAt : ℕ)
  | activate (request : OrganizationOnboardingRequest)
      (identityProof : Option IdentityBoundaryVerificationEvidence)
      (approval : Option OrganizationOnboardingApproval) (activatedAt : ℕ)
  | review (instants : OnboardingInstants) (invocation : CommandInvocation)

variable {lower : String → String} {deployment : OnboardingDeployment}

/-- What a call records, and the tables after it.  A container is created for a request that a
service returned before. -/
def ApprovalCall.outcome (s : ApprovalSystem lower) :
    ApprovalCall deployment → List ApprovalRecord × PlatformDatabase lower
  | resumePlan authorizer plan requester reviewer resume =>
      ((resumeGraph authorizer (initialApprovalState plan requester reviewer)
        resume).approval.toList.map (.receipt requester), s.database)
  | requestAttachment authorizer generated actorId connection resourceScopeId candidate =>
      (recordOf .attachment (ProviderConnections.requestAttachment authorizer generated actorId
        connection resourceScopeId candidate), s.database)
  | approveAttachment authorizer generated actorId connection request =>
      (recordOf (fun result => .attachment result.1)
        (ProviderConnections.approveAttachment authorizer generated actorId connection request),
        s.database)
  | requestBootstrap authorizer allowsContainerBootstrap generated actorId connection displayName =>
      (recordOf .bootstrap (ProviderConnections.requestBootstrap authorizer allowsContainerBootstrap
        generated actorId connection displayName), s.database)
  | approveBootstrap authorizer actorId connection request =>
      (recordOf .bootstrap (ProviderConnections.approveBootstrap authorizer actorId connection
        request), s.database)
  | createContainer adapters connection request =>
      (if .bootstrap request ∈ s.records then
        recordOf .bootstrap (ProviderConnections.createContainer adapters connection request)
      else [], s.database)
  | start applicant onboarding generated createdAt =>
      ([], (startOnboarding applicant onboarding generated createdAt s.database).2)
  | recordProof request proof => ([], (recordIdentityProof request proof s.database).2)
  | onboard generated instants invocation =>
      let ended := onboardOrganizationHandler deployment generated instants invocation s.database
      (match ended.1 with
        | .ok state => state.records
        | .error _ => [], ended.2)
  | approve request approver approvedAt =>
      let ended := approveOnboarding deployment request approver approvedAt s.database
      (recordOf (.onboarding request) ended.1, ended.2)
  | activate request identityProof approval activatedAt =>
      let ended :=
        activateOnboarding deployment request identityProof approval activatedAt s.database
      (recordOf .organization ended.1, ended.2)
  | review instants invocation =>
      let ended := reviewOnboardingHandler deployment instants invocation s.database
      (recordOf (fun recorded => .onboarding recorded.1 recorded.2)
          (recordApproval deployment instants invocation s.database).1 ++
        match ended.1 with
        | .ok state => state.organization.toList.map .organization
        | .error _ => [], ended.2)

/-- The system after a call. -/
def ApprovalSystem.call (s : ApprovalSystem lower) (call : ApprovalCall deployment) :
    ApprovalSystem lower :=
  ⟨(call.outcome s).2, s.records ++ (call.outcome s).1⟩

/-- The system after some calls. -/
def ApprovalSystem.run (s : ApprovalSystem lower) (calls : List (ApprovalCall deployment)) :
    ApprovalSystem lower :=
  calls.foldl .call s

/-- **By this call nobody approves their own onboarding**: the approver of a pending request, the
approver of an organization that can be activated, and the reviewer of a request that is ready is
not its applicant. -/
def ApprovalCall.Separated (s : ApprovalSystem lower) : ApprovalCall deployment → Prop
  | approve request approver _ => request.state = .pending → approver ≠ request.applicant
  | activate request identityProof approval activatedAt =>
      ∀ proof recorded row stored,
        Presents deployment.sha256 request identityProof approval proof recorded →
        s.database.CanActivate deployment.case deployment.sha256
          (request.activated proof recorded activatedAt) row stored →
        recorded.approvedBy ≠ request.applicant
  | review _ invocation =>
      ∀ requestId reviewer row request proof, invocation.AsksFor requestId reviewer →
        Sendable requestId → s.database.Ready deployment.case requestId row request proof →
        deployment.mayReviewOnboarding reviewer requestId = true → reviewer ≠ request.applicant
  | _ => True

/-- Each of the calls is separated in the state in which it is made. -/
def SeparatedAlong : ApprovalSystem lower → List (ApprovalCall deployment) → Prop
  | _, [] => True
  | s, call :: calls => call.Separated s ∧ SeparatedAlong (s.call call) calls

/-! ### What the calls record -/

section
variable {s : ApprovalSystem lower}

/-- A receipt is by another than the requester. -/
theorem fourEyes_resumePlan {authorizer : ResourceScopeAuthorizer}
    {plan : SealedProvisionPlan deployment.sha256} {requester : PrincipalReference}
    {reviewer : Option PrincipalReference} {resume : Json} :
    FourEyes ((ApprovalCall.resumePlan authorizer plan requester reviewer resume).outcome s).1 := by
  intro record hmem
  obtain ⟨receipt, hreceipt, rfl⟩ := List.mem_map.1 hmem
  obtain ⟨⟨-, r, hr, hother, -⟩, r', hr', rfl⟩ :=
    resumeGraph_approval_eq_some_iff.1 (Option.mem_toList.1 hreceipt)
  rw [hr] at hr'
  cases hr'
  exact hother

/-- A requested attachment is not approved. -/
theorem fourEyes_requestAttachment {authorizer : ProviderContainerAttachmentAuthorizer}
    {generated : GeneratedHex} {actorId : String} {connection : ProviderConnection}
    {resourceScopeId : String} {candidate : ProviderContainerCandidate} :
    FourEyes ((ApprovalCall.requestAttachment authorizer generated actorId connection
      resourceScopeId candidate : ApprovalCall deployment).outcome s).1 := by
  refine fourEyes_recordOf.2 fun request h hself => ?_
  have hnone := reviewedBy_of_requestAttachment h
  rw [ApprovalRecord.SelfApproved, hnone] at hself
  cases hself

/-- An approved attachment is approved by another than the requester. -/
theorem fourEyes_approveAttachment {authorizer : ProviderContainerAttachmentAuthorizer}
    {generated : GeneratedHex} {actorId : String} {connection : ProviderConnection}
    {request : ContainerAttachmentRequest} :
    FourEyes ((ApprovalCall.approveAttachment authorizer generated actorId connection request :
      ApprovalCall deployment).outcome s).1 := by
  refine fourEyes_recordOf.2 fun result h hself => ?_
  obtain ⟨-, -, -, hother, -, -, rfl⟩ := approveAttachment_eq_ok_iff.1 h
  exact hother (Option.some.inj hself)

/-- A requested container is not approved. -/
theorem fourEyes_requestBootstrap {authorizer : ProviderContainerBootstrapAuthorizer}
    {allowsContainerBootstrap : ProviderConnection → Bool} {generated : GeneratedHex}
    {actorId : String} {connection : ProviderConnection} {displayName : String} :
    FourEyes ((ApprovalCall.requestBootstrap authorizer allowsContainerBootstrap generated actorId
      connection displayName : ApprovalCall deployment).outcome s).1 := by
  refine fourEyes_recordOf.2 fun request h hself => ?_
  have hnone := approvedBy_of_requestBootstrap h
  rw [ApprovalRecord.SelfApproved, hnone] at hself
  cases hself

/-- An approved container is approved by another than the requester. -/
theorem fourEyes_approveBootstrap {authorizer : ProviderContainerBootstrapAuthorizer}
    {actorId : String} {connection : ProviderConnection}
    {request : ProviderContainerBootstrapRequest} :
    FourEyes ((ApprovalCall.approveBootstrap authorizer actorId connection request :
      ApprovalCall deployment).outcome s).1 := by
  refine fourEyes_recordOf.2 fun approved h hself => ?_
  obtain ⟨-, -, -, hother, -, rfl⟩ := approveBootstrap_eq_ok_iff.1 h
  exact hother (Option.some.inj hself)

/-- A container is created for a request with the same parties, which is on record. -/
theorem fourEyes_createContainer
    {adapters : CloudProvider → Option ProviderContainerBootstrapAdapter}
    {connection : ProviderConnection} {request : ProviderContainerBootstrapRequest}
    (h : FourEyes s.records) :
    FourEyes ((ApprovalCall.createContainer adapters connection request :
      ApprovalCall deployment).outcome s).1 := by
  have hrecords : ((ApprovalCall.createContainer adapters connection request :
      ApprovalCall deployment).outcome s).1 =
      if .bootstrap request ∈ s.records then
        recordOf .bootstrap (ProviderConnections.createContainer adapters connection request)
      else [] := rfl
  rw [hrecords]
  split_ifs with hmem
  · refine fourEyes_recordOf.2 fun created hcreated hself => ?_
    obtain ⟨hrequested, happroved⟩ := createContainer_parties hcreated
    refine h _ hmem ?_
    rw [ApprovalRecord.SelfApproved, hrequested, happroved] at hself
    exact hself
  · exact fun record hrecord => absurd hrecord List.not_mem_nil

/-- The graph of an applicant that has no reviewer ends without an approval. -/
theorem records_of_organizationOnboardingGraph {generated : GeneratedRequest}
    {instants : OnboardingInstants} {applicant : AuthenticatedApplicant}
    {onboarding : OrganizationOnboardingStart} {state : OrganizationOnboardingState}
    {d d' : PlatformDatabase lower}
    (h : organizationOnboardingGraph deployment generated instants applicant onboarding none d =
      (.ok state, d')) : state.records = [] := by
  unfold organizationOnboardingGraph at h
  obtain ⟨request, d₁, -, h⟩ := Action.bind_eq_ok_iff.1 h
  obtain ⟨identityProof, d₂, -, h⟩ := Action.bind_eq_ok_iff.1 h
  cases identityProof with
  | none =>
      cases h
      rfl
  | some proof =>
      obtain ⟨-, d₃, -, h⟩ := Action.bind_eq_ok_iff.1 h
      cases h
      rfl

theorem fourEyes_onboard {generated : GeneratedRequest} {instants : OnboardingInstants}
    {invocation : CommandInvocation} :
    FourEyes ((ApprovalCall.onboard generated instants invocation :
      ApprovalCall deployment).outcome s).1 := by
  suffices hnone : ∀ state d', onboardOrganizationHandler deployment generated instants invocation
      s.database = (.ok state, d') → state.records = [] by
    unfold ApprovalCall.outcome
    dsimp only
    rcases hended : onboardOrganizationHandler deployment generated instants invocation s.database
      with ⟨result, d'⟩
    cases result with
    | error fault => exact fun record hrecord => absurd hrecord List.not_mem_nil
    | ok state =>
        dsimp only
        rw [hnone state d' hended]
        exact fun record hrecord => absurd hrecord List.not_mem_nil
  intro state d' h
  unfold onboardOrganizationHandler withPrincipal at h
  cases hprincipal : invocation.principal with
  | none =>
      rw [hprincipal] at h
      cases h
  | some principal =>
      rw [hprincipal] at h
      obtain ⟨applicant, -, h⟩ := validated_bind_eq_ok_iff.1 h
      obtain ⟨onboarding, -, h⟩ := validated_bind_eq_ok_iff.1 h
      exact records_of_organizationOnboardingGraph h

/-- **An approval is recorded for every pending request**, whoever approves it. -/
theorem fourEyes_approve_iff {request : OrganizationOnboardingRequest}
    {approver : AuthenticatedApplicant} {approvedAt : ℕ} :
    FourEyes ((ApprovalCall.approve request approver approvedAt :
        ApprovalCall deployment).outcome s).1 ↔
      (ApprovalCall.approve request approver approvedAt : ApprovalCall deployment).Separated s := by
  refine fourEyes_recordOf.trans ?_
  constructor
  · intro h hpending
    refine h (request.approval deployment.sha256 approver approvedAt) ?_
    have hrun : approveOnboarding deployment request approver approvedAt s.database =
        (.ok _, s.database) := approveOnboarding_eq_ok_iff.2 ⟨hpending, rfl, rfl⟩
    exact congrArg Prod.fst hrun
  · intro h approval happroved
    obtain ⟨hpending, rfl, -⟩ := approveOnboarding_eq_ok_iff.1 (Prod.ext happroved rfl)
    exact h hpending

/-- **An organization is activated on every recorded approval of its request**, whoever approved
it. -/
theorem fourEyes_activate_iff {request : OrganizationOnboardingRequest}
    {identityProof : Option IdentityBoundaryVerificationEvidence}
    {approval : Option OrganizationOnboardingApproval} {activatedAt : ℕ} :
    FourEyes ((ApprovalCall.activate request identityProof approval activatedAt :
        ApprovalCall deployment).outcome s).1 ↔
      (ApprovalCall.activate request identityProof approval activatedAt :
        ApprovalCall deployment).Separated s := by
  refine fourEyes_recordOf.trans ?_
  constructor
  · intro h proof recorded row stored hpresents hcan
    refine h (request.activated proof recorded activatedAt) ?_
    have hrun : activateOnboarding deployment request identityProof approval activatedAt
        s.database = (.ok _, _) :=
      activateOnboarding_eq_ok_iff.2 ⟨proof, recorded, hpresents, rfl,
        activateOrganization_eq_ok_iff.2 ⟨row, stored, hcan, rfl⟩⟩
    exact congrArg Prod.fst hrun
  · intro h organization hactivated
    obtain ⟨proof, recorded, hpresents, rfl, hrun⟩ :=
      activateOnboarding_eq_ok_iff.1 (Prod.ext hactivated rfl)
    obtain ⟨row, stored, hcan, -⟩ := activateOrganization_eq_ok_iff.1 hrun
    exact h proof recorded row stored hpresents hcan

/-- A handler of a review ends well exactly if the invocation asks for a review that does. -/
theorem withPrincipal_reviewer_eq_ok_iff {α : Type} {invocation : CommandInvocation}
    {detail : String} (handle : String → AuthenticatedApplicant → PlatformAction lower α) {a : α}
    {d d' : PlatformDatabase lower} :
    withPrincipal invocation detail (fun principal => do
        let command ← validated (reviewOnboardingCommand invocation.payload)
        let reviewer ← validated principal.applicant
        handle command.id reviewer) d = (.ok a, d') ↔
      ∃ requestId reviewer, invocation.AsksFor requestId reviewer ∧
        handle requestId reviewer d = (.ok a, d') := by
  unfold withPrincipal
  constructor
  · intro h
    cases hprincipal : invocation.principal with
    | none =>
        rw [hprincipal] at h
        cases h
    | some principal =>
        rw [hprincipal] at h
        obtain ⟨command, hcommand, h⟩ := validated_bind_eq_ok_iff.1 h
        obtain ⟨reviewer, hreviewer, h⟩ := validated_bind_eq_ok_iff.1 h
        exact ⟨command.id, reviewer, ⟨principal, command, hprincipal, hcommand, hreviewer, rfl⟩, h⟩
  · rintro ⟨requestId, reviewer, ⟨principal, command, hprincipal, hcommand, hreviewer, rfl⟩, h⟩
    rw [hprincipal]
    refine validated_bind_eq_ok_iff.2 ⟨command, hcommand, ?_⟩
    exact validated_bind_eq_ok_iff.2 ⟨reviewer, hreviewer, h⟩

/-- The graph of a reviewer goes on from the recorded approval exactly if the request is ready and
the reviewer may review it. -/
theorem reviewed_bind_eq_ok_iff {α : Type} {requestId : String}
    {reviewer : AuthenticatedApplicant} {approvedAt : ℕ}
    {next : OrganizationOnboardingRequest × IdentityBoundaryVerificationEvidence →
      OrganizationOnboardingApproval → PlatformAction lower α}
    {a : α} {d d' : PlatformDatabase lower} :
    (do let loaded ← load deployment requestId
        authorize deployment reviewer requestId
        let approval ← approveOnboarding deployment loaded.1 reviewer approvedAt
        next loaded approval : PlatformAction lower α) d = (.ok a, d') ↔
      ∃ row request proof, Sendable requestId ∧ d.Ready deployment.case requestId row request proof ∧
        deployment.mayReviewOnboarding reviewer requestId = true ∧ request.state = .pending ∧
        next (request, proof) (request.approval deployment.sha256 reviewer approvedAt) d =
          (.ok a, d') := by
  constructor
  · intro h
    obtain ⟨⟨request, proof⟩, d₁, hload, hreviewed⟩ := Action.bind_eq_ok_iff.1 h
    obtain ⟨hsend, ⟨row, hready⟩, rfl⟩ := load_eq_ok_iff.1 hload
    obtain ⟨⟨⟩, d₂, hauthorize, happroved⟩ := Action.bind_eq_ok_iff.1 hreviewed
    obtain ⟨hallowed, rfl⟩ := authorize_eq_ok_iff.1 hauthorize
    obtain ⟨recorded, d₃, happrove, hnext⟩ := Action.bind_eq_ok_iff.1 happroved
    obtain ⟨hpending, rfl, rfl⟩ := approveOnboarding_eq_ok_iff.1 happrove
    exact ⟨row, request, proof, hsend, hready, hallowed, hpending, hnext⟩
  · rintro ⟨row, request, proof, hsend, hready, hallowed, hpending, hnext⟩
    refine Action.bind_eq_ok_iff.2 ⟨(request, proof), d, load_of_ready hsend hready, ?_⟩
    refine Action.bind_eq_ok_iff.2 ⟨(), d, authorize_eq_ok_iff.2 ⟨hallowed, rfl⟩, ?_⟩
    exact Action.bind_eq_ok_iff.2 ⟨_, d, approveOnboarding_eq_ok_iff.2 ⟨hpending, rfl, rfl⟩, hnext⟩

/-- **What a review records**: an approval by its reviewer, of a request that is ready. -/
theorem recordApproval_eq_ok_iff {instants : OnboardingInstants} {invocation : CommandInvocation}
    {request : OrganizationOnboardingRequest} {approval : OrganizationOnboardingApproval}
    {d d' : PlatformDatabase lower} :
    recordApproval deployment instants invocation d = (.ok (request, approval), d') ↔
      ∃ requestId reviewer row proof, invocation.AsksFor requestId reviewer ∧ Sendable requestId ∧
        d.Ready deployment.case requestId row request proof ∧
        deployment.mayReviewOnboarding reviewer requestId = true ∧ request.state = .pending ∧
        approval = request.approval deployment.sha256 reviewer instants.approvedAt ∧ d' = d := by
  refine (withPrincipal_reviewer_eq_ok_iff fun requestId reviewer => do
    let loaded ← load deployment requestId
    authorize deployment reviewer requestId
    let approval ← approveOnboarding deployment loaded.1 reviewer instants.approvedAt
    pure (loaded.1, approval)).trans ?_
  constructor
  · rintro ⟨requestId, reviewer, hasks, h⟩
    obtain ⟨row, request', proof, hsend, hready, hallowed, hpending, hend⟩ :=
      reviewed_bind_eq_ok_iff.1 h
    cases hend
    exact ⟨requestId, reviewer, row, proof, hasks, hsend, hready, hallowed, hpending, rfl, rfl⟩
  · rintro ⟨requestId, reviewer, row, proof, hasks, hsend, hready, hallowed, hpending, rfl, rfl⟩
    refine ⟨requestId, reviewer, hasks, reviewed_bind_eq_ok_iff.2 ?_⟩
    exact ⟨row, request, proof, hsend, hready, hallowed, hpending, rfl⟩

/-- A review that succeeds activates the organization of the request whose approval it has
recorded. -/
theorem recordApproval_of_reviewed {instants : OnboardingInstants} {invocation : CommandInvocation}
    {state : ReviewState} {d d' : PlatformDatabase lower}
    (h : reviewOnboardingHandler deployment instants invocation d = (.ok state, d')) :
    ∃ request approval organization,
      recordApproval deployment instants invocation d = (.ok (request, approval), d) ∧
        state.organization = some organization ∧ organization.approval = approval ∧
        organization.initialTenantAdmin = request.applicant := by
  obtain ⟨requestId, reviewer, hasks, h⟩ := (withPrincipal_reviewer_eq_ok_iff
    (organizationOnboardingReviewGraph deployment instants)).1 h
  obtain ⟨row, request, proof, hsend, hready, hallowed, hpending, h⟩ := reviewed_bind_eq_ok_iff.1 h
  obtain ⟨organization, d₁, hactivate, hend⟩ := Action.bind_eq_ok_iff.1 h
  obtain ⟨proof', recorded, hpresents, rfl, -⟩ := activateOnboarding_eq_ok_iff.1 hactivate
  cases hend
  cases hpresents.approval_eq
  refine ⟨request, _, _, recordApproval_eq_ok_iff.2 ?_, rfl, rfl, rfl⟩
  exact ⟨requestId, reviewer, row, proof, hasks, hsend, hready, hallowed, hpending, rfl, rfl⟩

/-- **A review records the approval of every request that is ready**, whoever reviews it. -/
theorem fourEyes_review_iff {instants : OnboardingInstants} {invocation : CommandInvocation} :
    FourEyes ((ApprovalCall.review instants invocation : ApprovalCall deployment).outcome s).1 ↔
      (ApprovalCall.review instants invocation : ApprovalCall deployment).Separated s := by
  refine fourEyes_append.trans ?_
  constructor
  · rintro ⟨h, -⟩ requestId reviewer row request proof hasks hsend hready hallowed
    have hpending : request.state = .pending := (fields_of_readRequest hready.request_eq).2.2.2.2
    have hrun : recordApproval deployment instants invocation s.database = (.ok _, s.database) :=
      recordApproval_eq_ok_iff.2 ⟨requestId, reviewer, row, proof, hasks, hsend, hready, hallowed,
        hpending, rfl, rfl⟩
    exact fourEyes_recordOf.1 h _ (congrArg Prod.fst hrun)
  · intro h
    have happroval : ∀ request approval, recordApproval deployment instants invocation s.database =
        (.ok (request, approval), s.database) → approval.approvedBy ≠ request.applicant := by
      intro request approval hrun
      obtain ⟨requestId, reviewer, row, proof, hasks, hsend, hready, hallowed, -, rfl, -⟩ :=
        recordApproval_eq_ok_iff.1 hrun
      exact h requestId reviewer row request proof hasks hsend hready hallowed
    constructor
    · refine fourEyes_recordOf.2 ?_
      rintro ⟨request, approval⟩ hrecorded
      obtain ⟨-, -, -, -, -, -, -, -, -, -, hsame⟩ :=
        recordApproval_eq_ok_iff.1 (Prod.ext hrecorded rfl)
      exact happroval request approval (Prod.ext hrecorded hsame)
    · rcases hended : reviewOnboardingHandler deployment instants invocation s.database
        with ⟨result, d'⟩
      cases result with
      | error fault => exact fun record hrecord => absurd hrecord List.not_mem_nil
      | ok state =>
          obtain ⟨request, approval, organization, hrun, horganization, rfl, hadmin⟩ :=
            recordApproval_of_reviewed hended
          dsimp only
          rw [horganization]
          intro record hrecord
          obtain rfl := List.mem_singleton.1 hrecord
          rw [ApprovalRecord.SelfApproved, hadmin]
          exact happroval request _ hrun

/-! ### Runs -/

/-- **One call keeps four eyes exactly if it is separated.** -/
theorem fourEyes_call_iff (call : ApprovalCall deployment) :
    FourEyes (s.call call).records ↔ FourEyes s.records ∧ call.Separated s := by
  refine fourEyes_append.trans (and_congr_right fun h => ?_)
  cases call with
  | resumePlan => exact iff_of_true fourEyes_resumePlan trivial
  | requestAttachment => exact iff_of_true fourEyes_requestAttachment trivial
  | approveAttachment => exact iff_of_true fourEyes_approveAttachment trivial
  | requestBootstrap => exact iff_of_true fourEyes_requestBootstrap trivial
  | approveBootstrap => exact iff_of_true fourEyes_approveBootstrap trivial
  | createContainer => exact iff_of_true (fourEyes_createContainer h) trivial
  | start => exact iff_of_true (fun _ hrecord => absurd hrecord List.not_mem_nil) trivial
  | recordProof => exact iff_of_true (fun _ hrecord => absurd hrecord List.not_mem_nil) trivial
  | onboard => exact iff_of_true fourEyes_onboard trivial
  | approve => exact fourEyes_approve_iff
  | activate => exact fourEyes_activate_iff
  | review => exact fourEyes_review_iff

/-- A run keeps four eyes exactly if each of its calls does. -/
theorem fourEyes_run_iff (s : ApprovalSystem lower) (calls : List (ApprovalCall deployment)) :
    FourEyes (s.run calls).records ↔ FourEyes s.records ∧ SeparatedAlong s calls := by
  induction calls generalizing s with
  | nil => exact (and_iff_left trivial).symm
  | cons call calls ih =>
      rw [SeparatedAlong, ← and_assoc, ← fourEyes_call_iff]
      exact ih (s.call call)

/-- The calls of a part of a run are separated with those of the run. -/
theorem SeparatedAlong.of_prefix {s : ApprovalSystem lower}
    {pre post : List (ApprovalCall deployment)} (h : SeparatedAlong s (pre ++ post)) : SeparatedAlong s pre := by
  induction pre generalizing s with
  | nil => trivial
  | cons call pre ih => exact ⟨h.1, ih h.2⟩

end

/-- **In every state that a run reaches, nobody has approved what they asked for, exactly if each
call of the run is separated.** -/
theorem four_eyes_run_iff (deployment : OnboardingDeployment) (start : PlatformDatabase lower)
    (calls : List (ApprovalCall deployment)) :
    (∀ pre, pre <+: calls → FourEyes ((ApprovalSystem.mk start []).run pre).records) ↔
      SeparatedAlong ⟨start, []⟩ calls := by
  have hempty : FourEyes [] := fun _ hrecord => absurd hrecord List.not_mem_nil
  constructor
  · intro h
    exact ((fourEyes_run_iff _ calls).1 (h calls (List.prefix_refl calls))).2
  · rintro h pre ⟨post, rfl⟩
    exact (fourEyes_run_iff _ pre).2 ⟨hempty, h.of_prefix⟩

/-! ### An applicant who may review -/

/-- A deployment whose verifier confirms every boundary, and whose reviewers are all principals. -/
def trustingDeployment : OnboardingDeployment where
  case := .asciiOnly
  sha256 := fun _ => emptyDigest
  verify := fun request verifiedAt =>
    if h : FitsLength 1 512 request.identityBoundary.reference then
      .ok (some ⟨request.identityBoundary.kind, request.identityBoundary.reference, "dns:1",
        verifiedAt, h, aliceProof.evidenceFits⟩)
    else .ok none
  mayReviewOnboarding := fun _ _ => true

/-- Alice asks for her organization. -/
def aliceOnboards : CommandInvocation :=
  ⟨⟨.onboardOrganization, "organization_onboarding", true⟩, some ⟨"platformops", "user_alice"⟩,
    Dict.ofPairs [("organization_name", .str "Acme"), ("identity_boundary",
      .obj [("kind", .str "domain"), ("reference", .str "acme.example")])], none⟩

/-- And she reviews it. -/
def aliceReviews : CommandInvocation :=
  ⟨⟨.reviewOnboarding, "organization_onboarding_review", true⟩,
    some ⟨"platformops", "user_alice"⟩,
    Dict.ofPairs [("request_id", .str "orgreq_0123456789abcdef0123456789abcdef")], none⟩

/-- **Alice approves her own request, and her organization becomes active.** -/
theorem alice_approves_her_own :
    ¬ FourEyes ((ApprovalSystem.mk noOrganizations []).run
        [(.onboard aliceGenerated instants₀ aliceOnboards : ApprovalCall trustingDeployment),
          .review instants₀ aliceReviews]).records ∧
      (((ApprovalSystem.mk noOrganizations []).run
        [(.onboard aliceGenerated instants₀ aliceOnboards : ApprovalCall trustingDeployment),
          .review instants₀ aliceReviews]).database.organizations.rows.map
            OrganizationRow.state) = [.active] := by
  decide +kernel

end PlatformOps
