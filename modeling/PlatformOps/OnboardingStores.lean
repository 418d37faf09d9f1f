/-
**The stores of the onboarding.**

The services of the onboarding run over a store: one in memory, for development, or the repository
in the database.  Every operation of both is all or nothing.  The one in memory is three
dictionaries: of the requests, of the boundaries that were asked for, case folded, and of the active
organizations; and it writes over what is there.

Main definitions:

* `OrganizationOnboardingStore` — a store: its operations, all or nothing;
* `OrganizationOnboardingStore.start`, `approve`, `activateRequest` — the services over a store;
* `InMemoryOrganizationOnboardingStore`, `memoryStore` — the store in memory;
* `postgresStore` — the repository as a store.

Main results:

* `activateRequest_eq_ok_iff` — **when an activation succeeds**, over any store;
* `activateOnboarding_eq_ok_iff` — and over the repository;
* `memory_savePending_eq_ok_iff`, `memory_recordIdentityProof_eq_ok_iff`,
  `memory_activate_eq_ok_iff` — what the store in memory accepts.
-/

import PlatformOps.Dict
import PlatformOps.OnboardingRepository

set_option relaxedAutoImplicit false
set_option autoImplicit false

namespace PlatformOps

/-! ### Stores and services -/

/-- A store of the onboarding, all of whose operations are all or nothing. -/
structure OrganizationOnboardingStore (σ : Type) where
  savePending : OrganizationOnboardingRequest → Action σ CommandFault Unit
  recordIdentityProof : OrganizationOnboardingRequest → IdentityBoundaryVerificationEvidence →
    Action σ CommandFault Unit
  activate : ActiveOrganization → Action σ CommandFault Unit
  resolveRoutableOrganization : String → Action σ CommandFault (Option ActiveOrganization)
  allOrNothing_savePending : ∀ request, (savePending request).AllOrNothing
  allOrNothing_recordIdentityProof : ∀ request proof,
    (recordIdentityProof request proof).AllOrNothing
  allOrNothing_activate : ∀ organization, (activate organization).AllOrNothing

namespace OrganizationOnboardingStore

variable {σ : Type} (store : OrganizationOnboardingStore σ) (sha256 : String → HexDigest)

/-- `start`. -/
def start (applicant : AuthenticatedApplicant) (onboarding : OrganizationOnboardingStart)
    (generated : GeneratedRequest) (createdAt : ℕ) :
    Action σ CommandFault OrganizationOnboardingRequest := do
  let request := onboarding.request applicant generated createdAt
  store.savePending request
  pure request

/-- `approve`, which does not use the store. -/
def approve (request : OrganizationOnboardingRequest) (approver : AuthenticatedApplicant)
    (approvedAt : ℕ) : Action σ CommandFault OrganizationOnboardingApproval := do
  .guard (request.state = .pending) (activationError "only a pending request can be approved")
  pure (request.approval sha256 approver approvedAt)

/-- `activate`. -/
def activateRequest (request : OrganizationOnboardingRequest)
    (identityProof : Option IdentityBoundaryVerificationEvidence)
    (approval : Option OrganizationOnboardingApproval) (activatedAt : ℕ) :
    Action σ CommandFault ActiveOrganization := do
  .guard (request.state = .pending) (activationError "only a pending request can be activated")
  match identityProof with
  | none => .raise (activationError "identity-boundary verification is required")
  | some proof => do
      .guard (proof.Matches request)
        (activationError "identity-proof evidence does not match the requested boundary")
      match approval with
      | none => .raise (activationError "recorded approval is required")
      | some approval => do
          .guard (approval.requestId = request.requestId ∧
              approval.onboardingDigest = onboardingDigest sha256 request)
            (activationError "approval does not match the pending onboarding request")
          let organization := request.activated proof approval activatedAt
          store.activate organization
          pure organization

end OrganizationOnboardingStore

/-- The proof and the approval that are presented for a request are its own. -/
structure Presents (sha256 : String → HexDigest) (request : OrganizationOnboardingRequest)
    (identityProof : Option IdentityBoundaryVerificationEvidence)
    (approval : Option OrganizationOnboardingApproval)
    (proof : IdentityBoundaryVerificationEvidence) (recorded : OrganizationOnboardingApproval) :
    Prop where
  pending : request.state = .pending
  proof_eq : identityProof = some proof
  approval_eq : approval = some recorded
  matched : proof.Matches request
  requestId_eq : recorded.requestId = request.requestId
  digest_eq : recorded.onboardingDigest = onboardingDigest sha256 request

section
variable {σ : Type} {store : OrganizationOnboardingStore σ} {sha256 : String → HexDigest}
  {request : OrganizationOnboardingRequest} {s s' : σ}

theorem approve_eq_ok_iff {approver : AuthenticatedApplicant} {approvedAt : ℕ}
    {approval : OrganizationOnboardingApproval} :
    OrganizationOnboardingStore.approve sha256 request approver approvedAt s = (.ok approval, s') ↔
      request.state = .pending ∧ approval = request.approval sha256 approver approvedAt ∧
        s' = s := by
  unfold OrganizationOnboardingStore.approve
  rw [Action.guard_bind_eq_ok_iff, Action.pure_apply, Prod.mk.injEq, Except.ok.injEq,
    eq_comm (b := approval), eq_comm (b := s')]

/-- **A request is activated exactly if** it is pending, the proof is of its boundary, the approval
is of it, and the store activates its organization. -/
theorem activateRequest_eq_ok_iff {identityProof : Option IdentityBoundaryVerificationEvidence}
    {approval : Option OrganizationOnboardingApproval} {activatedAt : ℕ}
    {organization : ActiveOrganization} :
    store.activateRequest sha256 request identityProof approval activatedAt s =
        (.ok organization, s') ↔
      ∃ proof recorded, Presents sha256 request identityProof approval proof recorded ∧
        organization = request.activated proof recorded activatedAt ∧
        store.activate organization s = (.ok (), s') := by
  unfold OrganizationOnboardingStore.activateRequest
  rw [Action.guard_bind_eq_ok_iff]
  cases identityProof with
  | none =>
      refine iff_of_false (fun h => by cases h.2) ?_
      rintro ⟨proof, recorded, h, -⟩
      cases h.proof_eq
  | some proof =>
      dsimp only
      rw [Action.guard_bind_eq_ok_iff]
      cases approval with
      | none =>
          refine iff_of_false (fun h => by cases h.2.2) ?_
          rintro ⟨proof, recorded, h, -⟩
          cases h.approval_eq
      | some recorded =>
          dsimp only
          rw [Action.guard_bind_eq_ok_iff, Action.bind_eq_ok_iff]
          constructor
          · rintro ⟨hpending, hmatches, ⟨hrequest, hdigest⟩, ⟨⟩, s₁, hactivate, hend⟩
            cases hend
            exact ⟨proof, recorded, ⟨hpending, rfl, rfl, hmatches, hrequest, hdigest⟩, rfl,
              hactivate⟩
          · rintro ⟨_, _, ⟨hpending, ⟨⟩, ⟨⟩, hmatches, hrequest, hdigest⟩, rfl, hactivate⟩
            exact ⟨hpending, hmatches, ⟨hrequest, hdigest⟩, (), s', hactivate, rfl⟩

/-- The services are all or nothing too. -/
theorem allOrNothing_start {applicant : AuthenticatedApplicant}
    {onboarding : OrganizationOnboardingStart} {generated : GeneratedRequest} {createdAt : ℕ} :
    (store.start applicant onboarding generated createdAt).AllOrNothing :=
  (store.allOrNothing_savePending _).bind_pure _

theorem allOrNothing_approve {approver : AuthenticatedApplicant} {approvedAt : ℕ} :
    (OrganizationOnboardingStore.approve sha256 request approver approvedAt :
      Action σ CommandFault OrganizationOnboardingApproval).AllOrNothing :=
  (Action.readOnly_guard.bind fun _ => Action.readOnly_pure _).allOrNothing

theorem allOrNothing_activateRequest {identityProof : Option IdentityBoundaryVerificationEvidence}
    {approval : Option OrganizationOnboardingApproval} {activatedAt : ℕ} :
    (store.activateRequest sha256 request identityProof approval activatedAt).AllOrNothing := by
  refine Action.readOnly_guard.bind_allOrNothing fun _ => ?_
  cases identityProof with
  | none => exact (Action.readOnly_raise _).allOrNothing
  | some proof =>
      refine Action.readOnly_guard.bind_allOrNothing fun _ => ?_
      cases approval with
      | none => exact (Action.readOnly_raise _).allOrNothing
      | some recorded =>
          refine Action.readOnly_guard.bind_allOrNothing fun _ => ?_
          exact (store.allOrNothing_activate _).bind_pure _

end

/-! ### The repository -/

/-- The repository of a deployment. -/
def postgresStore (lower : String → String) (deployment : OnboardingDeployment) :
    OrganizationOnboardingStore (PlatformDatabase lower) where
  savePending := savePending
  recordIdentityProof := recordIdentityProof
  activate := activateOrganization deployment.case deployment.sha256
  resolveRoutableOrganization := resolveRoutableOrganization deployment.case
  allOrNothing_savePending _ := (Action.allOrNothing_transaction _).mapError _
  allOrNothing_recordIdentityProof _ _ :=
    Action.readOnly_guard.bind_allOrNothing fun _ => Action.allOrNothing_transaction _
  allOrNothing_activate _ := Action.allOrNothing_transaction _

section
variable {lower : String → String} {deployment : OnboardingDeployment}
  {s s' : PlatformDatabase lower} {request : OrganizationOnboardingRequest}

theorem activateOnboarding_eq {identityProof : Option IdentityBoundaryVerificationEvidence}
    {approval : Option OrganizationOnboardingApproval} {activatedAt : ℕ} :
    (postgresStore lower deployment).activateRequest deployment.sha256 request identityProof approval
        activatedAt =
      activateOnboarding deployment request identityProof approval activatedAt := rfl

theorem approveOnboarding_eq_ok_iff {approver : AuthenticatedApplicant} {approvedAt : ℕ}
    {approval : OrganizationOnboardingApproval} :
    approveOnboarding deployment request approver approvedAt s = (.ok approval, s') ↔
      request.state = .pending ∧ approval = request.approval deployment.sha256 approver approvedAt ∧
        s' = s :=
  approve_eq_ok_iff

/-- **When the repository activates a request.** -/
theorem activateOnboarding_eq_ok_iff
    {identityProof : Option IdentityBoundaryVerificationEvidence}
    {approval : Option OrganizationOnboardingApproval} {activatedAt : ℕ}
    {organization : ActiveOrganization} :
    activateOnboarding deployment request identityProof approval activatedAt s =
        (.ok organization, s') ↔
      ∃ proof recorded,
        Presents deployment.sha256 request identityProof approval proof recorded ∧
        organization = request.activated proof recorded activatedAt ∧
        activateOrganization deployment.case deployment.sha256 organization s = (.ok (), s') := by
  rw [← activateOnboarding_eq]
  exact activateRequest_eq_ok_iff

end

/-! ### The store in memory -/

/-- The store in memory. -/
structure InMemoryOrganizationOnboardingStore where
  requestsById : Dict String OrganizationOnboardingRequest
  requestsByIdentity : Dict (IdentityBoundaryKind × String) String
  activeByOrganizationId : Dict String ActiveOrganization
  proofByRequestId : Dict String IdentityBoundaryVerificationEvidence

namespace InMemoryOrganizationOnboardingStore

/-- The store without a request. -/
def empty : InMemoryOrganizationOnboardingStore := ⟨.empty, .empty, .empty, .empty⟩

/-- The key of the boundary of a request. -/
def identityKey (casefold : String → String) (request : OrganizationOnboardingRequest) :
    IdentityBoundaryKind × String :=
  (request.identityBoundary.kind, casefold request.identityBoundary.reference)

/-- A request is stored under its id and under its boundary. -/
def store (casefold : String → String) (m : InMemoryOrganizationOnboardingStore)
    (request : OrganizationOnboardingRequest) : InMemoryOrganizationOnboardingStore :=
  { m with
    requestsById := m.requestsById.set request.requestId request
    requestsByIdentity := m.requestsByIdentity.set (identityKey casefold request) request.requestId }

/-- `save_pending`. -/
def savePending (casefold : String → String) (request : OrganizationOnboardingRequest) :
    Action InMemoryOrganizationOnboardingStore CommandFault Unit := do
  let taken ← .read fun m => m.requestsByIdentity.get? (identityKey casefold request)
  .guard (taken = none) (.valueError "OrganizationOnboardingAlreadyRequested"
    "an organization request already exists for this identity boundary")
  .modify fun m => m.store casefold request

/-- `record_identity_proof`. -/
def recordIdentityProof (request : OrganizationOnboardingRequest)
    (proof : IdentityBoundaryVerificationEvidence) :
    Action InMemoryOrganizationOnboardingStore CommandFault Unit := do
  .guard (proof.Matches request) (activationError "identity proof does not match pending request")
  let found ← .read fun m => m.requestsById.get? request.requestId
  .guard (found ≠ none) (activationError "pending request does not exist")
  .modify fun m => { m with proofByRequestId := m.proofByRequestId.set request.requestId proof }

/-- The organizations that were asked for. -/
def organizationIds (m : InMemoryOrganizationOnboardingStore) : List String :=
  m.requestsById.values.map OrganizationOnboardingRequest.organizationId

/-- `activate`. -/
def activate (organization : ActiveOrganization) :
    Action InMemoryOrganizationOnboardingStore CommandFault Unit := do
  let organizationIds ← .read organizationIds
  .guard (organization.organizationId ∈ organizationIds)
    (activationError "active organization has no pending onboarding request")
  .guard (organization.state = .active)
    (activationError "only an active organization can become routable")
  .modify fun m =>
    { m with
      activeByOrganizationId :=
        m.activeByOrganizationId.set organization.organizationId organization }

/-- `resolve_routable_organization`. -/
def resolveRoutableOrganization (organizationId : String) :
    Action InMemoryOrganizationOnboardingStore CommandFault (Option ActiveOrganization) :=
  .read fun m => m.activeByOrganizationId.get? organizationId

end InMemoryOrganizationOnboardingStore

/-- The store in memory, as a store. -/
def memoryStore (casefold : String → String) :
    OrganizationOnboardingStore InMemoryOrganizationOnboardingStore where
  savePending := InMemoryOrganizationOnboardingStore.savePending casefold
  recordIdentityProof := InMemoryOrganizationOnboardingStore.recordIdentityProof
  activate := InMemoryOrganizationOnboardingStore.activate
  resolveRoutableOrganization := InMemoryOrganizationOnboardingStore.resolveRoutableOrganization
  allOrNothing_savePending _ := by
    refine (Action.readOnly_read _).bind_allOrNothing fun _ => ?_
    exact Action.readOnly_guard.bind_allOrNothing fun _ => Action.allOrNothing_modify _
  allOrNothing_recordIdentityProof _ _ := by
    refine Action.readOnly_guard.bind_allOrNothing fun _ => ?_
    refine (Action.readOnly_read _).bind_allOrNothing fun _ => ?_
    exact Action.readOnly_guard.bind_allOrNothing fun _ => Action.allOrNothing_modify _
  allOrNothing_activate _ := by
    refine (Action.readOnly_read _).bind_allOrNothing fun _ => ?_
    refine Action.readOnly_guard.bind_allOrNothing fun _ => ?_
    exact Action.readOnly_guard.bind_allOrNothing fun _ => Action.allOrNothing_modify _

section
open InMemoryOrganizationOnboardingStore (identityKey)

variable {casefold : String → String} {m m' : InMemoryOrganizationOnboardingStore}
  {request : OrganizationOnboardingRequest}

/-- **A request is accepted in memory** unless its boundary was asked for. -/
theorem memory_savePending_eq_ok_iff :
    (memoryStore casefold).savePending request m = (.ok (), m') ↔
      m.requestsByIdentity.get? (identityKey casefold request) = none ∧
        m' = m.store casefold request := by
  refine Action.guard_bind_eq_ok_iff.trans (and_congr_right fun _ => ?_)
  rw [Action.modify_apply, Prod.mk.injEq, eq_comm (b := m')]
  exact and_iff_right rfl

/-- A proof of a boundary is accepted in memory if the id of the request is known. -/
theorem memory_recordIdentityProof_eq_ok_iff {proof : IdentityBoundaryVerificationEvidence} :
    (memoryStore casefold).recordIdentityProof request proof m = (.ok (), m') ↔
      proof.Matches request ∧ m.requestsById.get? request.requestId ≠ none ∧
        m' = { m with proofByRequestId := m.proofByRequestId.set request.requestId proof } := by
  refine Action.guard_bind_eq_ok_iff.trans (and_congr_right fun _ => ?_)
  refine Action.guard_bind_eq_ok_iff.trans (and_congr_right fun _ => ?_)
  rw [Action.modify_apply, Prod.mk.injEq, eq_comm (b := m')]
  exact and_iff_right rfl

/-- **An active organization is accepted in memory** if it was asked for. -/
theorem memory_activate_eq_ok_iff {organization : ActiveOrganization} :
    (memoryStore casefold).activate organization m = (.ok (), m') ↔
      organization.organizationId ∈ m.organizationIds ∧ organization.state = .active ∧
        m' = { m with
          activeByOrganizationId :=
            m.activeByOrganizationId.set organization.organizationId organization } := by
  refine Action.guard_bind_eq_ok_iff.trans (and_congr_right fun _ => ?_)
  refine Action.guard_bind_eq_ok_iff.trans (and_congr_right fun _ => ?_)
  rw [Action.modify_apply, Prod.mk.injEq, eq_comm (b := m')]
  exact and_iff_right rfl

end

/-! ### An applicant -/

/-- The identifiers of Alice's request. -/
def aliceGenerated : GeneratedRequest :=
  ⟨"0123456789abcdef0123456789abcdef", "fedcba9876543210fedcba9876543210", by decide, by decide⟩

/-- Her request. -/
def aliceStarted : OrganizationOnboardingRequest := aliceStart.request aliceApplicant aliceGenerated 0

end PlatformOps
