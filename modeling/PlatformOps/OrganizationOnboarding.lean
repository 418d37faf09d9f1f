/-
**Onboarding an organization.**

A registered user asks for an organization, and a verifier may prove that the user controls its
boundary.  A reviewer then loads the request and its proof, is authorized, approves the request and
activates the organization.  An administrator may also look at a pending request.

The review loads before it authorizes.  So a reviewer who may not review is told what is stored
about the request, up to its standing: whether it is pending, whether it has a proof, and whether
the proof is one of its boundary.  The read of an administrator authorizes first and tells nothing.

Main definitions:

* `CommandInvocation` — what the handler of a command is given;
* `OnboardingDeployment` — the verifier and the authorizer;
* `startOnboarding`, `verifyPending`, `approveOnboarding`, `activateOnboarding`,
  `getPendingReview` — the services;
* `organizationOnboardingGraph`, `organizationOnboardingReviewGraph` — the graphs;
* `onboardOrganizationHandler`, `reviewOnboardingHandler`, `viewOnboardingReviewHandler` — the
  handlers;
* `ReviewStanding` — what is stored about a request, for its review.

Main results:

* `load_of_not_ready`, `load_of_ready` — what the review loads;
* `review_of_denied`, `view_of_denied` — how a review and a read end that are not allowed;
* `unauthorized_review_reveals_nothing_iff` — **a review that is not allowed changes nothing, and
  tells two states apart exactly if the request stands differently in them**.
-/

import PlatformOps.BrowserSessions
import PlatformOps.OnboardingTables

set_option relaxedAutoImplicit false
set_option autoImplicit false

namespace PlatformOps

/-! ### Invocations -/

/-- Where a command leads. -/
structure CommandRoute where
  command : ControlPlaneCommand
  workflowId : String
  requiresAuthenticatedSession : Bool
  deriving DecidableEq

/-- What a handler is given. -/
structure CommandInvocation where
  route : CommandRoute
  principal : Option ValidatedPrincipal
  payload : Dict String Json
  source : Option String

/-- The applicant, or the reviewer, that a principal is. -/
def ValidatedPrincipal.applicant (principal : ValidatedPrincipal) :
    Except ValidationError AuthenticatedApplicant :=
  authenticatedApplicant principal.issuer principal.subject

/-! ### The services -/

/-- What the onboarding runs with. -/
structure OnboardingDeployment where
  case : CaseMapping
  sha256 : String → HexDigest
  verify : OrganizationOnboardingRequest → ℕ →
    Except CommandFault (Option IdentityBoundaryVerificationEvidence)
  mayReviewOnboarding : AuthenticatedApplicant → String → Bool

/-- The identifiers of a request: the digits of two UUIDs. -/
structure GeneratedRequest where
  requestHex : String
  organizationHex : String
  requestHex_length : requestHex.length = 32
  organizationHex_length : organizationHex.length = 32

/-- `_onboarding_request_id`. -/
def GeneratedRequest.requestId (generated : GeneratedRequest) : String :=
  "orgreq_" ++ generated.requestHex

/-- `_organization_id`. -/
def GeneratedRequest.organizationId (generated : GeneratedRequest) : String :=
  "org_" ++ generated.organizationHex

theorem GeneratedRequest.requestId_length (generated : GeneratedRequest) :
    8 ≤ generated.requestId.length := by
  unfold requestId
  rw [String.length_append, generated.requestHex_length]
  exact Nat.le_add_left_of_le (by decide)

theorem GeneratedRequest.organizationId_length (generated : GeneratedRequest) :
    5 ≤ generated.organizationId.length := by
  unfold organizationId
  rw [String.length_append, generated.organizationHex_length]
  exact Nat.le_add_left_of_le (by decide)

/-- The request that is started. -/
def OrganizationOnboardingStart.request (onboarding : OrganizationOnboardingStart)
    (applicant : AuthenticatedApplicant) (generated : GeneratedRequest) (createdAt : ℕ) :
    OrganizationOnboardingRequest :=
  ⟨generated.requestId, generated.organizationId, onboarding.organizationName, applicant,
    onboarding.identityBoundary, .pending, createdAt, generated.requestId_length,
    generated.organizationId_length, onboarding.nameFits⟩

/-- The approval of a request. -/
def OrganizationOnboardingRequest.approval (request : OrganizationOnboardingRequest)
    (sha256 : String → HexDigest) (approver : AuthenticatedApplicant) (approvedAt : ℕ) :
    OrganizationOnboardingApproval :=
  ⟨request.requestId, onboardingDigest sha256 request, approver, approvedAt,
    request.requestId_length⟩

/-- The active organization of a request. -/
def OrganizationOnboardingRequest.activated (request : OrganizationOnboardingRequest)
    (proof : IdentityBoundaryVerificationEvidence) (approval : OrganizationOnboardingApproval)
    (activatedAt : ℕ) : ActiveOrganization :=
  ⟨request.organizationId, request.organizationName, request.identityBoundary, proof, approval,
    request.applicant, .active, activatedAt, request.organizationId_length, request.nameFits⟩

/-- What an administrator is shown of a pending request. -/
structure PendingOnboardingReviewProjection where
  requestId : String
  organizationName : String
  identityBoundaryKind : String
  identityBoundaryReference : String
  identityProofRecorded : Bool
  deriving DecidableEq

/-- `from_pending`.  The fields of a request are those the projection accepts. -/
def PendingOnboardingReviewProjection.fromPending (request : OrganizationOnboardingRequest)
    (proof : Option IdentityBoundaryVerificationEvidence) : PendingOnboardingReviewProjection :=
  ⟨request.requestId, request.organizationName, request.identityBoundary.kind.value,
    request.identityBoundary.reference, proof.isSome⟩

/-- `OrganizationOnboardingReviewAccessDenied`. -/
def reviewAccessDenied : CommandFault :=
  .permissionError "OrganizationOnboardingReviewAccessDenied" "review permission is required"

section
variable {lower : String → String} (deployment : OnboardingDeployment)

/-- `start`. -/
def startOnboarding (applicant : AuthenticatedApplicant) (onboarding : OrganizationOnboardingStart)
    (generated : GeneratedRequest) (createdAt : ℕ) :
    PlatformAction lower OrganizationOnboardingRequest := do
  let request := onboarding.request applicant generated createdAt
  savePending request
  pure request

/-- `verify_pending`. -/
def verifyPending (request : OrganizationOnboardingRequest) (verifiedAt : ℕ) :
    PlatformAction lower (Option IdentityBoundaryVerificationEvidence) :=
  if request.state = .pending then .ofExcept (deployment.verify request verifiedAt)
  else pure none

/-- `approve`. -/
def approveOnboarding (request : OrganizationOnboardingRequest) (approver : AuthenticatedApplicant)
    (approvedAt : ℕ) : PlatformAction lower OrganizationOnboardingApproval := do
  .guard (request.state = .pending) (activationError "only a pending request can be approved")
  pure (request.approval deployment.sha256 approver approvedAt)

/-- `activate`. -/
def activateOnboarding (request : OrganizationOnboardingRequest)
    (identityProof : Option IdentityBoundaryVerificationEvidence)
    (approval : Option OrganizationOnboardingApproval) (activatedAt : ℕ) :
    PlatformAction lower ActiveOrganization := do
  .guard (request.state = .pending) (activationError "only a pending request can be activated")
  match identityProof with
  | none => .raise (activationError "identity-boundary verification is required")
  | some proof => do
      .guard (proof.Matches request)
        (activationError "identity-proof evidence does not match the requested boundary")
      match approval with
      | none => .raise (activationError "recorded approval is required")
      | some approval => do
          .guard (approval.requestId = request.requestId ∧
              approval.onboardingDigest = onboardingDigest deployment.sha256 request)
            (activationError "approval does not match the pending onboarding request")
          let organization := request.activated proof approval activatedAt
          activateOrganization deployment.case deployment.sha256 organization
          pure organization

/-- `get_pending_review`. -/
def getPendingReview (reviewer : AuthenticatedApplicant) (requestId : String) :
    PlatformAction lower PendingOnboardingReviewProjection := do
  .guard (deployment.mayReviewOnboarding reviewer requestId = true) reviewAccessDenied
  let found ← getPendingRequest deployment.case requestId
  match found with
  | none => .raise (.valueError "ValueError" "pending onboarding request was not found")
  | some request => do
      let proof ← getPersistedIdentityProof request
      pure (.fromPending request proof)

/-! ### The graph of an applicant -/

/-- The state of the graph of an applicant. -/
structure OrganizationOnboardingState where
  applicant : AuthenticatedApplicant
  onboarding : OrganizationOnboardingStart
  reviewer : Option AuthenticatedApplicant
  request : Option OrganizationOnboardingRequest
  identityProof : Option IdentityBoundaryVerificationEvidence
  approval : Option OrganizationOnboardingApproval
  organization : Option ActiveOrganization

/-- The edges after the verification and after the proof is persisted.  The one to the approval has
the reviewer who approves. -/
inductive ProofRoute
  | stop
  | continueToApproval (approver : AuthenticatedApplicant)
  | pendingReview
  deriving DecidableEq

/-- `proof_succeeded`. -/
def proofSucceeded (identityProof : Option IdentityBoundaryVerificationEvidence)
    (reviewer : Option AuthenticatedApplicant) : ProofRoute :=
  match identityProof, reviewer with
  | none, _ => .stop
  | some _, some approver => .continueToApproval approver
  | some _, none => .pendingReview

/-- `persist_identity_proof`. -/
def persistIdentityProof (request : OrganizationOnboardingRequest)
    (identityProof : Option IdentityBoundaryVerificationEvidence) : PlatformAction lower Unit :=
  match identityProof with
  | none => pure ()
  | some proof => recordIdentityProof request proof

/-- The instants at which the stages of a graph read the clock. -/
structure OnboardingInstants where
  createdAt : ℕ
  verifiedAt : ℕ
  approvedAt : ℕ
  activatedAt : ℕ

/-- The graph of an applicant.  The proof and the reviewer are those of the state at both edges, so
that both take the same route. -/
def organizationOnboardingGraph (generated : GeneratedRequest) (instants : OnboardingInstants)
    (applicant : AuthenticatedApplicant) (onboarding : OrganizationOnboardingStart)
    (reviewer : Option AuthenticatedApplicant) :
    PlatformAction lower OrganizationOnboardingState := do
  let request ← startOnboarding applicant onboarding generated instants.createdAt
  let identityProof ← verifyPending deployment request instants.verifiedAt
  match proofSucceeded identityProof reviewer with
  | .stop => pure ⟨applicant, onboarding, reviewer, some request, identityProof, none, none⟩
  | .pendingReview => do
      persistIdentityProof request identityProof
      pure ⟨applicant, onboarding, reviewer, some request, identityProof, none, none⟩
  | .continueToApproval approver => do
      persistIdentityProof request identityProof
      let approval ← approveOnboarding deployment request approver instants.approvedAt
      let organization ← activateOnboarding deployment request identityProof (some approval)
        instants.activatedAt
      pure ⟨applicant, onboarding, reviewer, some request, identityProof, some approval,
        some organization⟩

/-! ### The graph of a reviewer -/

/-- The state of the graph of a reviewer. -/
structure ReviewState where
  requestId : String
  reviewer : AuthenticatedApplicant
  request : Option OrganizationOnboardingRequest
  proof : Option IdentityBoundaryVerificationEvidence
  approval : Option OrganizationOnboardingApproval
  organization : Option ActiveOrganization

/-- `load`. -/
def load (requestId : String) :
    PlatformAction lower
      (OrganizationOnboardingRequest × IdentityBoundaryVerificationEvidence) := do
  let found ← getPendingRequest deployment.case requestId
  match found with
  | none => .raise (activationError "pending onboarding request was not found")
  | some request => do
      let proof ← getPersistedIdentityProof request
      match proof with
      | none => .raise (activationError "persisted identity proof is required")
      | some proof => pure (request, proof)

/-- `authorize`. -/
def authorize (reviewer : AuthenticatedApplicant) (requestId : String) :
    PlatformAction lower Unit :=
  .guard (deployment.mayReviewOnboarding reviewer requestId = true) reviewAccessDenied

/-- The graph of a reviewer. -/
def organizationOnboardingReviewGraph (instants : OnboardingInstants) (requestId : String)
    (reviewer : AuthenticatedApplicant) : PlatformAction lower ReviewState := do
  let loaded ← load deployment requestId
  authorize deployment reviewer requestId
  let approval ← approveOnboarding deployment loaded.1 reviewer instants.approvedAt
  let organization ← activateOnboarding deployment loaded.1 (some loaded.2) (some approval)
    instants.activatedAt
  pure ⟨requestId, reviewer, some loaded.1, some loaded.2, some approval, some organization⟩

/-! ### The handlers -/

/-- Go on with the principal, unless there is none. -/
def withPrincipal {α : Type} (invocation : CommandInvocation) (detail : String)
    (handle : ValidatedPrincipal → PlatformAction lower α) : PlatformAction lower α :=
  match invocation.principal with
  | none => .raise (.permissionError "PermissionError" detail)
  | some principal => handle principal

/-- The handler of `/onboard-org`. -/
def onboardOrganizationHandler (generated : GeneratedRequest) (instants : OnboardingInstants)
    (invocation : CommandInvocation) : PlatformAction lower OrganizationOnboardingState :=
  withPrincipal invocation "validated principal is required" fun principal => do
    let applicant ← validated principal.applicant
    let onboarding ← validated (organizationOnboardingStart deployment.case invocation.payload)
    organizationOnboardingGraph deployment generated instants applicant onboarding none

/-- The handler of `/review-onboard-org`. -/
def reviewOnboardingHandler (instants : OnboardingInstants) (invocation : CommandInvocation) :
    PlatformAction lower ReviewState :=
  withPrincipal invocation "validated reviewer principal is required" fun principal => do
    let command ← validated (reviewOnboardingCommand invocation.payload)
    let reviewer ← validated principal.applicant
    organizationOnboardingReviewGraph deployment instants command.id reviewer

/-- The handler of `/onboarding-review`. -/
def viewOnboardingReviewHandler (invocation : CommandInvocation) :
    PlatformAction lower PendingOnboardingReviewProjection :=
  withPrincipal invocation "validated reviewer principal is required" fun principal => do
    let command ← validated (onboardingAdministratorReadCommand invocation.payload)
    let reviewer ← validated principal.applicant
    getPendingReview deployment reviewer command.id

end

/-! ### What is stored about a request -/

/-- How a request stands for its review. -/
inductive ReviewStanding
  | notPending
  | unreadable (error : ValidationError)
  | unproved
  | mismatched
  | ready
  deriving DecidableEq

section
variable {lower : String → String} (case : CaseMapping)

/-- How the request with this id stands in the tables. -/
def PlatformDatabase.reviewStanding (s : PlatformDatabase lower) (requestId : String) :
    ReviewStanding :=
  match s.pendingRow requestId with
  | none => .notPending
  | some row =>
      match readRequest case row with
      | .error e => .unreadable e
      | .ok request =>
          match s.proofs.find? requestId with
          | none => .unproved
          | some proofRow =>
              match readProof proofRow with
              | .error e => .unreadable e
              | .ok proof => if proof.Matches request then .ready else .mismatched

/-- A pending request is stored, with a proof of its boundary. -/
structure PlatformDatabase.Ready (s : PlatformDatabase lower) (requestId : String)
    (row : OnboardingRequestRow × OrganizationRow) (request : OrganizationOnboardingRequest)
    (proof : IdentityBoundaryVerificationEvidence) : Prop where
  row_eq : s.pendingRow requestId = some row
  request_eq : readRequest case row = .ok request
  proof_eq : ∃ proofRow, s.proofs.find? requestId = some proofRow ∧ readProof proofRow = .ok proof
  matched : proof.Matches request

/-- What a review raises that finds the request so, and is not allowed. -/
def ReviewStanding.refusal : ReviewStanding → CommandFault
  | .notPending => activationError "pending onboarding request was not found"
  | .unreadable e => .validationError e
  | .unproved => activationError "persisted identity proof is required"
  | .mismatched => activationError "persisted identity proof does not match pending request"
  | .ready => reviewAccessDenied

theorem ReviewStanding.refusal_injective : Function.Injective ReviewStanding.refusal := by
  intro a b h
  cases a <;> cases b <;>
    simp_all [ReviewStanding.refusal, activationError, reviewAccessDenied]

variable {case} {s : PlatformDatabase lower} {requestId : String}

/-- The request that is read from the row under this id has this id. -/
theorem requestId_of_read {row : OnboardingRequestRow × OrganizationRow}
    (hrow : s.pendingRow requestId = some row) {request : OrganizationOnboardingRequest}
    (hread : readRequest case row = .ok request) : request.requestId = requestId := by
  rw [(fields_of_readRequest hread).1, requestId_of_pendingRow hrow]

/-- What is found under an id, and how the request stands then. -/
inductive PlatformDatabase.Finds (case : CaseMapping) (s : PlatformDatabase lower)
    (requestId : String) : ReviewStanding → Prop
  | noRequest (hrow : s.pendingRow requestId = none) : Finds case s requestId .notPending
  | invalidRequest {row : OnboardingRequestRow × OrganizationRow} {e : ValidationError}
      (hrow : s.pendingRow requestId = some row) (hread : readRequest case row = .error e) :
      Finds case s requestId (.unreadable e)
  | noProof {row : OnboardingRequestRow × OrganizationRow} {request : OrganizationOnboardingRequest}
      (hrow : s.pendingRow requestId = some row) (hread : readRequest case row = .ok request)
      (hfind : s.proofs.find? requestId = none) : Finds case s requestId .unproved
  | invalidProof {row : OnboardingRequestRow × OrganizationRow}
      {request : OrganizationOnboardingRequest} {proofRow : IdentityProofRow} {e : ValidationError}
      (hrow : s.pendingRow requestId = some row) (hread : readRequest case row = .ok request)
      (hfind : s.proofs.find? requestId = some proofRow) (hproof : readProof proofRow = .error e) :
      Finds case s requestId (.unreadable e)
  | otherProof {row : OnboardingRequestRow × OrganizationRow}
      {request : OrganizationOnboardingRequest} {proofRow : IdentityProofRow}
      {proof : IdentityBoundaryVerificationEvidence}
      (hrow : s.pendingRow requestId = some row) (hread : readRequest case row = .ok request)
      (hfind : s.proofs.find? requestId = some proofRow) (hproof : readProof proofRow = .ok proof)
      (hmatches : ¬ proof.Matches request) : Finds case s requestId .mismatched
  | itsProof {row : OnboardingRequestRow × OrganizationRow}
      {request : OrganizationOnboardingRequest} {proof : IdentityBoundaryVerificationEvidence}
      (h : s.Ready case requestId row request proof) : Finds case s requestId .ready

/-- The request stands as it is found. -/
theorem finds_reviewStanding :
    s.Finds case requestId (s.reviewStanding case requestId) := by
  unfold PlatformDatabase.reviewStanding
  cases hrow : s.pendingRow requestId with
  | none => exact .noRequest hrow
  | some row =>
      dsimp only
      cases hread : readRequest case row with
      | error e => exact .invalidRequest hrow hread
      | ok request =>
          dsimp only
          cases hfind : s.proofs.find? requestId with
          | none => exact .noProof hrow hread hfind
          | some proofRow =>
              dsimp only
              cases hproof : readProof proofRow with
              | error e => exact .invalidProof hrow hread hfind hproof
              | ok proof =>
                  dsimp only
                  by_cases hmatches : proof.Matches request
                  · rw [if_pos hmatches]
                    exact .itsProof ⟨hrow, hread, ⟨proofRow, hfind, hproof⟩, hmatches⟩
                  · rw [if_neg hmatches]
                    exact .otherProof hrow hread hfind hproof hmatches

/-- The request is ready exactly if it and its proof are there. -/
theorem reviewStanding_eq_ready_iff :
    s.reviewStanding case requestId = .ready ↔
      ∃ row request proof, s.Ready case requestId row request proof := by
  constructor
  · intro h
    have hfinds : s.Finds case requestId (s.reviewStanding case requestId) :=
      finds_reviewStanding
    rw [h] at hfinds
    cases hfinds with
    | itsProof hready => exact ⟨_, _, _, hready⟩
  · rintro ⟨row, request, proof, hrow, hread, ⟨proofRow, hfind, hproof⟩, hmatches⟩
    simp [PlatformDatabase.reviewStanding, hrow, hread, hfind, hproof, hmatches]

/-- A review that finds the request not ready raises what that standing is refused with. -/
theorem load_of_not_ready {deployment : OnboardingDeployment} (hsend : Sendable requestId)
    (h : s.reviewStanding deployment.case requestId ≠ .ready) :
    load deployment requestId s =
      (.error (s.reviewStanding deployment.case requestId).refusal, s) := by
  have hfinds : s.Finds deployment.case requestId (s.reviewStanding deployment.case requestId) :=
    finds_reviewStanding
  generalize s.reviewStanding deployment.case requestId = standing at h hfinds
  unfold load
  cases hfinds with
  | noRequest hrow =>
      rw [Action.bind_of_ok (getPendingRequest_of_none hsend hrow)]
      rfl
  | invalidRequest hrow hread =>
      rw [Action.bind_of_error (getPendingRequest_of_error hsend hrow hread)]
      rfl
  | noProof hrow hread hfind =>
      obtain rfl := requestId_of_read hrow hread
      rw [Action.bind_of_ok (getPendingRequest_of_ok hsend hrow hread)]
      exact Action.bind_of_ok (getPersistedIdentityProof_of_none hsend hfind) _
  | invalidProof hrow hread hfind hproof =>
      obtain rfl := requestId_of_read hrow hread
      rw [Action.bind_of_ok (getPendingRequest_of_ok hsend hrow hread)]
      exact Action.bind_of_error (getPersistedIdentityProof_of_error hsend hfind hproof) _
  | otherProof hrow hread hfind hproof hmatches =>
      obtain rfl := requestId_of_read hrow hread
      have hrun := getPersistedIdentityProof_of_ok hsend hfind hproof
      rw [if_neg hmatches] at hrun
      rw [Action.bind_of_ok (getPendingRequest_of_ok hsend hrow hread)]
      exact Action.bind_of_error hrun _
  | itsProof hready => exact absurd rfl h

/-- A request that is ready has its proof. -/
theorem getPersistedIdentityProof_of_ready {row : OnboardingRequestRow × OrganizationRow}
    {request : OrganizationOnboardingRequest} {proof : IdentityBoundaryVerificationEvidence}
    (hsend : Sendable requestId) (h : s.Ready case requestId row request proof) :
    getPersistedIdentityProof request s = (.ok (some proof), s) := by
  obtain ⟨hrow, hread, ⟨proofRow, hfind, hproof⟩, hmatches⟩ := h
  obtain rfl := requestId_of_read hrow hread
  rw [getPersistedIdentityProof_of_ok hsend hfind hproof, if_pos hmatches]

/-- A review that finds the request ready loads it and its proof. -/
theorem load_of_ready {deployment : OnboardingDeployment} (hsend : Sendable requestId)
    {row : OnboardingRequestRow × OrganizationRow} {request : OrganizationOnboardingRequest}
    {proof : IdentityBoundaryVerificationEvidence}
    (h : s.Ready deployment.case requestId row request proof) :
    load deployment requestId s = (.ok (request, proof), s) := by
  unfold load
  rw [Action.bind_of_ok (getPendingRequest_of_ok hsend h.row_eq h.request_eq)]
  exact Action.bind_of_ok (getPersistedIdentityProof_of_ready hsend h) _

end

/-! ### Reviews that are not allowed -/

section
variable {lower : String → String} {deployment : OnboardingDeployment}
  {instants : OnboardingInstants} {invocation : CommandInvocation} {s : PlatformDatabase lower}

/-- The invocation names a principal and, in its payload, this request, and the id can be sent to
the database. -/
def CommandInvocation.AsksFor (invocation : CommandInvocation) (requestId : String)
    (reviewer : AuthenticatedApplicant) : Prop :=
  ∃ principal command, invocation.principal = some principal ∧
    reviewOnboardingCommand invocation.payload = .ok command ∧
    principal.applicant = .ok reviewer ∧ command.id = requestId

theorem CommandInvocation.AsksFor.eq {requestId requestId' : String}
    {reviewer reviewer' : AuthenticatedApplicant} (h : invocation.AsksFor requestId reviewer)
    (h' : invocation.AsksFor requestId' reviewer') : requestId' = requestId := by
  obtain ⟨-, command, -, hcommand, -, hid⟩ := h
  obtain ⟨-, command', -, hcommand', -, hid'⟩ := h'
  rw [hcommand] at hcommand'
  cases hcommand'
  rw [← hid, ← hid']

/-- The authorizer does not allow the review that the invocation asks for. -/
def OnboardingDeployment.Denies (deployment : OnboardingDeployment)
    (invocation : CommandInvocation) : Prop :=
  ∀ requestId reviewer, invocation.AsksFor requestId reviewer →
    deployment.mayReviewOnboarding reviewer requestId = false

/-- The authorization of a review that is not allowed raises. -/
theorem authorize_of_denied {reviewer : AuthenticatedApplicant} {requestId : String}
    (h : deployment.mayReviewOnboarding reviewer requestId = false) :
    authorize deployment reviewer requestId s = (.error reviewAccessDenied, s) := by
  unfold authorize Action.guard
  rw [if_neg (by simp [h])]
  rfl

/-- The read of an administrator that is not allowed raises before it looks at the request. -/
theorem view_of_denied {reviewer : AuthenticatedApplicant} {requestId : String}
    (h : deployment.mayReviewOnboarding reviewer requestId = false) :
    getPendingReview deployment reviewer requestId s = (.error reviewAccessDenied, s) := by
  unfold getPendingReview
  rw [Action.guard_bind_apply, if_neg (by simp [h])]

/-- **A review that is not allowed** raises what the standing of the request is refused with. -/
theorem review_of_denied {reviewer : AuthenticatedApplicant} {requestId : String}
    (hsend : Sendable requestId)
    (h : deployment.mayReviewOnboarding reviewer requestId = false) :
    organizationOnboardingReviewGraph deployment instants requestId reviewer s =
      (.error (s.reviewStanding deployment.case requestId).refusal, s) := by
  unfold organizationOnboardingReviewGraph
  by_cases hready : s.reviewStanding deployment.case requestId = .ready
  · obtain ⟨row, request, proof, hrow⟩ := reviewStanding_eq_ready_iff.1 hready
    rw [Action.bind_of_ok (load_of_ready hsend hrow), Action.bind_of_error (authorize_of_denied h),
      hready]
    rfl
  · rw [Action.bind_of_error (load_of_not_ready hsend hready)]

/-- A review of an id that cannot be sent raises the error of the database. -/
theorem review_of_unsendable {reviewer : AuthenticatedApplicant} {requestId : String}
    (hsend : ¬ Sendable requestId) :
    organizationOnboardingReviewGraph deployment instants requestId reviewer s =
      (.error unsendable, s) := by
  have hload : load deployment requestId s = (.error unsendable, s) := by
    unfold load
    rw [Action.bind_of_error (getPendingRequest_of_unsendable hsend)]
  unfold organizationOnboardingReviewGraph
  rw [Action.bind_of_error hload]

theorem handler_of_asksFor {requestId : String} {reviewer : AuthenticatedApplicant}
    (h : invocation.AsksFor requestId reviewer) :
    reviewOnboardingHandler deployment instants invocation s =
      organizationOnboardingReviewGraph deployment instants requestId reviewer s := by
  obtain ⟨principal, command, hprincipal, hcommand, hreviewer, hid⟩ := h
  unfold reviewOnboardingHandler withPrincipal
  rw [hprincipal]
  dsimp only
  rw [validated_bind_of_ok hcommand, validated_bind_of_ok hreviewer, hid]

/-- An invocation that asks for no review fails, whatever is stored. -/
theorem handler_of_not_asksFor (h : ∀ requestId reviewer, ¬ invocation.AsksFor requestId reviewer) :
    ∃ fault, ∀ s : PlatformDatabase lower,
      reviewOnboardingHandler deployment instants invocation s = (.error fault, s) := by
  unfold reviewOnboardingHandler withPrincipal
  cases hprincipal : invocation.principal with
  | none => exact ⟨_, fun s => rfl⟩
  | some principal =>
      cases hcommand : reviewOnboardingCommand invocation.payload with
      | error e => exact ⟨_, fun s => rfl⟩
      | ok command =>
          cases hreviewer : principal.applicant with
          | error e =>
              refine ⟨.validationError e, fun s => ?_⟩
              exact (validated_bind_of_ok rfl _).trans (validated_bind_of_error hreviewer _)
          | ok reviewer =>
              exact absurd ⟨principal, command, hprincipal, hcommand, hreviewer, rfl⟩
                (h command.id reviewer)

/-- The request stands in the same way in both states: the same one of not pending, pending without
a proof, with a proof of another boundary, with a proof of its boundary, or stored so that it is
not valid. -/
def StandsAlike (case : CaseMapping) (s t : PlatformDatabase lower) (requestId : String) : Prop :=
  s.reviewStanding case requestId = t.reviewStanding case requestId

/-- The two reviews end alike, and nothing is stored by either. -/
def RevealsNothing (deployment : OnboardingDeployment) (instants : OnboardingInstants)
    (invocation : CommandInvocation) (s t : PlatformDatabase lower) : Prop :=
  (reviewOnboardingHandler deployment instants invocation s).1 =
      (reviewOnboardingHandler deployment instants invocation t).1 ∧
    (reviewOnboardingHandler deployment instants invocation s).2 = s ∧
    (reviewOnboardingHandler deployment instants invocation t).2 = t

/-- **A review that is not allowed stores nothing, and reveals nothing exactly if the request it
asks for stands alike.** -/
theorem unauthorized_review_reveals_nothing_iff (deployment : OnboardingDeployment)
    (instants : OnboardingInstants) (invocation : CommandInvocation)
    (hdenied : deployment.Denies invocation) (s t : PlatformDatabase lower) :
    (RevealsNothing deployment instants invocation s t ↔
        ∀ requestId reviewer, invocation.AsksFor requestId reviewer → Sendable requestId →
          StandsAlike deployment.case s t requestId) ∧
      (reviewOnboardingHandler deployment instants invocation s).2 = s ∧
      (reviewOnboardingHandler deployment instants invocation t).2 = t := by
  by_cases hasks : ∃ requestId reviewer, invocation.AsksFor requestId reviewer
  · obtain ⟨requestId, reviewer, hask⟩ := hasks
    have hallowed : deployment.mayReviewOnboarding reviewer requestId = false :=
      hdenied requestId reviewer hask
    by_cases hsend : Sendable requestId
    · have hrun : ∀ u : PlatformDatabase lower,
          reviewOnboardingHandler deployment instants invocation u =
            (.error (u.reviewStanding deployment.case requestId).refusal, u) := fun u => by
        rw [handler_of_asksFor hask, review_of_denied hsend hallowed]
      unfold RevealsNothing
      rw [hrun s, hrun t]
      refine ⟨⟨fun h id other hid _ => ?_, fun h => ⟨?_, rfl, rfl⟩⟩, rfl, rfl⟩
      · rw [hask.eq hid]
        exact ReviewStanding.refusal_injective (Except.error.inj h.1)
      · have halike : s.reviewStanding deployment.case requestId =
            t.reviewStanding deployment.case requestId := h requestId reviewer hask hsend
        rw [halike]
    · have hrun : ∀ u : PlatformDatabase lower,
          reviewOnboardingHandler deployment instants invocation u = (.error unsendable, u) :=
        fun u => by rw [handler_of_asksFor hask, review_of_unsendable hsend]
      unfold RevealsNothing
      rw [hrun s, hrun t]
      refine ⟨iff_of_true ⟨rfl, rfl, rfl⟩ fun id other hid hsend' => ?_, rfl, rfl⟩
      rw [hask.eq hid] at hsend'
      exact absurd hsend' hsend
  · have hnone : ∀ requestId reviewer, ¬ invocation.AsksFor requestId reviewer :=
      fun requestId reviewer h => hasks ⟨requestId, reviewer, h⟩
    obtain ⟨fault, hrun⟩ : ∃ fault, ∀ u : PlatformDatabase lower,
        reviewOnboardingHandler deployment instants invocation u = (.error fault, u) :=
      handler_of_not_asksFor hnone
    unfold RevealsNothing
    rw [hrun s, hrun t]
    exact ⟨iff_of_true ⟨rfl, rfl, rfl⟩ fun id other hid => absurd hid (hnone id other), rfl, rfl⟩

end

/-- No organization, and one account. -/
def noOrganizations : PlatformDatabase asciiLower :=
  ⟨[aliceAccount], [], .empty, .empty, .empty, .empty, .empty, .empty, .empty, .empty⟩

/-- The organization that Alice asked for. -/
def aliceOrganization : OrganizationRow := ⟨"org_1", "Acme", .pending, 0, none, by decide⟩

/-- Her request. -/
def aliceRequest : OnboardingRequestRow :=
  ⟨"orgreq_1", "org_1", "platformops", "user_alice", .domain, "acme.example", 0⟩

/-- The tables when it is stored. -/
def aliceAsked : PlatformDatabase asciiLower :=
  { noOrganizations with
    organizations := KeyedTable.empty.insert aliceOrganization (by decide)
    requests := KeyedTable.empty.insert aliceRequest (by decide) }

/-- A deployment that allows nobody to review. -/
def denyingDeployment : OnboardingDeployment :=
  ⟨.asciiOnly, fun _ => emptyDigest, fun _ _ => .ok none, fun _ _ => false⟩

/-- Bob asks to review her request. -/
def bobReviews : CommandInvocation :=
  ⟨⟨.reviewOnboarding, "organization_onboarding_review", true⟩,
    some ⟨"platformops", "user_bob"⟩, Dict.ofPairs [("request_id", .str "orgreq_1")], none⟩

/-- The clock stands still. -/
def instants₀ : OnboardingInstants := ⟨0, 0, 0, 0⟩

theorem bobReviews_asksFor :
    bobReviews.AsksFor "orgreq_1" ⟨"platformops", "user_bob", by decide, by decide⟩ :=
  ⟨⟨"platformops", "user_bob"⟩, ⟨"orgreq_1", by decide⟩, rfl, rfl, rfl, rfl⟩

theorem reviewStanding_aliceAsked :
    aliceAsked.reviewStanding .asciiOnly "orgreq_1" = .unproved := by
  decide

/-- The same tables without the account: the request stands alike, and Bob is told the same. -/
theorem review_without_account_alike :
    denyingDeployment.Denies bobReviews ∧
      RevealsNothing denyingDeployment instants₀ bobReviews aliceAsked
        { aliceAsked with accounts := [] } := by
  refine ⟨fun _ _ _ => rfl, (unauthorized_review_reveals_nothing_iff denyingDeployment instants₀
    bobReviews (fun _ _ _ => rfl) aliceAsked { aliceAsked with accounts := [] }).1.2 ?_⟩
  intro requestId reviewer _ _
  rfl

/-- **Bob may not review, and learns that Alice's request is pending.** -/
theorem denied_review_reveals_request :
    denyingDeployment.Denies bobReviews ∧
      (reviewOnboardingHandler denyingDeployment instants₀ bobReviews noOrganizations).1 =
        .error (activationError "pending onboarding request was not found") ∧
      (reviewOnboardingHandler denyingDeployment instants₀ bobReviews aliceAsked).1 =
        .error (activationError "persisted identity proof is required") ∧
      ¬ RevealsNothing denyingDeployment instants₀ bobReviews noOrganizations aliceAsked := by
  have hsend : Sendable "orgreq_1" := by decide
  have hnone : reviewOnboardingHandler denyingDeployment instants₀ bobReviews noOrganizations =
      (.error ReviewStanding.notPending.refusal, noOrganizations) := by
    rw [handler_of_asksFor bobReviews_asksFor, review_of_denied hsend rfl]
    rfl
  have hunproved : reviewOnboardingHandler denyingDeployment instants₀ bobReviews aliceAsked =
      (.error ReviewStanding.unproved.refusal, aliceAsked) := by
    rw [handler_of_asksFor bobReviews_asksFor, review_of_denied hsend rfl]
    rw [show aliceAsked.reviewStanding denyingDeployment.case "orgreq_1" = .unproved from
      reviewStanding_aliceAsked]
  refine ⟨fun _ _ _ => rfl, by rw [hnone]; rfl, by rw [hunproved]; rfl, ?_⟩
  intro h
  have hsame := h.1
  rw [hnone, hunproved] at hsame
  cases ReviewStanding.refusal_injective (Except.error.inj hsame)

end PlatformOps
