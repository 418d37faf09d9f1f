/-
**Organizations become active by a review only.**

The handlers of `/onboard-org` and of `/review-onboard-org` run as clients of the database: they call
the operations of the repository, and between two of them the identity verifier, or the authorizer of
the reviews, is asked.  Any number of them run at once, over any payloads and any answers; an
operation may be aborted anywhere, and a handler may stop anywhere.

A handler is built once, over one connection that all its calls share.  While each operation begins
on an idle connection it is a transaction of its own, and activations are safe.  An operation that
begins while a transaction is open is a block within that transaction: two reviews at once can leave
an active organization without an approval.

Main definitions:

* `OnboardingQuestion` — what the verifier and the authorizer are asked;
* `onboardOrganizationWorkflow`, `reviewOnboardingWorkflow`, `onboardingApplication`,
  `sharedOnboarding` — the handlers, and the handlers over their connections;
* `Reason` — why a handler opens a transaction;
* `Founded` — what an active organization rests on;
* `OnboardingHistory` — what the committed rows say about the transactions;
* `ActivationSafe` — what makes activations safe.

Main results:

* `OnboardingHistory.commit` — a transaction that commits keeps the invariant;
* `onboarding_safe` — activations are safe where every operation is a transaction of its own;
* `alone_onboarding` — so it is where each handler has a connection of its own;
* `activation_safe` — **while every operation begins alone, an organization is active only after one
  review that was allowed, and rests on its request, its proof and its approval**.
-/

import PlatformOps.ActivationRoundTrip
import PlatformOps.FourEyes
import PlatformOps.OnboardingTransactions
import PlatformOps.SharedConnections

set_option relaxedAutoImplicit false
set_option autoImplicit false

namespace PlatformOps

open ReadCommitted

/-! ### The handlers -/

/-- What a handler asks: the verifier of boundaries, or the authorizer of reviews. -/
inductive OnboardingQuestion
  | verify (request : OrganizationOnboardingRequest) (now : ℕ)
  | mayReviewOnboarding (reviewer : AuthenticatedApplicant) (requestId : String)

/-- The answers to a question. -/
abbrev OnboardingQuestion.Answer : OnboardingQuestion → Type
  | .verify _ _ => Except CommandFault (Option IdentityBoundaryVerificationEvidence)
  | .mayReviewOnboarding _ _ => Bool

/-- What a handler raises: a fault, or what the database raised when it aborted a transaction. -/
inductive HandlerFault
  | raised (fault : CommandFault)
  | databaseFailed

/-- What a handler returns. -/
inductive HandlerResult
  | registered
  | onboarded (state : OrganizationOnboardingState)
  | reviewed (state : ReviewState)

/-- What a handler does. -/
abbrev OnboardingWorkflow := Workflow RepositoryResult RepositoryCall
  (Except HandlerFault HandlerResult) OnboardingQuestion OnboardingQuestion.Answer

/-- Raise a fault. -/
def raise (fault : CommandFault) : OnboardingWorkflow := .done (.error (.raised fault))

/-- Call the repository, and go on with what it returns. -/
def callRepository (call : RepositoryCall) (next : RepositoryAnswer → OnboardingWorkflow) :
    OnboardingWorkflow :=
  .transact call fun
    | none => .done (.error .databaseFailed)
    | some (.error fault) => raise fault
    | some (.ok answer) => next answer

/-- `verify_pending`. -/
def verifyWorkflow (request : OrganizationOnboardingRequest) (now : ℕ)
    (next : Option IdentityBoundaryVerificationEvidence → OnboardingWorkflow) :
    OnboardingWorkflow :=
  if request.state = .pending then
    .ask (.verify request now) fun
      | .error fault => raise fault
      | .ok proof => next proof
  else next none

/-- `persist_identity_proof`. -/
def persistWorkflow (request : OrganizationOnboardingRequest)
    (identityProof : Option IdentityBoundaryVerificationEvidence) (next : OnboardingWorkflow) :
    OnboardingWorkflow :=
  match identityProof with
  | none => next
  | some proof => callRepository (.recordIdentityProof request proof) fun _ => next

section
variable (sha256 : String → HexDigest)

/-- `approve`. -/
def approveWorkflow (request : OrganizationOnboardingRequest) (approver : AuthenticatedApplicant)
    (approvedAt : ℕ) (next : OrganizationOnboardingApproval → OnboardingWorkflow) :
    OnboardingWorkflow :=
  if request.state = .pending then next (request.approval sha256 approver approvedAt)
  else raise (activationError "only a pending request can be approved")

/-- `activate`. -/
def activateWorkflow (request : OrganizationOnboardingRequest)
    (identityProof : Option IdentityBoundaryVerificationEvidence)
    (approval : Option OrganizationOnboardingApproval) (activatedAt : ℕ)
    (next : ActiveOrganization → OnboardingWorkflow) : OnboardingWorkflow :=
  if request.state = .pending then
    match identityProof with
    | none => raise (activationError "identity-boundary verification is required")
    | some proof =>
        if proof.Matches request then
          match approval with
          | none => raise (activationError "recorded approval is required")
          | some approval =>
              if approval.requestId = request.requestId ∧
                  approval.onboardingDigest = onboardingDigest sha256 request then
                callRepository (.activate (request.activated proof approval activatedAt)) fun _ =>
                  next (request.activated proof approval activatedAt)
              else raise (activationError
                "approval does not match the pending onboarding request")
        else raise (activationError
          "identity-proof evidence does not match the requested boundary")
  else raise (activationError "only a pending request can be activated")

/-- The graph of an applicant. -/
def organizationOnboardingWorkflow (generated : GeneratedRequest) (instants : OnboardingInstants)
    (applicant : AuthenticatedApplicant) (onboarding : OrganizationOnboardingStart)
    (reviewer : Option AuthenticatedApplicant) : OnboardingWorkflow :=
  let request := onboarding.request applicant generated instants.createdAt
  callRepository (.savePending request) fun _ =>
    verifyWorkflow request instants.verifiedAt fun identityProof =>
      match proofSucceeded identityProof reviewer with
      | .stop => .done (.ok (.onboarded
          ⟨applicant, onboarding, reviewer, some request, identityProof, none, none⟩))
      | .pendingReview => persistWorkflow request identityProof (.done (.ok (.onboarded
          ⟨applicant, onboarding, reviewer, some request, identityProof, none, none⟩)))
      | .continueToApproval approver => persistWorkflow request identityProof
          (approveWorkflow sha256 request approver instants.approvedAt fun approval =>
            activateWorkflow sha256 request identityProof (some approval) instants.activatedAt
              fun organization => .done (.ok (.onboarded ⟨applicant, onboarding, reviewer,
                some request, identityProof, some approval, some organization⟩)))

/-- The graph of a reviewer. -/
def organizationOnboardingReviewWorkflow (instants : OnboardingInstants) (requestId : String)
    (reviewer : AuthenticatedApplicant) : OnboardingWorkflow :=
  callRepository (.getPendingRequest requestId) fun
    | .request (some request) => callRepository (.getPersistedIdentityProof request) fun
        | .proof (some proof) =>
            .ask (.mayReviewOnboarding reviewer requestId) fun allowed =>
              if allowed = true then
                approveWorkflow sha256 request reviewer instants.approvedAt fun approval =>
                  activateWorkflow sha256 request (some proof) (some approval)
                    instants.activatedAt fun organization => .done (.ok (.reviewed
                      ⟨requestId, reviewer, some request, some proof, some approval,
                        some organization⟩))
              else raise reviewAccessDenied
        | _ => raise (activationError "persisted identity proof is required")
    | _ => raise (activationError "pending onboarding request was not found")

/-- Go on with the principal, unless there is none. -/
def withPrincipalWorkflow (invocation : CommandInvocation) (detail : String)
    (handle : ValidatedPrincipal → OnboardingWorkflow) : OnboardingWorkflow :=
  match invocation.principal with
  | none => raise (.permissionError "PermissionError" detail)
  | some principal => handle principal

/-- Go on with what was validated. -/
def validatedWorkflow {α : Type} (x : Except ValidationError α) (next : α → OnboardingWorkflow) :
    OnboardingWorkflow :=
  match x with
  | .error e => raise (.validationError e)
  | .ok a => next a

variable (case : CaseMapping)

/-- The handler of `/onboard-org`. -/
def onboardOrganizationWorkflow (generated : GeneratedRequest) (instants : OnboardingInstants)
    (invocation : CommandInvocation) : OnboardingWorkflow :=
  withPrincipalWorkflow invocation "validated principal is required" fun principal =>
    validatedWorkflow principal.applicant fun applicant =>
      validatedWorkflow (organizationOnboardingStart case invocation.payload) fun onboarding =>
        organizationOnboardingWorkflow sha256 generated instants applicant onboarding none

/-- The handler of `/review-onboard-org`. -/
def reviewOnboardingWorkflow (instants : OnboardingInstants) (invocation : CommandInvocation) :
    OnboardingWorkflow :=
  withPrincipalWorkflow invocation "validated reviewer principal is required" fun principal =>
    validatedWorkflow (reviewOnboardingCommand invocation.payload) fun command =>
      validatedWorkflow principal.applicant fun reviewer =>
        organizationOnboardingReviewWorkflow sha256 instants command.id reviewer

/-- Who enters: a user who is registered, or the handler of a command, with what it generates and
the instants at which it reads the clock. -/
inductive OnboardingEntry
  | registerUser (account : UserAccount)
  | onboardOrganization (generated : GeneratedRequest) (instants : OnboardingInstants)
      (invocation : CommandInvocation)
  | reviewOnboarding (instants : OnboardingInstants) (invocation : CommandInvocation)

/-- What is done for who enters. -/
def OnboardingEntry.handler : OnboardingEntry → OnboardingWorkflow
  | .registerUser account => callRepository (.registerUser account) fun _ => .done (.ok .registered)
  | .onboardOrganization generated instants invocation =>
      onboardOrganizationWorkflow sha256 case generated instants invocation
  | .reviewOnboarding instants invocation => reviewOnboardingWorkflow sha256 instants invocation

end

/-- The handlers over the database. -/
def onboardingApplication (lower : String → String) (case : CaseMapping)
    (sha256 : String → HexDigest) :
    Application Empty OnboardingKey OnboardingRow RepositoryResult RepositoryCall
      (Except HandlerFault HandlerResult) OnboardingQuestion OnboardingQuestion.Answer
      OnboardingEntry where
  server := onboardingServer lower case sha256
  handler := OnboardingEntry.handler sha256 case

/-- The state of the onboarding. -/
abbrev OnboardingState := AppState Empty OnboardingRow RepositoryResult RepositoryCall
  (Except HandlerFault HandlerResult) OnboardingQuestion OnboardingQuestion.Answer

/-- A step of the onboarding. -/
abbrev OnboardingStep :=
  AppStep RepositoryCall OnboardingQuestion OnboardingQuestion.Answer OnboardingEntry

/-! ### Reasons -/

/-- The boundary is in normal form: read again, it is the same. -/
def OrganizationIdentityBoundary.Canonical (case : CaseMapping)
    (boundary : OrganizationIdentityBoundary) : Prop :=
  ∀ b, organizationIdentityBoundary case boundary.kind boundary.reference = .ok b → b = boundary

theorem canonical_of_ok {case : CaseMapping} {kind : IdentityBoundaryKind} {text : String}
    {boundary : OrganizationIdentityBoundary}
    (h : organizationIdentityBoundary case kind text = .ok boundary) : boundary.Canonical case := by
  intro b hb
  have hfits : FitsLength 1 512 boundary.reference := by
    by_contra hnot
    unfold organizationIdentityBoundary at hb
    rw [if_neg hnot] at hb
    cases hb
  rw [organizationIdentityBoundary_self h hfits] at hb
  cases hb
  rfl

/-- A start that validates has a boundary in normal form. -/
theorem canonical_of_start {case : CaseMapping} {payload : Dict String Json}
    {onboarding : OrganizationOnboardingStart}
    (h : organizationOnboardingStart case payload = .ok onboarding) :
    onboarding.identityBoundary.Canonical case := by
  unfold organizationOnboardingStart at h
  obtain ⟨⟨⟩, -, h⟩ := bind_eq_ok_iff.1 h
  obtain ⟨name, -, h⟩ := bind_eq_ok_iff.1 h
  obtain ⟨boundary, hboundary, h⟩ := bind_eq_ok_iff.1 h
  cases h
  unfold readIdentityBoundary at hboundary
  split at hboundary
  · cases hboundary
  · obtain ⟨⟨⟩, -, hboundary⟩ := bind_eq_ok_iff.1 hboundary
    obtain ⟨kind, -, hboundary⟩ := bind_eq_ok_iff.1 hboundary
    obtain ⟨reference, -, hboundary⟩ := bind_eq_ok_iff.1 hboundary
    exact canonical_of_ok hboundary

/-- Why a handler opens a transaction: a request that is saved is pending, a proof is recorded of a
request that was saved, and an organization is activated that was requested, as the authorizer has
allowed. -/
def Reason (case : CaseMapping) (asked : Set (Sigma OnboardingQuestion.Answer))
    (told : Set (RepositoryCall × RepositoryResult)) : RepositoryCall → Prop
  | .savePending request => request.identityBoundary.Canonical case
  | .recordIdentityProof request _ => ∃ answer, (.savePending request, .ok answer) ∈ told
  | .activate organization => ∃ requestId request,
      (.getPendingRequest requestId, .ok (.request (some request))) ∈ told ∧
      ⟨.mayReviewOnboarding organization.approval.approvedBy requestId, true⟩ ∈ asked ∧
      organization.organizationId = request.organizationId ∧
      organization.initialTenantAdmin = request.applicant
  | _ => True

section
variable {P : Set (Sigma OnboardingQuestion.Answer) → Set (RepositoryCall × RepositoryResult) →
    RepositoryCall → Prop}
  {asked : Set (Sigma OnboardingQuestion.Answer)} {told : Set (RepositoryCall × RepositoryResult)}

/-- A call of the repository goes on with what it has returned. -/
theorem ensures_callRepository {call : RepositoryCall}
    {next : RepositoryAnswer → OnboardingWorkflow} (hreason : P asked told call)
    (hnext : ∀ answer, (next answer).Ensures P asked (insert (call, .ok answer) told)) :
    (callRepository call next).Ensures P asked told := by
  refine ⟨hreason, trivial, ?_⟩
  rintro (fault | answer)
  · exact trivial
  · exact hnext answer

/-- An approval is for the request, and by the approver. -/
theorem ensures_approveWorkflow {sha256 : String → HexDigest}
    {request : OrganizationOnboardingRequest} {approver : AuthenticatedApplicant} {approvedAt : ℕ}
    {next : OrganizationOnboardingApproval → OnboardingWorkflow}
    (hnext : (next (request.approval sha256 approver approvedAt)).Ensures P asked told) :
    (approveWorkflow sha256 request approver approvedAt next).Ensures P asked told := by
  unfold approveWorkflow
  split
  · exact hnext
  · exact trivial

theorem ensures_activateWorkflow {sha256 : String → HexDigest}
    {request : OrganizationOnboardingRequest} {proof : IdentityBoundaryVerificationEvidence}
    {approval : OrganizationOnboardingApproval} {activatedAt : ℕ}
    {next : ActiveOrganization → OnboardingWorkflow}
    (hreason : P asked told (.activate (request.activated proof approval activatedAt)))
    (hnext : ∀ told', (next (request.activated proof approval activatedAt)).Ensures P asked told') :
    (activateWorkflow sha256 request (some proof) (some approval) activatedAt next).Ensures P asked
      told := by
  unfold activateWorkflow
  split
  · dsimp only
    split
    · split
      · exact ensures_callRepository hreason fun answer => hnext _
      · exact trivial
    · exact trivial
  · exact trivial

theorem ensures_withPrincipalWorkflow {invocation : CommandInvocation} {detail : String}
    {handle : ValidatedPrincipal → OnboardingWorkflow}
    (h : ∀ principal, (handle principal).Ensures P asked told) :
    (withPrincipalWorkflow invocation detail handle).Ensures P asked told := by
  unfold withPrincipalWorkflow
  split
  · exact trivial
  · exact h _

theorem ensures_validatedWorkflow {α : Type} {x : Except ValidationError α}
    {next : α → OnboardingWorkflow} (h : ∀ a, x = .ok a → (next a).Ensures P asked told) :
    (validatedWorkflow x next).Ensures P asked told := by
  unfold validatedWorkflow
  split
  · exact trivial
  · exact h _ rfl

/-- The handler of `/onboard-org` saves a request, and may record a proof of it. -/
theorem ensures_onboardOrganizationWorkflow {sha256 : String → HexDigest} {case : CaseMapping}
    {generated : GeneratedRequest} {instants : OnboardingInstants} {invocation : CommandInvocation}
    (hsave : ∀ applicant onboarding,
      organizationOnboardingStart case invocation.payload = .ok onboarding →
        P asked told (.savePending
          (onboarding.request applicant generated instants.createdAt)))
    (hrecord : ∀ request answer asked' proof,
      P asked' (insert (.savePending request, .ok answer) told)
        (.recordIdentityProof request proof)) :
    (onboardOrganizationWorkflow sha256 case generated instants invocation).Ensures P asked told := by
  unfold onboardOrganizationWorkflow
  refine ensures_withPrincipalWorkflow fun principal => ?_
  refine ensures_validatedWorkflow fun applicant _ => ?_
  refine ensures_validatedWorkflow fun onboarding honboarding => ?_
  refine ensures_callRepository (hsave applicant onboarding honboarding) fun answer => ?_
  -- there is no reviewer, so that the graph ends after the proof
  unfold verifyWorkflow
  split
  · rintro (fault | _ | proof)
    · exact trivial
    · exact trivial
    · exact ensures_callRepository (hrecord _ _ _ _) fun _ => trivial
  · exact trivial

/-- The handler of `/review-onboard-org` activates what it has loaded, if it is allowed to. -/
theorem ensures_reviewOnboardingWorkflow {sha256 : String → HexDigest}
    {instants : OnboardingInstants} {invocation : CommandInvocation}
    (hload : ∀ requestId, P asked told (.getPendingRequest requestId))
    (hproof : ∀ told' request, P asked told' (.getPersistedIdentityProof request))
    (hactivate : ∀ requestId request reviewer proof told',
      insert (.getPendingRequest requestId, .ok (.request (some request))) told ⊆ told' →
        P (insert ⟨.mayReviewOnboarding reviewer requestId, true⟩ asked) told'
          (.activate (request.activated proof
            (request.approval sha256 reviewer instants.approvedAt) instants.activatedAt))) :
    (reviewOnboardingWorkflow sha256 instants invocation).Ensures P asked told := by
  unfold reviewOnboardingWorkflow
  refine ensures_withPrincipalWorkflow fun principal => ?_
  refine ensures_validatedWorkflow fun command _ => ?_
  refine ensures_validatedWorkflow fun reviewer _ => ?_
  refine ensures_callRepository (hload command.id) fun answer => ?_
  rcases answer with _ | (_ | request) | _
  · exact trivial
  · exact trivial
  · refine ensures_callRepository (hproof _ request) fun answer => ?_
    rcases answer with _ | _ | (_ | proof)
    · exact trivial
    · exact trivial
    · exact trivial
    · intro allowed
      dsimp only
      split
      · rename_i hallowed
        subst hallowed
        refine ensures_approveWorkflow ?_
        refine ensures_activateWorkflow ?_ fun _ => trivial
        exact hactivate command.id request reviewer proof _ (Set.subset_insert _ _)
      · exact trivial
  · exact trivial

end

section
variable (lower : String → String) (case : CaseMapping) (sha256 : String → HexDigest)

/-- **Every handler has its reasons.** -/
theorem reason_handler (entry : OnboardingEntry) :
    ((onboardingApplication lower case sha256).handler entry).Ensures (Reason case) ∅ ∅ := by
  cases entry with
  | registerUser account =>
      have hregister : Reason case ∅ ∅ (.registerUser account) := trivial
      exact ensures_callRepository hregister fun _ => trivial
  | onboardOrganization generated instants invocation =>
      refine ensures_onboardOrganizationWorkflow ?_ ?_
      · intro applicant onboarding honboarding
        exact canonical_of_start honboarding
      · intro request answer asked proof
        exact ⟨answer, Set.mem_insert _ _⟩
  | reviewOnboarding instants invocation =>
      refine ensures_reviewOnboardingWorkflow (fun _ => trivial) (fun _ _ => trivial) ?_
      intro requestId request reviewer proof told' htold
      exact ⟨requestId, request, htold (Set.mem_insert _ _), Set.mem_insert _ _, rfl, rfl⟩

/-- The entry is that of a review. -/
def OnboardingEntry.IsReview : OnboardingEntry → Prop
  | .reviewOnboarding _ _ => True
  | _ => False

/-- Only a review activates. -/
theorem not_activate_handler {entry : OnboardingEntry} (h : ¬ entry.IsReview) :
    ((onboardingApplication lower case sha256).handler entry).Ensures
      (fun _ _ call => ∀ organization, call ≠ .activate organization) ∅ ∅ := by
  cases entry with
  | registerUser account =>
      refine ensures_callRepository ?_ fun _ => trivial
      intro organization hcall
      cases hcall
  | onboardOrganization generated instants invocation =>
      refine ensures_onboardOrganizationWorkflow ?_ ?_
      · intro applicant onboarding honboarding organization hcall
        cases hcall
      · intro request answer asked proof organization hcall
        cases hcall
  | reviewOnboarding instants invocation => exact absurd trivial h

end

/-! ### What the committed rows say about the transactions -/

/-- What an active organization rests on: a request that is stored, as it is read, with a proof of
its boundary, an approval of what is read by somebody the authorizer has allowed, and the applicant
as the first administrator. -/
structure Founded (case : CaseMapping) (sha256 : String → HexDigest) (σ : OnboardingState)
    (o : OrganizationRow) (r : OnboardingRequestRow) (request : OrganizationOnboardingRequest) :
    Prop where
  stored : σ.db.Stores (.request r)
  joined : r.organizationId = o.organizationId
  reads : readRequest case (r, o) = .ok request
  proved : ∃ p, σ.db.Stores (.proof p) ∧ p.requestId = request.requestId ∧
    p.boundaryKind = request.identityBoundary.kind ∧
    p.boundaryReference = request.identityBoundary.reference
  approved : ∃ approval : OrganizationOnboardingApproval, σ.db.Stores (.approval approval.row) ∧
    approval.requestId = request.requestId ∧
    approval.onboardingDigest = onboardingDigest sha256 request ∧
    ⟨.mayReviewOnboarding approval.approvedBy request.requestId, true⟩ ∈ σ.answers
  administered : ∃ a, σ.db.Stores (.admin a) ∧ a.organizationId = o.organizationId ∧
    a.issuer = request.applicant.issuer ∧ a.userSubject = request.applicant.subject
  activation : ∃ organization answer, σ.db.Returned (.activate organization) (.ok answer) ∧
    organization.organizationId = o.organizationId

/-- The transaction has activated the organization with this id. -/
def Activated (db : OnboardingDatabase) (t : ℕ) (organizationId : String) : Prop :=
  ∃ organization answer snapshot, db.transactions t =
    some ⟨.activate organization, .committed (.ok answer), snapshot⟩ ∧
      organization.organizationId = organizationId

/-- What is known of the committed rows and of the transactions that have committed. -/
structure OnboardingHistory (case : CaseMapping) (sha256 : String → HexDigest)
    (σ : OnboardingState) : Prop where
  saved : ∀ request answer, σ.db.Returned (.savePending request) (.ok answer) →
    σ.db.Stores (.request request.row)
  loaded : ∀ requestId request,
    σ.db.Returned (.getPendingRequest requestId) (.ok (.request (some request))) →
      ∃ r o, σ.db.Stores (.request r) ∧ σ.db.Stores (.organization o) ∧
        o.organizationId = r.organizationId ∧ r.requestId = requestId ∧
        readRequest case (r, o) = .ok request
  done : ∀ t organizationId, Activated σ.db t organizationId →
    ∃ o, σ.db.Stores (.organization o) ∧ o.organizationId = organizationId ∧ o.state = .active
  once : ∀ t t' organizationId, Activated σ.db t organizationId →
    Activated σ.db t' organizationId → t = t'
  canonical : ∀ r, σ.db.Stores (.request r) → ∀ b,
    organizationIdentityBoundary case r.boundaryKind r.boundaryReference = .ok b →
      b.kind = r.boundaryKind ∧ b.reference = r.boundaryReference
  proved : ∀ p, σ.db.Stores (.proof p) → ∃ r, σ.db.Stores (.request r) ∧
    r.requestId = p.requestId ∧ p.boundaryKind = r.boundaryKind ∧
    p.boundaryReference = r.boundaryReference
  active : ∀ o, σ.db.Stores (.organization o) → o.state = .active →
    ∃ r request, Founded case sha256 σ o r request

/-- A request is read the same from an organization of the same name. -/
theorem readRequest_congr (case : CaseMapping) (r : OnboardingRequestRow) {o o' : OrganizationRow}
    (h : o'.organizationName = o.organizationName) :
    readRequest case (r, o') = readRequest case (r, o) := by
  unfold readRequest
  rw [h]

namespace OnboardingHistory

variable {lower : String → String} {case : CaseMapping} {sha256 : String → HexDigest}
  {σ σ' : OnboardingState} {t : ℕ} {call : RepositoryCall} {a : RepositoryResult} {snapshot : ℕ}

/-- Nothing is committed. -/
theorem same (h : OnboardingHistory case sha256 σ)
    (hrows : ∀ i, (σ'.db.slots i).committed = (σ.db.slots i).committed)
    (htransactions : ∀ t call a snapshot,
      σ'.db.transactions t = some ⟨call, .committed a, snapshot⟩ ↔
        σ.db.transactions t = some ⟨call, .committed a, snapshot⟩)
    (hanswers : σ.answers ⊆ σ'.answers) : OnboardingHistory case sha256 σ' := by
  have hstores : ∀ row, σ'.db.Stores row ↔ σ.db.Stores row := fun row => Database.Stores.congr hrows
  have hreturned : ∀ call a, σ'.db.Returned call a ↔ σ.db.Returned call a := by
    intro call a
    unfold Database.Returned
    simp only [htransactions]
  have hactivated : ∀ t organizationId, Activated σ'.db t organizationId ↔
      Activated σ.db t organizationId := by
    intro t organizationId
    unfold Activated
    simp only [htransactions]
  constructor
  · intro request answer
    rw [hreturned, hstores]
    exact h.saved request answer
  · intro requestId request
    simp only [hreturned, hstores]
    exact h.loaded requestId request
  · intro t organizationId
    simp only [hactivated, hstores]
    exact h.done t organizationId
  · intro t t' organizationId
    rw [hactivated, hactivated]
    exact h.once t t' organizationId
  · intro r
    rw [hstores]
    exact h.canonical r
  · intro p
    simp only [hstores]
    exact h.proved p
  · intro o
    rw [hstores]
    intro hstored hactive
    obtain ⟨r, request, hfounded⟩ := h.active o hstored hactive
    obtain ⟨p, hp, hproof⟩ := hfounded.proved
    obtain ⟨approval, happroval, hid, hdigest, hallowed⟩ := hfounded.approved
    obtain ⟨admin, hadmin, hfields⟩ := hfounded.administered
    obtain ⟨organization, answer, hactivation, hsame⟩ := hfounded.activation
    exact ⟨r, request, (hstores _).2 hfounded.stored, hfounded.joined, hfounded.reads,
      ⟨p, (hstores _).2 hp, hproof⟩,
      ⟨approval, (hstores _).2 happroval, hid, hdigest, hanswers hallowed⟩,
      ⟨admin, (hstores _).2 hadmin, hfields⟩,
      ⟨organization, answer, (hreturned _ _).2 hactivation, hsame⟩⟩

/-! A transaction commits. -/

section
variable
  (hassured : Server.Assured OnboardingRow.Evolves (RepositoryCall.Writes case sha256) σ.db)
  (hconstrained : (onboardingServer lower case sha256).Constrained σ.db)
  (here : σ.db.transactions t = some ⟨call, .ready (.ret a), snapshot⟩)
  (hdb : σ'.db = σ.db.commit t call a snapshot) (hanswers : σ'.answers = σ.answers)

include hassured hdb in
/-- A row that is no organization stays. -/
theorem stores_frozen {row : OnboardingRow} (h : σ.db.Stores row)
    (hnot : ∀ o, row ≠ .organization o) : σ'.db.Stores row := by
  obtain ⟨row', hrow', hevolves⟩ :=
    hassured.stores_commit OnboardingRow.Evolves.refl t call a snapshot h
  rw [hevolves.eq hnot] at hrow'
  rw [hdb]
  exact hrow'

include hassured hdb in
/-- An organization stays, and if it changes it is active. -/
theorem stores_organization {o : OrganizationRow} (h : σ.db.Stores (.organization o)) :
    ∃ o', σ'.db.Stores (.organization o') ∧ o'.organizationId = o.organizationId ∧
      o'.organizationName = o.organizationName ∧ (o' = o ∨ o'.state = .active) := by
  obtain ⟨row', hrow', hevolves⟩ :=
    hassured.stores_commit OnboardingRow.Evolves.refl t call a snapshot h
  obtain ⟨o', rfl, hid, hname, hstate⟩ := hevolves.organization
  rw [hdb]
  exact ⟨o', hrow', hid, hname, hstate⟩

/-- What the transaction has seen is stored, or has become active. -/
theorem stores_of_seen {seen : Set OnboardingRow} (hseen : σ.db.Seen OnboardingRow.Evolves seen)
    {row : OnboardingRow} (hrow : row ∈ seen) : ∃ row', σ.db.Stores row' ∧ row.Evolves row' := by
  obtain ⟨i, row', hcommitted, hevolves⟩ := hseen row hrow
  exact ⟨row', ⟨i, hcommitted⟩, hevolves⟩

include here hdb in
/-- An organization that is activated was so before, or is now. -/
theorem activated_cases {t' : ℕ} {organizationId : String}
    (h : Activated σ'.db t' organizationId) :
    (t' = t ∧ ∃ organization answer, call = .activate organization ∧ a = .ok answer ∧
        organization.organizationId = organizationId) ∨ Activated σ.db t' organizationId := by
  obtain ⟨organization, answer, snapshot', h, hid⟩ := h
  rw [hdb] at h
  rcases Database.transactions_commit_cases h with ⟨ht, hset⟩ | ⟨-, hold⟩
  · cases hset
    exact Or.inl ⟨ht, organization, answer, rfl, rfl, hid⟩
  · exact Or.inr ⟨organization, answer, snapshot', hold, hid⟩

include hassured here hdb hanswers in
/-- What an active organization rests on stays. -/
theorem founded_commit {o o' : OrganizationRow} {r : OnboardingRequestRow}
    {request : OrganizationOnboardingRequest} (h : Founded case sha256 σ o r request)
    (hid : o'.organizationId = o.organizationId)
    (hname : o'.organizationName = o.organizationName) :
    Founded case sha256 σ' o' r request := by
  have hfrozen : ∀ {row : OnboardingRow}, σ.db.Stores row → (∀ o, row ≠ .organization o) →
      σ'.db.Stores row := fun hrow hnot => stores_frozen hassured hdb hrow hnot
  obtain ⟨p, hp, hproof⟩ := h.proved
  obtain ⟨approval, happroval, hsame, hdigest, hallowed⟩ := h.approved
  obtain ⟨admin, hadmin, horganization, happlicant⟩ := h.administered
  obtain ⟨organization, answer, hactivation, hactivated⟩ := h.activation
  refine ⟨hfrozen h.stored nofun, h.joined.trans hid.symm,
    (readRequest_congr case r hname).trans h.reads,
    ⟨p, hfrozen hp nofun, hproof⟩,
    ⟨approval, hfrozen happroval nofun, hsame, hdigest, ?_⟩,
    ⟨admin, hfrozen hadmin nofun, horganization.trans hid.symm, happlicant⟩,
    ⟨organization, answer, ?_, hactivated.trans hid.symm⟩⟩
  · rw [hanswers]
    exact hallowed
  · rw [hdb]
    exact hactivation.commit here

include hassured hconstrained hdb hanswers in
/-- **What a transaction has activated rests on what it has to.** -/
theorem founded_of_activation (h : OnboardingHistory case sha256 σ) {seen : Set OnboardingRow}
    (hrows : (σ.db.writeSet t).Only (call.Wrote a))
    (hseen : σ.db.Seen OnboardingRow.Evolves seen) {organization : ActiveOrganization}
    {answer : RepositoryAnswer} (hcall : call = .activate organization) (ha : a = .ok answer)
    {r : OnboardingRequestRow} {o : OrganizationRow} {request : OrganizationOnboardingRequest}
    (hactivation : Activation case sha256 seen (σ.db.writeSet t) organization r o request)
    {asked : Set (Sigma OnboardingQuestion.Answer)} {told : Set (RepositoryCall × RepositoryResult)}
    (hheard : σ.Heard asked told) (hreason : Reason case asked told (.activate organization)) :
    Founded case sha256 σ' (o.activate organization.activatedAt) r request := by
  have hr : σ.db.Stores (.request r) := hactivation.locked.stores_old
  obtain ⟨hjoined, hoid⟩ := hactivation.joined
  obtain ⟨requestId, request₀, htold, hasked, hid₀, hadmin₀⟩ := hreason
  -- the request that was loaded is the one of the row that is locked
  obtain ⟨r₀, o₀, hr₀, -, -, hrid, hread₀⟩ := h.loaded _ _ (hheard.told _ htold)
  have hfields₀ := fields_of_readRequest hread₀
  have hfields := fields_of_readRequest hactivation.reads
  have hsame : OnboardingRow.request r₀ = .request r := by
    refine hconstrained.eq_of_clash hr₀ hr
      ⟨.request (.organizationId r.organizationId), ?_, ?_⟩
    · have horganization : r₀.organizationId = r.organizationId :=
        hfields₀.2.1.symm.trans (hid₀.symm.trans hjoined.symm)
      simp [onboardingServer, onboardingSchema, horganization]
    · simp [onboardingServer, onboardingSchema]
  cases hsame
  have hrequestId : request.requestId = requestId := hfields.1.trans hrid
  have happlicant : request₀.applicant.issuer = request.applicant.issuer ∧
      request₀.applicant.subject = request.applicant.subject :=
    ⟨hfields₀.2.2.1.trans hfields.2.2.1.symm, hfields₀.2.2.2.1.trans hfields.2.2.2.1.symm⟩
  have hboundary := h.canonical r hr _ (boundary_of_readRequest hactivation.reads).2
  have hstores : ∀ {old row}, (σ.db.writeSet t).Has old row → σ'.db.Stores row := by
    intro old row hhas
    rw [hdb]
    exact hhas.stores call a snapshot
  constructor
  · exact stores_frozen hassured hdb hr nofun
  · exact hjoined.trans hoid.symm
  · exact (readRequest_congr case r rfl).trans hactivation.reads
  · obtain ⟨p, hpid, hp⟩ := hactivation.proved
    -- the proof was there, or it is the one of the organization
    have hcases : σ.db.Stores (.proof p) ∨
        p = organization.identityProof.row organization.approval.requestId := by
      rcases hp with hp | ⟨old, i, hp⟩
      · obtain ⟨row', hrow', hevolves⟩ := stores_of_seen hseen hp
        rw [hevolves.eq nofun] at hrow'
        exact Or.inl hrow'
      · have hwrote := hrows i old _ hp
        rw [hcall, ha] at hwrote
        cases hwrote with
        | locked => exact Or.inl ⟨i, (Database.writeSet_eq_some_iff.1 hp).2⟩
        | evidence => exact Or.inr rfl
    rcases hcases with hp | rfl
    · obtain ⟨r', hr', hr'id, hkind, hreference⟩ := h.proved p hp
      have hr'r : OnboardingRow.request r' = .request r := by
        refine hconstrained.eq_of_clash hr' hr ⟨.request (.requestId r.requestId), ?_, ?_⟩
        · have hrequest : r'.requestId = r.requestId := hr'id.trans (hpid.trans hfields.1)
          simp [onboardingServer, onboardingSchema, hrequest]
        · simp [onboardingServer, onboardingSchema]
      cases hr'r
      exact ⟨p, stores_frozen hassured hdb hp nofun, hpid, hkind.trans hboundary.1.symm,
        hreference.trans hboundary.2.symm⟩
    · refine ⟨_, ?_, hpid, hactivation.isOf.2.1.1, hactivation.isOf.2.1.2⟩
      rcases hp with hp | ⟨old, hp⟩
      · obtain ⟨row', hrow', hevolves⟩ := stores_of_seen hseen hp
        rw [hevolves.eq nofun] at hrow'
        exact stores_frozen hassured hdb hrow' nofun
      · exact hstores hp
  · exact ⟨organization.approval, hstores hactivation.approved, hactivation.isOf.2.2.1,
      hactivation.isOf.2.2.2, by rw [hanswers, hrequestId]; exact hheard.asked _ hasked⟩
  · refine ⟨organization.adminRow, hstores hactivation.administered, hoid.symm, ?_, ?_⟩
    · show organization.initialTenantAdmin.issuer = _
      rw [hadmin₀]
      exact happlicant.1
    · show organization.initialTenantAdmin.subject = _
      rw [hadmin₀]
      exact happlicant.2
  · refine ⟨organization, answer, ?_, hoid.symm⟩
    rw [hdb, ← hcall, ← ha]
    exact ⟨t, snapshot, Database.transactions_commit_self ..⟩

include hassured hconstrained here hdb hanswers in
/-- **A transaction commits.** -/
theorem commit (h : OnboardingHistory case sha256 σ) (hjustified : σ.Justified (Reason case)) :
    OnboardingHistory case sha256 σ' := by
  obtain ⟨seen, hseen, hcommits⟩ := hassured.about_to_commit here
  have hwrites : call.Writes case sha256 seen (σ.db.writeSet t) a := hcommits
  obtain ⟨asked, told, hheard, hreason⟩ : ∃ asked told, σ.Heard asked told ∧
      Reason case asked told call := hjustified.calls t call (by rw [Database.call?, here]; rfl)
  have hfrozen : ∀ {row : OnboardingRow}, σ.db.Stores row → (∀ o, row ≠ .organization o) →
      σ'.db.Stores row := fun hrow hnot => stores_frozen hassured hdb hrow hnot
  have hstores : ∀ {old row}, (σ.db.writeSet t).Has old row → σ'.db.Stores row := by
    intro old row hhas
    rw [hdb]
    exact hhas.stores call a snapshot
  have hcases : ∀ {row}, σ'.db.Stores row →
      (∃ i old, σ.db.writeSet t i = some (old, row)) ∨ σ.db.Stores row := by
    intro row hrow
    rw [hdb] at hrow
    rcases Database.stores_commit_cases hrow with ⟨old, i, hwrite⟩ | hold
    · exact Or.inl ⟨i, old, hwrite⟩
    · exact Or.inr hold
  have hreturned : ∀ {call' a'}, σ'.db.Returned call' a' →
      call' = call ∧ a' = a ∨ σ.db.Returned call' a' := by
    intro call' a' hreturned
    rw [hdb] at hreturned
    exact Database.returned_commit_cases hreturned
  -- what an activation that commits has done
  have hactivation : ∀ {organization answer}, call = .activate organization → a = .ok answer →
      ∃ r o request, Activation case sha256 seen (σ.db.writeSet t) organization r o request := by
    rintro organization answer rfl rfl
    exact hwrites.done
  -- its organization was pending, so that no other transaction has activated it
  have hfirst : ∀ {organization answer t' organizationId}, call = .activate organization →
      a = .ok answer → organization.organizationId = organizationId →
      ¬ Activated σ.db t' organizationId := by
    rintro organization answer t' organizationId hcall ha rfl hactivated
    obtain ⟨r, o, request, hdone⟩ := hactivation hcall ha
    obtain ⟨o', ho', hid, hactive⟩ := h.done _ _ hactivated
    have hsame : OnboardingRow.organization o' = .organization o := by
      refine hconstrained.eq_of_clash ho' hdone.activated.stores_old
        ⟨.organization organization.organizationId, ?_, ?_⟩
      · simp [onboardingServer, onboardingSchema, hid]
      · simp [onboardingServer, onboardingSchema, hdone.joined.2]
    cases hsame
    rw [hdone.pending] at hactive
    cases hactive
  constructor
  · intro request answer hanswer
    rcases hreturned hanswer with ⟨rfl, rfl⟩ | hold
    · exact hstores hwrites.done
    · exact hfrozen (h.saved request answer hold) (by simp)
  · intro requestId request hanswer
    obtain ⟨r, o, hr, ho, hjoined, hid, hread⟩ : ∃ r o, σ.db.Stores (.request r) ∧
        σ.db.Stores (.organization o) ∧ o.organizationId = r.organizationId ∧
        r.requestId = requestId ∧ readRequest case (r, o) = .ok request := by
      rcases hreturned hanswer with ⟨rfl, rfl⟩ | hold
      · obtain ⟨r, o, hr, ho, hjoined, hid, hread⟩ := hwrites.done
        obtain ⟨row', hrow', hevolves⟩ := stores_of_seen hseen hr
        rw [hevolves.eq (by simp)] at hrow'
        obtain ⟨row'', hrow'', hevolves'⟩ := stores_of_seen hseen ho
        obtain ⟨o', rfl, hoid, hname, -⟩ := hevolves'.organization
        exact ⟨r, o', hrow', hrow'', hoid.trans hjoined, hid,
          (readRequest_congr case r hname).trans hread⟩
      · exact h.loaded requestId request hold
    obtain ⟨o', ho', hoid, hname, -⟩ := stores_organization hassured hdb ho
    exact ⟨r, o', hfrozen hr (by simp), ho', hoid.trans hjoined, hid,
      (readRequest_congr case r hname).trans hread⟩
  · intro t' organizationId hactivated
    rcases activated_cases here hdb hactivated with ⟨-, organization, answer, hcall, ha, rfl⟩ | hold
    · obtain ⟨r, o, request, hdone⟩ := hactivation hcall ha
      exact ⟨_, hstores hdone.activated, hdone.joined.2, rfl⟩
    · obtain ⟨o, ho, hid, hactive⟩ := h.done t' organizationId hold
      obtain ⟨o', ho', hoid, -, hstate⟩ := stores_organization hassured hdb ho
      refine ⟨o', ho', hoid.trans hid, ?_⟩
      rcases hstate with rfl | hstate
      · exact hactive
      · exact hstate
  · intro t₁ t₂ organizationId h₁ h₂
    rcases activated_cases here hdb h₁ with ⟨ht₁, organization, answer, hcall, ha, hid⟩ | hold₁
    · rcases activated_cases here hdb h₂ with ⟨ht₂, -⟩ | hold₂
      · exact ht₁.trans ht₂.symm
      · exact absurd hold₂ (hfirst hcall ha hid)
    · rcases activated_cases here hdb h₂ with ⟨ht₂, organization, answer, hcall, ha, hid⟩ | hold₂
      · exact absurd hold₁ (hfirst hcall ha hid)
      · exact h.once t₁ t₂ organizationId hold₁ hold₂
  · intro r hr
    rcases hcases hr with ⟨i, old, hwrite⟩ | hold
    · cases hwrites.rows i old _ hwrite with
      | locked => exact h.canonical r ⟨i, (Database.writeSet_eq_some_iff.1 hwrite).2⟩
      | requested request =>
          intro b hb
          have hsame := hreason b hb
          rw [hsame]
          exact ⟨rfl, rfl⟩
    · exact h.canonical r hold
  · intro p hp
    have hbefore : σ.db.Stores (.proof p) → ∃ r, σ'.db.Stores (.request r) ∧
        r.requestId = p.requestId ∧ p.boundaryKind = r.boundaryKind ∧
        p.boundaryReference = r.boundaryReference := by
      intro hold
      obtain ⟨r, hr, hproof⟩ := h.proved p hold
      exact ⟨r, hfrozen hr (by simp), hproof⟩
    rcases hcases hp with ⟨i, old, hwrite⟩ | hold
    · cases hwrites.rows i old _ hwrite with
      | locked => exact hbefore ⟨i, (Database.writeSet_eq_some_iff.1 hwrite).2⟩
      | proved request proof matched =>
          -- the request was saved before the proof is recorded
          obtain ⟨answer, htold⟩ := hreason
          exact ⟨request.row, hfrozen (h.saved _ _ (hheard.told _ htold)) (by simp), rfl,
            matched.1, matched.2⟩
      | evidence organization =>
          obtain ⟨r, o, request, hdone⟩ := hactivation rfl rfl
          have hr : σ.db.Stores (.request r) := hdone.locked.stores_old
          have hboundary := h.canonical r hr _ (boundary_of_readRequest hdone.reads).2
          exact ⟨r, hfrozen hr (by simp),
            (fields_of_readRequest hdone.reads).1.symm.trans hdone.isOf.2.2.1.symm,
            hdone.isOf.2.1.1.trans hboundary.1, hdone.isOf.2.1.2.trans hboundary.2⟩
    · exact hbefore hold
  · intro o ho hactive
    have hbefore : σ.db.Stores (.organization o) → ∃ r request,
        Founded case sha256 σ' o r request := by
      intro hold
      obtain ⟨r, request, hfounded⟩ := h.active o hold hactive
      exact ⟨r, request, founded_commit hassured here hdb hanswers hfounded rfl rfl⟩
    rcases hcases ho with ⟨i, old, hwrite⟩ | hold
    · cases hwrites.rows i old _ hwrite with
      | locked => exact hbefore ⟨i, (Database.writeSet_eq_some_iff.1 hwrite).2⟩
      | organized request hstate pending =>
          have hpending : request.state = .active := hactive
          exact absurd hpending hstate
      | activated organization before same =>
          obtain ⟨r, o, request, hdone⟩ := hactivation rfl rfl
          -- the organization that is activated is the one that was locked
          have hsame : OnboardingRow.organization before = .organization o := by
            refine hconstrained.eq_of_clash ⟨i, (Database.writeSet_eq_some_iff.1 hwrite).2⟩
              hdone.activated.stores_old ⟨.organization organization.organizationId, ?_, ?_⟩
            · simp [onboardingServer, onboardingSchema, same]
            · simp [onboardingServer, onboardingSchema, hdone.joined.2]
          cases hsame
          exact ⟨r, request, founded_of_activation hassured hconstrained hdb hanswers h
            hwrites.rows hseen rfl rfl hdone hheard hreason⟩
    · exact hbefore hold

end

end OnboardingHistory

section
variable (lower : String → String) (case : CaseMapping) (sha256 : String → HexDigest)
  (steps : List OnboardingStep)

theorem constrained_onboarding : (onboardingServer lower case sha256).Constrained
    ((onboardingApplication lower case sha256).after steps).db := by
  obtain ⟨served, hdb⟩ := (onboardingApplication lower case sha256).exists_after steps
  rw [hdb]
  exact Server.constrained_after (keepsKeys_onboardingServer lower case sha256) served

theorem assured_onboarding : Server.Assured OnboardingRow.Evolves
    (RepositoryCall.Writes case sha256)
    ((onboardingApplication lower case sha256).after steps).db := by
  obtain ⟨served, hdb⟩ := (onboardingApplication lower case sha256).exists_after steps
  rw [hdb]
  exact Server.assured_after OnboardingRow.Evolves.refl OnboardingRow.Evolves.trans
    (ensures_onboardingServer lower) served

/-- **What the committed rows say about the transactions holds over every run.** -/
theorem onboardingHistory_after : OnboardingHistory case sha256
    ((onboardingApplication lower case sha256).after steps) := by
  induction steps using List.reverseRecOn with
  | nil =>
      constructor
      · rintro request answer ⟨t, snapshot, h⟩
        cases h
      · rintro requestId request ⟨t, snapshot, h⟩
        cases h
      · rintro t organizationId ⟨organization, answer, snapshot, h, -⟩
        cases h
      · rintro t t' organizationId ⟨organization, answer, snapshot, h, -⟩
        cases h
      · rintro r ⟨i, h⟩
        cases h
      · rintro p ⟨i, h⟩
        cases h
      · rintro o ⟨i, h⟩
        cases h
  | append_singleton steps e ih =>
      have hjustified : ((onboardingApplication lower case sha256).after steps).Justified
          (Reason case) := Application.justified_after steps fun _ entry _ =>
        reason_handler lower case sha256 entry
      have hstep := (onboardingApplication lower case sha256).history_step steps e
      rcases hstep with
        ⟨t, call, a, snapshot, here, hdb, hanswers⟩ | ⟨hrows, htransactions, hanswers⟩
      · exact OnboardingHistory.commit (assured_onboarding lower case sha256 steps)
          (constrained_onboarding lower case sha256 steps) here hdb hanswers ih hjustified
      · exact ih.same hrows htransactions hanswers

/-- Without a review no transaction activates an organization. -/
theorem not_activated_of_no_review (hreviews : ∀ c entry, .enter c entry ∈ steps → ¬ entry.IsReview)
    (t : ℕ) (organizationId : String) :
    ¬ Activated ((onboardingApplication lower case sha256).after steps).db t organizationId := by
  rintro ⟨organization, answer, snapshot, h, -⟩
  have hjustified := Application.justified_after steps fun c entry hmem =>
    not_activate_handler lower case sha256 (hreviews c entry hmem)
  obtain ⟨asked, told, -, hnot⟩ := hjustified.calls t (.activate organization)
    (by rw [Database.call?, h]; rfl)
  exact hnot organization rfl

end

/-- **An organization is active only after one review that was allowed**, where every operation of
the repository is a transaction of its own: an active organization rests on its request, on a proof
of its boundary, on the one approval of the request as it is stored, by somebody the authorizer has
allowed, and has the applicant as its administrator; no organization is activated twice; and without
a review none is. -/
theorem onboarding_safe (lower : String → String) (case : CaseMapping)
    (sha256 : String → HexDigest) (steps : List OnboardingStep) :
    let σ := (onboardingApplication lower case sha256).after steps
    (∀ o, σ.db.Stores (.organization o) → o.state = .active → ∃ r request,
      Founded case sha256 σ o r request ∧
      (∃! i, ∃ a, (σ.db.slots i).committed = some (.approval a) ∧
        a.requestId = request.requestId) ∧
      ∀ a, σ.db.Stores (.admin a) → a.organizationId = o.organizationId →
        a.issuer = request.applicant.issuer ∧ a.userSubject = request.applicant.subject) ∧
    (∀ t t' organizationId, Activated σ.db t organizationId →
      Activated σ.db t' organizationId → t = t') ∧
    ((∀ c entry, .enter c entry ∈ steps → ¬ entry.IsReview) →
      (∀ t organizationId, ¬ Activated σ.db t organizationId) ∧
      ∀ o, σ.db.Stores (.organization o) → o.state ≠ .active) := by
  intro σ
  have hhistory := onboardingHistory_after lower case sha256 steps
  have hconstrained := constrained_onboarding lower case sha256 steps
  refine ⟨?_, hhistory.once, ?_⟩
  · intro o ho hactive
    obtain ⟨r, request, hfounded⟩ := hhistory.active o ho hactive
    refine ⟨r, request, hfounded, ?_, ?_⟩
    · obtain ⟨approval, ⟨i, hi⟩, hid, -⟩ := hfounded.approved
      refine ⟨i, ⟨approval.row, hi, hid⟩, ?_⟩
      rintro j ⟨a, hj, haid⟩
      refine hconstrained.unique j i _ _ (Or.inl hj) (Or.inl hi)
        ⟨.approval request.requestId, ?_, ?_⟩
      · simp [onboardingServer, onboardingSchema, haid]
      · simp [onboardingServer, onboardingSchema, OrganizationOnboardingApproval.row, hid]
    · intro a ha haid
      obtain ⟨a', ha', ha'id, happlicant⟩ := hfounded.administered
      have hsame : OnboardingRow.admin a = .admin a' := by
        refine hconstrained.eq_of_clash ha ha' ⟨.admin o.organizationId, ?_, ?_⟩
        · simp [onboardingServer, onboardingSchema, haid]
        · simp [onboardingServer, onboardingSchema, ha'id]
      cases hsame
      exact happlicant
  · intro hreviews
    have hnone : ∀ t organizationId, ¬ Activated σ.db t organizationId :=
      not_activated_of_no_review lower case sha256 steps hreviews
    refine ⟨hnone, ?_⟩
    intro o ho hactive
    obtain ⟨r, request, hfounded⟩ := hhistory.active o ho hactive
    obtain ⟨organization, answer, ⟨t, snapshot, h⟩, hid⟩ := hfounded.activation
    exact hnone t _ ⟨organization, answer, snapshot, h, hid⟩

/-! ### Handlers that share connections -/

/-- The operations that are a statement without a block. -/
def RepositoryCall.isBare : RepositoryCall → Bool
  | .getPendingRequest _ => true
  | .getPersistedIdentityProof _ => true
  | _ => false

/-- The result is raised. -/
def RepositoryResult.isRaised : RepositoryResult → Bool
  | .error _ => true
  | .ok _ => false

/-- The handlers over the connections with which they were built: the repository that a handler is
built over has one connection, which all its calls share. -/
def sharedOnboarding (lower : String → String) (case : CaseMapping) (sha256 : String → HexDigest)
    (conn : ℕ → ℕ) (autocommit : ℕ → Bool) :
    SharedApplication Empty OnboardingKey OnboardingRow RepositoryResult RepositoryCall
      (Except HandlerFault HandlerResult) OnboardingQuestion OnboardingQuestion.Answer
      OnboardingEntry where
  toApplication := onboardingApplication lower case sha256
  conn := conn
  autocommit := autocommit
  bare := RepositoryCall.isBare
  raises := RepositoryResult.isRaised

/-- The state of the onboarding with its connections. -/
abbrev SharedOnboardingState := SharedState Empty OnboardingRow RepositoryResult RepositoryCall
  (Except HandlerFault HandlerResult) OnboardingQuestion OnboardingQuestion.Answer

/-- This operation has told its handler that the organization with this id is active. -/
def HasActivated (σ : SharedOnboardingState) (t : ℕ) (organizationId : String) : Prop :=
  ∃ organization answer, σ.Returned t (.activate organization) (.ok answer) ∧
    organization.organizationId = organizationId

/-- **What makes activations safe**: an active organization rests on its request, on a proof of its
boundary, on the one approval of the request as it is stored, by somebody the authorizer has
allowed, and has the applicant as its administrator; no two operations activate an organization; and
without a review none does. -/
structure ActivationSafe (case : CaseMapping) (sha256 : String → HexDigest)
    (steps : List OnboardingStep) (σ : SharedOnboardingState) : Prop where
  founded : ∀ o, σ.db.Stores (.organization o) → o.state = .active → ∃ r request,
    Founded case sha256 σ.toAppState o r request ∧
    (∃! i, ∃ a, (σ.db.slots i).committed = some (.approval a) ∧
      a.requestId = request.requestId) ∧
    ∀ a, σ.db.Stores (.admin a) → a.organizationId = o.organizationId →
      a.issuer = request.applicant.issuer ∧ a.userSubject = request.applicant.subject
  once : ∀ t t' organizationId, HasActivated σ t organizationId →
    HasActivated σ t' organizationId → t = t'
  reviewed : (∀ c entry, .enter c entry ∈ steps → ¬ entry.IsReview) →
    (∀ t organizationId, ¬ HasActivated σ t organizationId) ∧
      ∀ o, σ.db.Stores (.organization o) → o.state ≠ .active

section
variable (lower : String → String) (case : CaseMapping) (sha256 : String → HexDigest)
  (conn : ℕ → ℕ) (autocommit : ℕ → Bool)

/-- What an operation raises it raises before it has written anything. -/
theorem raisesOnlyLocked_onboarding :
    (sharedOnboarding lower case sha256 conn autocommit).RaisesOnlyLocked := by
  intro steps t call a snapshot here hraised
  obtain ⟨seen, -, hwrites⟩ := (assured_onboarding lower case sha256 steps).about_to_commit here
  cases a with
  | ok answer => cases hraised
  | error fault =>
      intro i old row hrow
      cases hwrites.rows i old row hrow
      rfl

/-- **Every operation begins alone if each handler has a connection of its own** in autocommit
mode. -/
theorem alone_onboarding (hconn : Function.Injective conn) (steps : List OnboardingStep) :
    (sharedOnboarding lower case sha256 conn fun _ => true).Alone steps :=
  SharedApplication.alone_of_own_connections
    (raisesOnlyLocked_onboarding lower case sha256 conn fun _ => true) hconn (fun _ => rfl) steps

end

/-- **An organization is active only after one review that was allowed**, at every moment of every
run of the handlers in which every operation of the repository begins while no transaction is open
on its connection, and on a connection in autocommit mode if it is a statement without a block:
whatever is interleaved, aborted or abandoned, and whatever the verifier and the authorizer
answer. -/
theorem activation_safe (lower : String → String) (case : CaseMapping)
    (sha256 : String → HexDigest) (conn : ℕ → ℕ) (autocommit : ℕ → Bool)
    {steps : List OnboardingStep}
    (halone : (sharedOnboarding lower case sha256 conn autocommit).Alone steps) :
    ActivationSafe case sha256 steps
      ((sharedOnboarding lower case sha256 conn autocommit).after steps) := by
  obtain ⟨hapart, steps', hsublist, hrun⟩ := SharedApplication.exists_after_of_alone
    (raisesOnlyLocked_onboarding lower case sha256 conn autocommit) halone
  obtain ⟨hfounded, honce, hreviewed⟩ := onboarding_safe lower case sha256 steps'
  have hrun' : ((sharedOnboarding lower case sha256 conn autocommit).after steps).toAppState =
      (onboardingApplication lower case sha256).after steps' := hrun
  rw [← hrun'] at hfounded honce hreviewed
  -- what an operation has returned its own transaction has committed
  have hactivated : ∀ {t organizationId},
      HasActivated ((sharedOnboarding lower case sha256 conn autocommit).after steps) t
        organizationId →
      Activated ((sharedOnboarding lower case sha256 conn autocommit).after steps).db t
        organizationId := by
    rintro t organizationId ⟨organization, answer, hreturned, hid⟩
    obtain ⟨snapshot, hcommitted⟩ := hapart.committed_of_returned hreturned
    exact ⟨organization, answer, snapshot, hcommitted, hid⟩
  constructor
  · exact hfounded
  · intro t t' organizationId h h'
    exact honce t t' organizationId (hactivated h) (hactivated h')
  · intro hnone
    obtain ⟨hnot, hstates⟩ := hreviewed fun c entry hentry => hnone c entry (hsublist.subset hentry)
    exact ⟨fun t organizationId h => hnot t organizationId (hactivated h), hstates⟩

/-- The verifier and the authorizer of a deployment. -/
def OnboardingDeployment.oracle (deployment : OnboardingDeployment) :
    ∀ question : OnboardingQuestion, question.Answer
  | .verify request now => deployment.verify request now
  | .mayReviewOnboarding reviewer requestId => deployment.mayReviewOnboarding reviewer requestId

/-! ### Reviews of one request -/

/-- Alice is registered, and asks for her organization. -/
def aliceHasAsked : List OnboardingStep :=
  [.enter 0 (.registerUser aliceAccount), .submit 0 0, .serve (.statement 0), .serve (.commit 0),
    .resume 0,
    .enter 1 (.onboardOrganization aliceGenerated instants₀ aliceOnboards), .submit 1 1,
    .serve (.statement 1), .serve (.statement 1), .serve (.commit 1), .resume 1,
    .answer 1 trustingDeployment.oracle, .submit 1 2, .serve (.statement 2), .serve (.row 2 2),
    .serve (.statement 2), .serve (.statement 2), .serve (.row 2 1), .serve (.statement 2),
    .serve (.statement 2), .serve (.statement 2), .serve (.commit 2), .resume 1]

/-- A review has loaded her request and its proof, and is allowed. -/
def reviewIsLoaded (c t : ℕ) : List OnboardingStep :=
  [.enter c (.reviewOnboarding instants₀ aliceReviews), .submit c t, .serve (.statement t),
    .serve (.commit t), .resume c, .submit c (t + 1), .serve (.statement (t + 1)),
    .serve (.commit (t + 1)), .resume c, .answer c trustingDeployment.oracle]

/-- An activation has locked her request and her organization, and has found the proof. -/
def requestIsLocked (t : ℕ) : List OnboardingStep :=
  [.serve (.statement t), .serve (.row t 1), .serve (.row t 2), .serve (.statement t),
    .serve (.statement t)]

/-- It stores the state of the organization, the boundary and the administrator, and ends. -/
def organizationIsActive (t : ℕ) : List OnboardingStep :=
  [.serve (.statement t), .serve (.row t 1), .serve (.statement t), .serve (.statement t),
    .serve (.statement t), .serve (.commit t)]

/-- Alice is registered, asks for her organization, and it is reviewed. -/
def aliceIsReviewed : List OnboardingStep :=
  aliceHasAsked ++ reviewIsLoaded 2 3 ++ [.submit 2 5] ++ requestIsLocked 5 ++
    [.serve (.statement 5)] ++ organizationIsActive 5 ++ [.resume 2]

/-- The handlers over one connection. -/
def aliceOnboarding (autocommit : Bool) :=
  sharedOnboarding asciiLower .asciiOnly (fun _ => emptyDigest) (fun _ => 0) fun _ => autocommit

/-- **Alice's organization is active after one review**, over one connection. -/
theorem alice_activation_safe :
    ActivationSafe .asciiOnly (fun _ => emptyDigest) aliceIsReviewed
        ((aliceOnboarding true).after aliceIsReviewed) ∧
      ((((aliceOnboarding true).after aliceIsReviewed).db.slots 1).committed.bind
        (·.organization?)).map OrganizationRow.state = some .active := by
  have halone : (aliceOnboarding true).Alone aliceIsReviewed := by decide +kernel
  refine ⟨activation_safe _ _ _ _ _ halone, ?_⟩
  decide +kernel

/-- Two reviews at once: the second activation begins within the first one, and finds the approval of
the first there.  It fails, and what is undone is that approval. -/
def aliceIsReviewedTwice : List OnboardingStep :=
  aliceHasAsked ++ reviewIsLoaded 2 3 ++ reviewIsLoaded 3 5 ++
    [.submit 2 7] ++ requestIsLocked 7 ++ [.submit 3 8] ++ requestIsLocked 8 ++
    [.serve (.statement 7), .serve (.statement 8)] ++ organizationIsActive 7

/-- One review after the other over a connection that does not commit by itself: the statement that
has loaded the request leaves a transaction open, and the activation is undone with it. -/
def aliceIsReviewedAgain : List OnboardingStep :=
  aliceHasAsked ++ reviewIsLoaded 2 3 ++ [.submit 2 5] ++ requestIsLocked 5 ++
    [.serve (.statement 5)] ++ organizationIsActive 5 ++ [.resume 2, .serve (.abort 3)] ++
    reviewIsLoaded 3 6 ++ [.submit 3 8] ++ requestIsLocked 8 ++
    [.serve (.statement 8)] ++ organizationIsActive 8 ++ [.resume 3]

/-- The approval of a row. -/
def OnboardingRow.approval? : OnboardingRow → Option OnboardingApprovalRow
  | .approval row => some row
  | _ => none

/-- The organization that an operation has activated without the end of a transaction. -/
def activatedWithin (σ : SharedOnboardingState) (t : ℕ) : Option String :=
  match σ.operations t, σ.ended t with
  | some ⟨.activate organization, _, _, _⟩, some (some (.ok _)) => some organization.organizationId
  | _, _ => none

theorem hasActivated_of_within {σ : SharedOnboardingState} {t : ℕ} {organizationId : String}
    (h : activatedWithin σ t = some organizationId) : HasActivated σ t organizationId := by
  unfold activatedWithin at h
  split at h
  · next organization connection index hosted answer hoperation hended =>
      cases h
      exact ⟨organization, answer, ⟨_, hoperation, rfl, Or.inl hended⟩, rfl⟩
  · cases h

/-- Two reviews at once leave an active organization without an approval, and two reviews over a
connection that does not commit by itself activate it twice. -/
theorem alice_reviewed_unsafe :
    ¬ ActivationSafe .asciiOnly (fun _ => emptyDigest) aliceIsReviewedTwice
        ((aliceOnboarding true).after aliceIsReviewedTwice) ∧
      ¬ ActivationSafe .asciiOnly (fun _ => emptyDigest) aliceIsReviewedAgain
        ((aliceOnboarding false).after aliceIsReviewedAgain) := by
  constructor
  · intro hsafe
    have hrows : ((((aliceOnboarding true).after aliceIsReviewedTwice).db.slots 1).committed.bind
          (·.organization?)).map OrganizationRow.state = some .active ∧
        ∀ i < ((aliceOnboarding true).after aliceIsReviewedTwice).db.size,
          ((((aliceOnboarding true).after aliceIsReviewedTwice).db.slots i).committed.bind
            (·.approval?)).isNone = true := by
      decide +kernel
    have hbounded : ((aliceOnboarding true).after aliceIsReviewedTwice).db.Bounded :=
      SharedApplication.bounded_after aliceIsReviewedTwice
    generalize (aliceOnboarding true).after aliceIsReviewedTwice = σ at hsafe hrows hbounded
    obtain ⟨hactive, hnone⟩ := hrows
    obtain ⟨o, hrow, hstate⟩ := Option.map_eq_some_iff.1 hactive
    obtain ⟨row, hcommitted, horganization⟩ := Option.bind_eq_some_iff.1 hrow
    cases row with
    | organization o' =>
        cases horganization
        obtain ⟨r, request, -, ⟨i, ⟨a, happroval, -⟩, -⟩, -⟩ :=
          hsafe.founded o ⟨1, hcommitted⟩ hstate
        by_cases hi : i < σ.db.size
        · have hnot := hnone i hi
          rw [happroval] at hnot
          cases hnot
        · rw [hbounded i (not_lt.1 hi)] at happroval
          cases happroval
    | _ => cases horganization
  · intro hsafe
    obtain ⟨hfirst, hsecond⟩ :
        activatedWithin ((aliceOnboarding false).after aliceIsReviewedAgain) 5 =
            some aliceGenerated.organizationId ∧
          activatedWithin ((aliceOnboarding false).after aliceIsReviewedAgain) 8 =
            some aliceGenerated.organizationId := by
      decide +kernel
    have hsame := hsafe.once 5 8 _ (hasActivated_of_within hfirst) (hasActivated_of_within hsecond)
    exact absurd hsame (by decide)

end PlatformOps
