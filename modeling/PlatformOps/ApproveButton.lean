/-
**The button that approves a request.**

A reviewer who looks at a pending request is offered a button to approve it.  A click on it makes the
client of the thread post a command, which the gateway hands to the graph of a reviewer.  What is
offered, what is posted and what is done belong together: the button is offered only where the
request is ready, its click is a command the endpoint takes, and what then decides is the state of
the tables alone.

Main definitions:

* `A2uiAction.ofButton` — what a click on a button reports;
* `approveButton` — the button of a request;
* `ApproveHonest` — the button does what it offers.

Main results:

* `buttonsOf_review` — the buttons of the surface of a review;
* `view_eq_ok`, `review_eq_ok_iff` — what a reviewer sees, and what a review does;
* `handled_of_stream` — what is streamed comes from the handler of an enabled command;
* `approve_button_honest` — **an offered approval is refused only because of what is stored**.
-/

import PlatformOps.ClarificationButtons
import PlatformOps.CommandExchange
import PlatformOps.FourEyes

set_option relaxedAutoImplicit false
set_option autoImplicit false

namespace PlatformOps

/-! ### The button -/

/-- What a click on a button reports: the name of its event, and the values of its context. -/
def A2uiAction.ofButton (button : Json) : Option A2uiAction :=
  (Interaction.clickName button).map fun name =>
    ⟨name, (Interaction.clickContext button).bind Json.asObject⟩

/-- The button of a request. -/
def approveButton (requestId : String) : Json :=
  .obj [("id", .str "approve"), ("component", .str "Button"), ("child", .str "approve-label"),
    ("action", .obj [("event", .obj [("name", .str ControlPlaneCommand.reviewOnboarding.value),
      ("context", .obj [("request_id", .str requestId)])])])]

/-- The context of its event. -/
def approvePayload (requestId : String) : Dict String Json :=
  .ofPairs [("request_id", .str requestId)]

theorem ofButton_approveButton (requestId : String) :
    A2uiAction.ofButton (approveButton requestId) =
      some ⟨"/review-onboard-org", some (approvePayload requestId)⟩ := rfl

theorem isButton_textComponent (id text : String) :
    Interaction.isButton (textComponent id text) = false := rfl

section

variable {α : Type} {texts : PyValue α → String} {command surfaceId : String}

/-- **The surface of a review offers a button exactly if the request is pending and proved.** -/
theorem buttonsOf_review (surfaceId : String) (projection : OnboardingReviewProjection) :
    Interaction.buttonsOf (onboardingReviewToA2uiMessages surfaceId projection) =
      if projection.status = .pending ∧ projection.identityProofRecorded = true then
        [approveButton projection.requestId]
      else [] := by
  unfold onboardingReviewToA2uiMessages
  split
  · rfl
  · rfl

/-- The surface of any other outcome is a column of texts. -/
theorem buttonsOf_outcome (outcome : PyValue α) :
    Interaction.buttonsOf (commandOutcomeToA2uiMessages texts surfaceId command outcome) = [] := by
  refine List.filter_eq_nil_iff.2 fun component hmem => ?_
  have hcomponents : Interaction.componentsOf
      (commandOutcomeToA2uiMessages texts surfaceId command outcome) = _ :: List.map (fun p =>
        textComponent ("field-" ++ p.1) (p.1 ++ ": " ++ PyValue.str texts p.2))
          (shownFields command (if outcome.isDict then outcome else .dict [])).entries :=
    List.append_nil _
  rw [hcomponents] at hmem
  rcases List.mem_cons.1 hmem with rfl | hmem
  · exact Bool.false_ne_true
  · obtain ⟨p, -, rfl⟩ := List.mem_map.1 hmem
    rw [isButton_textComponent]
    exact Bool.false_ne_true

/-- No surface but that of a review offers a button. -/
theorem buttonsOf_of_not_isReview {outcome : PyValue α} (h : outcome.isReview = false) :
    Interaction.buttonsOf (commandResultToA2uiMessages texts surfaceId command outcome) = [] := by
  rw [commandResultToA2uiMessages_eq, commandView_of_not_isReview h]
  split
  · rfl
  · exact buttonsOf_outcome _

/-- A document of JSON is no projection of a review. -/
theorem isReview_ofJson (v : Json) : (PyValue.ofJson v : PyValue α).isReview = false := by
  cases v <;> rfl

end

/-- **Of what the commands end with, only a review that is shown offers a button.** -/
theorem reviewed_of_button {texts : PyValue CommandRecord → String} {runId command : String}
    {outcome : CommandOutcome} {button : Json}
    (h : button ∈ Interaction.buttonsOf (commandMessages texts runId command outcome.value)) :
    ∃ projection, outcome = .pendingReview projection ∧
      projection.identityProofRecorded = true ∧ button = approveButton projection.requestId := by
  unfold commandMessages at h
  by_cases hreview : outcome.value.isReview = true
  · cases outcome with
    | pendingReview projection =>
        rw [show commandResultToA2uiMessages texts (runId ++ "-command") command _ =
          onboardingReviewToA2uiMessages (runId ++ "-command") ⟨projection, .pending⟩ from rfl,
          buttonsOf_review] at h
        split at h
        · rename_i hoffered
          exact ⟨projection, rfl, hoffered.2, List.mem_singleton.1 h⟩
        · cases h
    | provision result =>
        rw [show (CommandOutcome.provision result).value = PyValue.ofJson result from rfl,
          isReview_ofJson] at hreview
        cases hreview
    | registrationPending answer => cases hreview
    | onboarding state => cases hreview
    | review state => cases hreview
    | membership record => cases hreview
  · rw [buttonsOf_of_not_isReview (Bool.eq_false_iff.2 hreview)] at h
    cases h

/-! ### What a reviewer sees, and what a review does -/

section

variable {lower : String → String} {deployment : OnboardingDeployment}
  {d d' : PlatformDatabase lower} {requestId : String} {reviewer : AuthenticatedApplicant}

/-- **What a reviewer sees** is a request they may review; where its proof is shown to be recorded,
the request is ready. -/
theorem view_eq_ok {projection : PendingOnboardingReviewProjection}
    (h : getPendingReview deployment reviewer requestId d = (.ok projection, d')) :
    deployment.mayReviewOnboarding reviewer requestId = true ∧ Sendable requestId ∧
      projection.requestId = requestId ∧ (projection.identityProofRecorded = true →
        ∃ row request proof, d.Ready deployment.case requestId row request proof) := by
  obtain ⟨⟨⟩, d₁, hguard, hrest⟩ := Action.bind_eq_ok_iff.1 h
  obtain ⟨hmay, rfl⟩ := authorize_eq_ok_iff.1 hguard
  by_cases hsend : Sendable requestId
  · refine ⟨hmay, hsend, ?_⟩
    have hfinds : d₁.Finds deployment.case requestId (d₁.reviewStanding deployment.case requestId) :=
      finds_reviewStanding
    generalize d₁.reviewStanding deployment.case requestId = standing at hfinds
    cases hfinds with
    | noRequest hrow =>
        rw [Action.bind_of_ok (getPendingRequest_of_none hsend hrow)] at hrest
        cases hrest
    | invalidRequest hrow hread =>
        rw [Action.bind_of_error (getPendingRequest_of_error hsend hrow hread)] at hrest
        cases hrest
    | noProof hrow hread hfind =>
        obtain rfl := requestId_of_read hrow hread
        rw [Action.bind_of_ok (getPendingRequest_of_ok hsend hrow hread)] at hrest
        dsimp only at hrest
        rw [Action.bind_of_ok (getPersistedIdentityProof_of_none hsend hfind)] at hrest
        cases hrest
        exact ⟨rfl, fun hproved => by cases hproved⟩
    | invalidProof hrow hread hfind hproof =>
        obtain rfl := requestId_of_read hrow hread
        rw [Action.bind_of_ok (getPendingRequest_of_ok hsend hrow hread)] at hrest
        dsimp only at hrest
        rw [Action.bind_of_error (getPersistedIdentityProof_of_error hsend hfind hproof)] at hrest
        cases hrest
    | otherProof hrow hread hfind hproof hmatches =>
        obtain rfl := requestId_of_read hrow hread
        have hrun := getPersistedIdentityProof_of_ok hsend hfind hproof
        rw [if_neg hmatches] at hrun
        rw [Action.bind_of_ok (getPendingRequest_of_ok hsend hrow hread)] at hrest
        dsimp only at hrest
        rw [Action.bind_of_error hrun] at hrest
        cases hrest
    | itsProof hready =>
        have hid := requestId_of_read hready.row_eq hready.request_eq
        rw [Action.bind_of_ok (getPendingRequest_of_ok hsend hready.row_eq hready.request_eq)]
          at hrest
        dsimp only at hrest
        rw [Action.bind_of_ok (getPersistedIdentityProof_of_ready hsend hready)] at hrest
        cases hrest
        exact ⟨hid, fun _ => ⟨_, _, _, hready⟩⟩
  · rw [Action.bind_of_error (getPendingRequest_of_unsendable hsend)] at hrest
    cases hrest

/-- The handler shows its principal what they see. -/
theorem viewed_of_handler {invocation : CommandInvocation}
    {projection : PendingOnboardingReviewProjection}
    (h : viewOnboardingReviewHandler deployment invocation d = (.ok projection, d')) :
    ∃ principal reviewer, ∃ command : IdCommand, invocation.principal = some principal ∧
      principal.applicant = .ok reviewer ∧
      getPendingReview deployment reviewer command.id d = (.ok projection, d') := by
  unfold viewOnboardingReviewHandler withPrincipal at h
  cases hprincipal : invocation.principal with
  | none =>
      rw [hprincipal] at h
      cases h
  | some principal =>
      rw [hprincipal] at h
      obtain ⟨command, -, h⟩ := validated_bind_eq_ok_iff.1 h
      obtain ⟨reviewer, hreviewer, h⟩ := validated_bind_eq_ok_iff.1 h
      exact ⟨principal, reviewer, command, rfl, hreviewer, h⟩

/-- A ready request whose organization is admitted can be activated. -/
theorem canActivate_of_ready {row : OnboardingRequestRow × OrganizationRow}
    {request : OrganizationOnboardingRequest} {proof : IdentityBoundaryVerificationEvidence}
    (h : d.Ready deployment.case requestId row request proof) {instants : OnboardingInstants}
    (hadmits : d.AdmitsActivation (deployment.reviewed instants reviewer request proof)) :
    d.CanActivate deployment.case deployment.sha256
      (deployment.reviewed instants reviewer request proof) row request where
  joined := joined_of_ready h
  pending := (pendingRow_eq_some_iff.1 h.row_eq).2.2
  reads := h.request_eq
  isOf := ⟨rfl, h.matched, rfl, rfl⟩
  admits := hadmits

/-- The state a review of a ready request ends in. -/
def OnboardingDeployment.reviewedState (deployment : OnboardingDeployment)
    (instants : OnboardingInstants) (requestId : String) (reviewer : AuthenticatedApplicant)
    (request : OrganizationOnboardingRequest) (proof : IdentityBoundaryVerificationEvidence) :
    ReviewState :=
  ⟨requestId, reviewer, some request, some proof,
    some (request.approval deployment.sha256 reviewer instants.approvedAt),
    some (deployment.reviewed instants reviewer request proof)⟩

/-- **When a review ends, and with what**: the request is ready, the reviewer may review it, and its
organization can be stored. -/
theorem review_eq_ok_iff {instants : OnboardingInstants} {state : ReviewState} :
    organizationOnboardingReviewGraph deployment instants requestId reviewer d = (.ok state, d') ↔
      Sendable requestId ∧ deployment.mayReviewOnboarding reviewer requestId = true ∧
        ∃ row request proof, d.Ready deployment.case requestId row request proof ∧
          state = deployment.reviewedState instants requestId reviewer request proof ∧
          ∃ h : d.AdmitsActivation (deployment.reviewed instants reviewer request proof),
            d' = d.activated _ h := by
  constructor
  · intro h
    obtain ⟨row, request, proof, hsend, hready, hallowed, -, h⟩ := reviewed_bind_eq_ok_iff.1 h
    obtain ⟨organization, d₁, hactivate, hend⟩ := Action.bind_eq_ok_iff.1 h
    obtain ⟨proof', recorded, hpresents, rfl, hstore⟩ := activateOnboarding_eq_ok_iff.1 hactivate
    cases hpresents.proof_eq
    cases hpresents.approval_eq
    cases hend
    obtain ⟨row', request', hcan, rfl⟩ := activateOrganization_eq_ok_iff.1 hstore
    exact ⟨hsend, hallowed, row, request, proof, hready, rfl, hcan.admits, rfl⟩
  · rintro ⟨hsend, hallowed, row, request, proof, hready, rfl, hadmits, rfl⟩
    have hpending : request.state = .pending := (fields_of_readRequest hready.request_eq).2.2.2.2
    have hpresents : Presents deployment.sha256 request (some proof)
        (some (request.approval deployment.sha256 reviewer instants.approvedAt)) proof
        (request.approval deployment.sha256 reviewer instants.approvedAt) :=
      ⟨hpending, rfl, rfl, hready.matched, rfl, rfl⟩
    have hstore := activateOrganization_eq_ok_iff.2
      ⟨row, request, canActivate_of_ready hready hadmits, rfl⟩
    have hactivate := activateOnboarding_eq_ok_iff.2 ⟨proof, _, hpresents, rfl, hstore⟩
    exact reviewed_bind_eq_ok_iff.2 ⟨row, request, proof, hsend, hready, hallowed, hpending,
      Action.bind_eq_ok_iff.2 ⟨_, _, hactivate, rfl⟩⟩

end

/-! ### What the endpoint makes of both -/

/-- A request to review this request. -/
theorem reviewOnboardingCommand_approvePayload {requestId : String} (h : 8 ≤ requestId.length) :
    reviewOnboardingCommand (approvePayload requestId) = .ok ⟨requestId, h⟩ := by
  have hget : (approvePayload requestId).get? "request_id" = some (.str requestId) := by
    simp [approvePayload, Dict.get?_ofPairs]
  have hextra : forbidExtra "ReviewOnboardingCommand" ["request_id"] (approvePayload requestId) =
      .ok () := rfl
  exact bind_eq_ok_iff.2 ⟨(), hextra, bind_eq_ok_iff.2 ⟨_, textField_of_fits hget h, rfl⟩⟩

/-- The payload of an approval passes the filter. -/
theorem findAuthorityKey_approvePayload (case : CaseMapping) {requestId : String}
    (h : 8 ≤ requestId.length) :
    findAuthorityKey case (.obj (approvePayload requestId).entries) = none := by
  have hvalid : ValidPayload case .reviewOnboarding [("request_id", .str requestId)] :=
    ⟨distinctKeys_one_text _ _, _, reviewOnboardingCommand_approvePayload h⟩
  exact passes_of_valid (by decide) hvalid

section

variable {lower : String → String} {ρ : Type} {deployment : CommandDeployment lower ρ}
  {draws : CommandDraws} {request : CommandRequest} {s s' : CommandState lower ρ}

theorem readBody_ne_stream {body : RequestBody} {threadId runId command : String}
    {outcome : CommandOutcome} :
    readBody deployment body ≠ .error (.stream threadId runId command outcome) := by
  intro h
  match body with
  | .error .jsonDecodeError => cases h
  | .error (.raised error) => cases h
  | .ok value =>
      obtain ⟨detail, hrefused⟩ := exists_of_readCommandBody_error h
      cases hrefused

theorem identify_ne_stream {body : CommandBody} {threadId runId command : String}
    {outcome : CommandOutcome} :
    identify deployment request body ≠ .error (.stream threadId runId command outcome) := by
  intro h
  unfold identify at h
  split at h
  · split at h
    · split at h
      · cases h
      · cases h
    · cases h
  · split at h
    · cases h
    · cases h

/-- **What is streamed comes from the handler** of a command that is enabled. -/
theorem handled_of_stream {threadId runId command : String} {outcome : CommandOutcome}
    (h : commands deployment draws request s = (.stream threadId runId command outcome, s')) :
    ∃ body sent known, readBody deployment request.body = .ok body ∧
      identify deployment request body = .ok sent ∧ body.threadId = threadId ∧
      body.runId = runId ∧ body.command = command ∧
      ControlPlaneCommand.ofValue body.command = some known ∧ known ∈ deployment.enabled ∧
      deployment.handler draws known ⟨known.route, sent.1, sent.2, request.source⟩ s =
        (.ok outcome, s') := by
  unfold commands at h
  cases hbody : readBody deployment request.body with
  | error response =>
      rw [hbody] at h
      cases h
      exact absurd hbody readBody_ne_stream
  | ok body =>
      rw [hbody] at h
      dsimp only at h
      cases hsent : identify deployment request body with
      | error response =>
          rw [hsent] at h
          cases h
          exact absurd hsent identify_ne_stream
      | ok sent =>
          rw [hsent] at h
          dsimp only at h
          rcases hrun : (deployment.router draws).dispatch body.command sent.2 sent.1 request.source s
            with ⟨result, t⟩
          rw [hrun] at h
          cases result with
          | error fault => cases fault <;> cases h
          | ok outcome' =>
              cases h
              unfold ControlPlaneCommandRouter.dispatch at hrun
              cases hcommand : ControlPlaneCommand.ofValue body.command with
              | none =>
                  rw [hcommand] at hrun
                  cases hrun
              | some known =>
                  rw [hcommand] at hrun
                  dsimp only at hrun
                  split at hrun
                  · cases hrun
                  · rw [get?_router] at hrun
                    by_cases henabled : known ∈ deployment.enabled
                    · rw [if_pos henabled] at hrun
                      exact ⟨body, sent, known, rfl, hsent, rfl, rfl, rfl, hcommand, henabled, hrun⟩
                    · rw [if_neg henabled] at hrun
                      cases hrun

/-- An action on the tables ends well exactly if it does on them. -/
theorem onTables_eq_ok_iff {α : Type} {x : PlatformAction lower α} {a : α} :
    (∃ s', onTables x s = (.ok a, s')) ↔ ∃ d, x s.tables = (.ok a, d) := by
  constructor
  · rintro ⟨s', h⟩
    rcases hx : x s.tables with ⟨result, d⟩
    rw [show s = ⟨s.tables, s.others⟩ from rfl, onTables_of_run hx] at h
    cases h
    exact ⟨d, rfl⟩
  · rintro ⟨d, hx⟩
    exact ⟨_, onTables_of_run hx⟩

/-- Whoever is shown a request may review it; where it is shown to be proved, it is ready. -/
theorem viewed_of_stream {threadId runId command : String}
    {projection : PendingOnboardingReviewProjection}
    (h : (commands deployment draws request s).1 =
      .stream threadId runId command (.pendingReview projection)) :
    ∃ principal reviewer, request.principal = some principal ∧ principal.applicant = .ok reviewer ∧
      8 ≤ projection.requestId.length ∧ Sendable projection.requestId ∧
      deployment.onboarding.mayReviewOnboarding reviewer projection.requestId = true ∧
      (projection.identityProofRecorded = true → ∃ row request proof,
        s.tables.Ready deployment.onboarding.case projection.requestId row request proof) := by
  obtain ⟨body, sent, known, -, hsent, -, -, -, hcommand, -, hrun⟩ := handled_of_stream
    (show commands deployment draws request s = (_, (commands deployment draws request s).2) from
      Prod.ext h rfl)
  -- no other command ends with a projection
  cases known with
  | login =>
      obtain ⟨command, t, -, hrun⟩ := Action.bind_eq_ok_iff.1 hrun
      obtain ⟨answer, t, -, hrun⟩ := Action.bind_eq_ok_iff.1 hrun
      cases hrun
  | onboardOrganization =>
      obtain ⟨state, t, -, hrun⟩ := Action.bind_eq_ok_iff.1 hrun
      cases hrun
  | reviewOnboarding =>
      obtain ⟨state, t, -, hrun⟩ := Action.bind_eq_ok_iff.1 hrun
      cases hrun
  | joinOrganization =>
      obtain ⟨membership, t, -, hrun⟩ := Action.bind_eq_ok_iff.1 hrun
      cases hrun
  | provision =>
      obtain ⟨input, t, -, hrun⟩ := Action.bind_eq_ok_iff.1 hrun
      obtain ⟨result, t, -, hrun⟩ := Action.bind_eq_ok_iff.1 hrun
      cases hrun
  | viewOnboardingReview =>
      obtain ⟨found, t, hfound, hend⟩ := Action.bind_eq_ok_iff.1 hrun
      cases hend
      obtain ⟨d, hview⟩ := onTables_eq_ok_iff.1 ⟨_, hfound⟩
      obtain ⟨principal, reviewer, command, hprincipal, hreviewer, hview⟩ := viewed_of_handler hview
      obtain ⟨hmay, hsend, hid, hready⟩ := view_eq_ok hview
      have hsession : request.principal = some principal := by
        unfold identify at hsent
        rw [if_neg (by rw [← value_of_ofValue hcommand]; decide)] at hsent
        cases hsession : request.principal with
        | none =>
            rw [hsession] at hsent
            cases hsent
        | some other =>
            rw [hsession] at hsent
            cases hsent
            exact hprincipal
      rw [hid]
      exact ⟨principal, reviewer, hsession, hreviewer, command.idFits, hsend, hmay, hready⟩

variable (deployment) in
/-- The body of an approval is read back, and it is sent by the principal of the session. -/
theorem read_approval {threadId runId requestId : String} {principal : ValidatedPrincipal}
    (hid : 8 ≤ requestId.length) (hprincipal : request.principal = some principal)
    (hbody : request.body = .ok (postedBody threadId runId "/review-onboard-org"
      (approvePayload requestId))) (hgiven : threadId ≠ "" ∧ runId ≠ "") :
    readBody deployment request.body =
        .ok ⟨threadId, runId, "/review-onboard-org", (approvePayload requestId).entries⟩ ∧
      identify deployment request
          ⟨threadId, runId, "/review-onboard-org", (approvePayload requestId).entries⟩ =
        .ok (some principal, approvePayload requestId) := by
  constructor
  · rw [hbody, readBody_posted, if_pos ⟨hgiven.1, hgiven.2, by decide⟩,
      findAuthorityKey_approvePayload _ hid]
  · have hne : "/review-onboard-org" ≠ ControlPlaneCommand.login.value := by decide
    unfold identify
    rw [if_neg hne, hprincipal]
    rfl

/-- **When the endpoint streams a review** of a request, to whom posts its approval. -/
theorem review_streamed_iff {threadId runId requestId : String} {principal : ValidatedPrincipal}
    (hid : 8 ≤ requestId.length) (hprincipal : request.principal = some principal)
    (hbody : request.body = .ok (postedBody threadId runId "/review-onboard-org"
      (approvePayload requestId))) {state : ReviewState} :
    (commands deployment draws request s).1 =
        .stream threadId runId "/review-onboard-org" (.review state) ↔
      (threadId ≠ "" ∧ runId ≠ "") ∧ .reviewOnboarding ∈ deployment.enabled ∧
        ∃ reviewer d, principal.applicant = .ok reviewer ∧
          organizationOnboardingReviewGraph deployment.onboarding draws.instants requestId reviewer
            s.tables = (.ok state, d) := by
  have hcommand : ControlPlaneCommand.ofValue "/review-onboard-org" = some .reviewOnboarding := by
    decide
  constructor
  · intro h
    obtain ⟨body, sent, known, hread, hsent, -, -, hname, hknown, henabled, hrun⟩ :=
      handled_of_stream
        (show commands deployment draws request s = (_, (commands deployment draws request s).2) from
          Prod.ext h rfl)
    have hgiven : threadId ≠ "" ∧ runId ≠ "" := by
      by_contra hnot
      rw [hbody, readBody_posted, if_neg fun hall => hnot ⟨hall.1, hall.2.1⟩] at hread
      cases hread
    obtain ⟨hread', hsent'⟩ := read_approval deployment hid hprincipal hbody hgiven
    obtain rfl := Except.ok.inj (hread.symm.trans hread')
    obtain rfl := Except.ok.inj (hsent.symm.trans hsent')
    cases hcommand.symm.trans hknown
    obtain ⟨found, t, hfound, hend⟩ := Action.bind_eq_ok_iff.1 hrun
    cases hend
    obtain ⟨d, hreview⟩ := onTables_eq_ok_iff.1 ⟨_, hfound⟩
    obtain ⟨requestId', reviewer, hasks, hreview⟩ := (withPrincipal_reviewer_eq_ok_iff
      (organizationOnboardingReviewGraph deployment.onboarding draws.instants)).1 hreview
    obtain ⟨principal', command, hprincipal', hpayload, hreviewer, rfl⟩ := hasks
    cases hprincipal'
    cases (reviewOnboardingCommand_approvePayload hid).symm.trans hpayload
    exact ⟨hgiven, henabled, reviewer, d, hreviewer, hreview⟩
  · rintro ⟨hgiven, henabled, reviewer, d, hreviewer, hgraph⟩
    obtain ⟨hread, hsent⟩ := read_approval deployment hid hprincipal hbody hgiven
    have hasks : CommandInvocation.AsksFor ⟨ControlPlaneCommand.reviewOnboarding.route,
        some principal, approvePayload requestId, request.source⟩ requestId reviewer :=
      ⟨principal, _, rfl, reviewOnboardingCommand_approvePayload hid, hreviewer, rfl⟩
    have hhandler := (handler_of_asksFor hasks).trans hgraph
    have hrun : deployment.handler draws .reviewOnboarding
        ⟨ControlPlaneCommand.reviewOnboarding.route, some principal, approvePayload requestId,
          request.source⟩ s = (.ok (.review state), ⟨d, s.others⟩) :=
      Action.bind_eq_ok_iff.2 ⟨state, _, onTables_of_run hhandler, rfl⟩
    unfold commands
    rw [hread]
    dsimp only
    rw [hsent]
    dsimp only
    rw [dispatch_of_enabled hcommand henabled (by simp), hrun]

variable (deployment) in
/-- The button that `principal` is offered does what it offers: the request is ready in the tables
that were read; a click on it makes every client that is idle send the approval; and whenever
that is posted for them, it depends on the tables alone whether the organization becomes active. -/
structure ApproveHonest (principal : ValidatedPrincipal) (requestId : String) (button : Json)
    (seen : PlatformDatabase lower) : Prop where
  ready : ∃ row request proof, seen.Ready deployment.onboarding.case requestId row request proof
  clicked : ∃ click, A2uiAction.ofButton button = some click ∧
    ∀ (Surfaces : Type) (lib : ClientLibrary Surfaces) (noSurfaces : Surfaces)
      (steps : List ClientStep),
      ((threadSystem lib).run (createThreadClient noSurfaces) steps).inFlight = [] →
        ((threadSystem lib).run (createThreadClient noSurfaces)
          (steps ++ [.spawn (.action click)])).inFlight =
            [.command "/review-onboard-org" (approvePayload requestId)]
  decided : ∃ reviewer, principal.applicant = .ok reviewer ∧
    ∀ (draws : CommandDraws) (request : CommandRequest) (s : CommandState lower ρ)
      (threadId runId : String) (state : ReviewState), request.principal = some principal →
      request.body = .ok (postedBody threadId runId "/review-onboard-org"
        (approvePayload requestId)) →
      ((commands deployment draws request s).1 =
          .stream threadId runId "/review-onboard-org" (.review state) ↔
        (threadId ≠ "" ∧ runId ≠ "") ∧ .reviewOnboarding ∈ deployment.enabled ∧
          ∃ row started proof,
            s.tables.Ready deployment.onboarding.case requestId row started proof ∧
            s.tables.AdmitsActivation
              (deployment.onboarding.reviewed draws.instants reviewer started proof) ∧
            state = deployment.onboarding.reviewedState draws.instants requestId reviewer started
              proof)

end

/-- A click on the button asks for the command. -/
theorem asks_approve {Surfaces : Type} (lib : ClientLibrary Surfaces) (requestId : String)
    (s : ThreadState Surfaces) :
    (ClientInput.action ⟨"/review-onboard-org", some (approvePayload requestId)⟩).asks lib s =
      some (.command "/review-onboard-org" (approvePayload requestId)) := by
  have hguest : "/review-onboard-org" ≠ "guest.login.submit" := by decide
  have hcommand : JsString.startsWith "/review-onboard-org" "/" = true := by decide
  unfold ClientInput.asks
  dsimp only
  rw [if_neg hguest, if_pos hcommand]
  rfl

/-- **An offered approval is honest**: whatever command the gateway answers, with whatever deployment
and tables, each button of the surface it answers with is offered to the principal of the session,
and does what it offers. -/
theorem approve_button_honest {lower : String → String} {ρ : Type}
    (deployment : CommandDeployment lower ρ) (draws : CommandDraws) (request : CommandRequest)
    (s : CommandState lower ρ) (texts : PyValue CommandRecord → String)
    {threadId runId command : String} {outcome : CommandOutcome} {button : Json}
    (hstream : (commands deployment draws request s).1 = .stream threadId runId command outcome)
    (hbutton : button ∈ Interaction.buttonsOf (commandMessages texts runId command outcome.value)) :
    ∃ principal requestId, request.principal = some principal ∧
      ApproveHonest deployment principal requestId button s.tables := by
  obtain ⟨projection, rfl, hproved, rfl⟩ := reviewed_of_button hbutton
  obtain ⟨principal, reviewer, hprincipal, hreviewer, hid, hsend, hmay, hready⟩ :=
    viewed_of_stream hstream
  refine ⟨principal, projection.requestId, hprincipal, hready hproved, ?_, reviewer, hreviewer, ?_⟩
  · refine ⟨_, ofButton_approveButton _, fun Surfaces lib noSurfaces steps hidle => ?_⟩
    have hserial : (threadSystem lib).Exclusive submitting := exclusive_threadSystem
    have hp := hserial.exclusion (s := createThreadClient noSurfaces) Bool.false_ne_true steps
    rw [System.run_concat, System.inFlight_spawn, hidle, List.nil_append]
    rw [show (threadSystem lib).main = ClientInput.main lib from rfl,
      awaiting_of_idle _ fun hs => hp.held_iff.1 hs hidle, asks_approve]
    rfl
  · intro draws' request' s' threadId' runId' state hprincipal' hbody
    rw [review_streamed_iff hid hprincipal' hbody]
    refine and_congr_right fun _ => and_congr_right fun _ => ?_
    constructor
    · rintro ⟨reviewer', d, hreviewer', hgraph⟩
      cases hreviewer.symm.trans hreviewer'
      obtain ⟨-, -, row, started, proof, hready', rfl, hadmits, -⟩ := review_eq_ok_iff.1 hgraph
      exact ⟨row, started, proof, hready', hadmits, rfl⟩
    · rintro ⟨row, started, proof, hready', hadmits, rfl⟩
      exact ⟨reviewer, _, hreviewer, review_eq_ok_iff.2
        ⟨hsend, hmay, row, started, proof, hready', rfl, hadmits, rfl⟩⟩

/-! ### Bob is offered an approval -/

/-- Alice's request with the proof of its boundary. -/
def aliceProved : PlatformDatabase asciiLower :=
  { aliceAsked with
    proofs := KeyedTable.empty.insert ⟨"orgreq_1", .domain, "acme.example", "dns:1", 0⟩
      (by decide) }

/-- Bob asks to see it. -/
def bobAsksToSee : CommandRequest where
  body := .ok (commandJson "/onboarding-review" (samplePayload .viewOnboardingReview))
  origin := some "https://ops.example"
  principal := some ⟨"platformops", "user_bob"⟩
  source := none
  distinctKeys := by
    rintro value ⟨⟩
    have hvalid : ValidPayload .asciiOnly .viewOnboardingReview
        (samplePayload .viewOnboardingReview) := samplePayload_valid .viewOnboardingReview
    exact distinctKeys_commandJson hvalid.1

/-- What he is shown. -/
def aliceShown : PendingOnboardingReviewProjection :=
  ⟨"orgreq_1", "Acme", "domain", "acme.example", true⟩

theorem response_bobAsksToSee :
    (commands sampleCommands sampleDraws bobAsksToSee ⟨aliceProved, .initial⟩).1 =
      .stream "t1" "r1" "/onboarding-review" (.pendingReview aliceShown) := by
  have hfilter : findAuthorityKey .asciiOnly (.obj (samplePayload .viewOnboardingReview)) = none :=
    passes_of_valid (by simp) (samplePayload_valid .viewOnboardingReview)
  have hbody : readBody sampleCommands bobAsksToSee.body =
      .ok ⟨"t1", "r1", "/onboarding-review", samplePayload .viewOnboardingReview⟩ :=
    readBody_commandJson sampleCommands (by simp) hfilter
  have hsent : identify sampleCommands bobAsksToSee
      ⟨"t1", "r1", "/onboarding-review", samplePayload .viewOnboardingReview⟩ =
      .ok (some ⟨"platformops", "user_bob"⟩, .ofPairs (samplePayload .viewOnboardingReview)) := by
    unfold identify
    rw [if_neg (by decide)]
    rfl
  have hhandler : viewOnboardingReviewHandler sampleCommands.onboarding
      ⟨ControlPlaneCommand.viewOnboardingReview.route, some ⟨"platformops", "user_bob"⟩,
        .ofPairs (samplePayload .viewOnboardingReview), none⟩ aliceProved =
      (.ok aliceShown, aliceProved) := by
    rfl
  have hcommand : ControlPlaneCommand.ofValue "/onboarding-review" = some .viewOnboardingReview := by
    decide
  have henabled : ControlPlaneCommand.viewOnboardingReview ∈ sampleCommands.enabled := by
    simp [sampleCommands]
  have hdispatch : (sampleCommands.router sampleDraws).dispatch "/onboarding-review"
      (.ofPairs (samplePayload .viewOnboardingReview)) (some ⟨"platformops", "user_bob"⟩)
      bobAsksToSee.source ⟨aliceProved, .initial⟩ =
      (.ok (.pendingReview aliceShown), ⟨aliceProved, .initial⟩) := by
    rw [dispatch_of_enabled hcommand henabled (by simp)]
    exact Action.bind_eq_ok_iff.2 ⟨_, _, onTables_of_run hhandler, rfl⟩
  unfold commands
  rw [hbody]
  dsimp only
  rw [hsent]
  dsimp only
  rw [hdispatch]

/-- **Bob is offered to approve Alice's request**, and the offer is honest. -/
theorem bob_is_offered_approval :
    ∃ principal requestId, bobAsksToSee.principal = some principal ∧
      ApproveHonest sampleCommands principal requestId (approveButton "orgreq_1") aliceProved :=
  approve_button_honest sampleCommands sampleDraws bobAsksToSee ⟨aliceProved, .initial⟩
    (fun _ => "") response_bobAsksToSee (List.mem_singleton_self _)

end PlatformOps
