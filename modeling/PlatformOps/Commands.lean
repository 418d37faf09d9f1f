/-
**The endpoint of the commands.**

A browser posts a command with a payload.  The endpoint reads the body, refuses payloads that name
authority, identifies who sends the command, and dispatches it to the handler of its workflow.  An
outcome is streamed.  Of what a handler raises, an unavailable route, a permission error and a
validation error are answered with a client error; everything else escapes.  So does whatever
reading the body raises, unless it is that the body is no JSON.

Main definitions:

* `CommandRequest`, `CommandResponse` — what is posted and what is answered;
* `ControlPlaneCommandRouter`, `dispatch` — the router;
* `CommandDeployment`, `CommandDeployment.handler` — the workflows and their handlers;
* `readCommandBody`, `readBody`, `identify`, `commands` — the endpoint;
* `CommandDeployment.Admits` — a command finds what it needs in the stores.

Main results:

* `clean_commands_iff_dispatch` — every refusal before the dispatch is a client error;
* `commands_clean_iff` — **the endpoint answers cleanly exactly if the body is read, or is refused
  as no JSON, and the command finds what it needs**.
-/

import PlatformOps.OnboardingAnswers
import PlatformOps.OrganizationMembership
import PlatformOps.ScopeAccess

set_option relaxedAutoImplicit false
set_option autoImplicit false

namespace PlatformOps

/-! ### Routes -/

/-- The command with this text. -/
def ControlPlaneCommand.ofValue (text : String) : Option ControlPlaneCommand :=
  [ControlPlaneCommand.login, .onboardOrganization, .reviewOnboarding, .viewOnboardingReview,
    .joinOrganization, .provision].find? fun command => command.value = text

/-- The route of a command. -/
def ControlPlaneCommand.route : ControlPlaneCommand → CommandRoute
  | .login => ⟨.login, "login_registration", false⟩
  | .onboardOrganization => ⟨.onboardOrganization, "organization_onboarding", true⟩
  | .reviewOnboarding => ⟨.reviewOnboarding, "organization_onboarding_review", true⟩
  | .viewOnboardingReview => ⟨.viewOnboardingReview, "onboarding_administrator_read", true⟩
  | .joinOrganization => ⟨.joinOrganization, "organization_member_onboarding", true⟩
  | .provision => ⟨.provision, "provision", true⟩

theorem ControlPlaneCommand.workflowId_injective :
    Function.Injective fun command : ControlPlaneCommand => command.route.workflowId := by
  intro a b h
  cases a <;> cases b <;> first | rfl | exact absurd h (by decide)

/-! ### The router -/

/-- What a command ends with. -/
inductive CommandOutcome
  | registrationPending (answer : String)
  | onboarding (state : OrganizationOnboardingState)
  | review (state : ReviewState)
  | pendingReview (projection : PendingOnboardingReviewProjection)
  | membership (membership : OrganizationMembership)
  | provision (result : Json)

/-- A handler of a workflow. -/
abbrev WorkflowHandler (σ : Type) := CommandInvocation → Action σ CommandFault CommandOutcome

/-- The router. -/
structure ControlPlaneCommandRouter (σ : Type) where
  handlers : Dict String (WorkflowHandler σ)

/-- `dispatch`. -/
def ControlPlaneCommandRouter.dispatch {σ : Type} (router : ControlPlaneCommandRouter σ)
    (command : String) (payload : Dict String Json) (principal : Option ValidatedPrincipal)
    (source : Option String) : Action σ CommandFault CommandOutcome :=
  match ControlPlaneCommand.ofValue command with
  | none => .raise (.routeUnavailable "unsupported command")
  | some known =>
      if known.route.requiresAuthenticatedSession = true ∧ principal = none then
        .raise (.permissionError "CommandAuthenticationRequired"
          "an authenticated session is required")
      else
        match router.handlers.get? known.route.workflowId with
        | none => .raise (.routeUnavailable "workflow is not enabled")
        | some handler => handler ⟨known.route, principal, payload, source⟩

/-! ### The workflows -/

/-- The tables, and whatever else is stored. -/
structure CommandState (lower : String → String) (ρ : Type) where
  tables : PlatformDatabase lower
  others : ρ

/-- The input of the provision workflow. -/
structure ProvisionWorkflowInvocation where
  principal : PrincipalReference
  scopeId : String
  scopeId_length : 8 ≤ scopeId.length

/-- The principal of a provision, if it is valid. -/
def provisionPrincipal (subject : String) : Except ValidationError PrincipalReference :=
  if h : 1 ≤ subject.length then .ok ⟨.user, subject, h⟩
  else .error ⟨"PrincipalReference", "principal_id"⟩

/-- What the handler of `/provision` passes on to its graph. -/
def provisionInput (principal : Option ValidatedPrincipal) (payload : Dict String Json) :
    Except CommandFault ProvisionWorkflowInvocation :=
  match principal with
  | none => .error (.permissionError "PermissionError" "validated principal is required")
  | some principal => do
      let command ← (provisionCommand payload).mapError .validationError
      let reference ← (provisionPrincipal principal.subject).mapError .validationError
      pure ⟨reference, command.id, command.idFits⟩

/-- The workflows that the commands lead to, and those that are enabled. -/
structure CommandDeployment (lower : String → String) (ρ : Type) where
  onboarding : OnboardingDeployment
  registration : RegistrationService ρ
  invitationHmac : String → HexDigest
  provision : ProvisionWorkflowInvocation → Action (CommandState lower ρ) CommandFault Json
  expectedOrigin : String
  repr : String → String
  enabled : List ControlPlaneCommand

/-- What a command takes from outside: identifiers, tokens and the clock. -/
structure CommandDraws where
  request : GeneratedRequest
  instants : OnboardingInstants
  membership : GeneratedMembership
  inspectedAt : ℕ
  acceptedAt : ℕ
  attempt : GeneratedAttempt
  requestedAt : ℕ

/-- A fault of the registration as a fault of a command. -/
def RegistrationFault.asCommandFault : RegistrationFault → CommandFault
  | .validationError error => .validationError error
  | fault => .valueError fault.typeName fault.text

section
variable {lower : String → String} {ρ : Type} (deployment : CommandDeployment lower ρ)
  (draws : CommandDraws)

/-- An action on the tables. -/
def onTables {α : Type} (x : PlatformAction lower α) :
    Action (CommandState lower ρ) CommandFault α :=
  x.focus (·.tables) fun tables s => { s with tables := tables }

/-- An action of the registration. -/
def onRegistration {α : Type} (x : Action ρ RegistrationFault α) :
    Action (CommandState lower ρ) CommandFault α :=
  (x.mapError RegistrationFault.asCommandFault).focus (·.others)
    fun others s => { s with others := others }

/-- The handler of `/login`. -/
def loginRegistrationHandler : WorkflowHandler (CommandState lower ρ) := fun invocation => do
  let command ← onTables (validated (loginCommand invocation.payload))
  let answer ← onRegistration (requestRegistration deployment.registration command.email
    invocation.source draws.requestedAt draws.attempt)
  pure (.registrationPending answer)

/-- The handler of `/provision`. -/
def provisionHandler : WorkflowHandler (CommandState lower ρ) := fun invocation => do
  let input ← .ofExcept (provisionInput invocation.principal invocation.payload)
  let result ← deployment.provision input
  pure (.provision result)

/-- The handler of the workflow of a command. -/
def CommandDeployment.handler : ControlPlaneCommand → WorkflowHandler (CommandState lower ρ)
  | .login => loginRegistrationHandler deployment draws
  | .onboardOrganization => fun invocation => do
      let state ← onTables (onboardOrganizationHandler deployment.onboarding draws.request
        draws.instants invocation)
      pure (.onboarding state)
  | .reviewOnboarding => fun invocation => do
      let state ← onTables (reviewOnboardingHandler deployment.onboarding draws.instants invocation)
      pure (.review state)
  | .viewOnboardingReview => fun invocation => do
      let projection ← onTables (viewOnboardingReviewHandler deployment.onboarding invocation)
      pure (.pendingReview projection)
  | .joinOrganization => fun invocation => do
      let membership ← onTables (joinOrganizationHandler deployment.invitationHmac
        draws.inspectedAt draws.acceptedAt draws.membership invocation)
      pure (.membership membership)
  | .provision => provisionHandler deployment

/-- The router with the handlers of the enabled commands. -/
def CommandDeployment.router : ControlPlaneCommandRouter (CommandState lower ρ) :=
  ⟨.ofPairs (deployment.enabled.map fun command =>
    (command.route.workflowId, deployment.handler draws command))⟩

/-! ### The endpoint -/

/-- What is posted: the body, as it is read, the origin, whom the session is of, if it is valid, and
the address of the peer. -/
structure CommandRequest where
  body : RequestBody
  origin : Option String
  principal : Option ValidatedPrincipal
  source : Option String
  distinctKeys : ∀ value, body = .ok value → value.DistinctKeys

/-- What is answered, or what escapes: the error of a body that is not read, or the fault of a
handler. -/
inductive CommandResponse
  | stream (threadId runId command : String) (outcome : CommandOutcome)
  | httpError (status : ℕ) (detail : String)
  | unreadable (error : String)
  | unhandled (fault : CommandFault)

/-- The parts of a body. -/
structure CommandBody where
  threadId : String
  runId : String
  command : String
  payload : List (String × Json)

/-- Check what was read of a body. -/
def readCommandBody (value : Json) : Except CommandResponse CommandBody :=
  match value.asObject with
  | none => .error (.httpError 400 "invalid command body")
  | some fields =>
      match (fields.get? "threadId").bind Json.asString, (fields.get? "runId").bind Json.asString,
        (fields.get? "command").bind Json.asString with
      | some threadId, some runId, some command =>
          if threadId ≠ "" ∧ runId ≠ "" ∧ command ≠ "" then
            match (fields.get? "payload").getD (.obj []) with
            | .obj payload =>
                match findAuthorityKey deployment.onboarding.case (.obj payload) with
                | some key =>
                    .error (.httpError 400
                      ("payload field " ++ deployment.repr key ++ " is not accepted"))
                | none => .ok ⟨threadId, runId, command, payload⟩
            | _ => .error (.httpError 400 "payload must be an object")
          else .error (.httpError 400 "threadId, runId and command are required")
      | _, _, _ => .error (.httpError 400 "threadId, runId and command are required")

/-- Read the body of a request.  Only a body that is no JSON is refused; whatever else is raised
escapes. -/
def readBody (body : RequestBody) : Except CommandResponse CommandBody :=
  match body with
  | .error .jsonDecodeError => .error (.httpError 400 "invalid command body")
  | .error (.raised error) => .error (.unreadable error)
  | .ok value => readCommandBody deployment value

/-- Who sends a command, and the payload that is dispatched.  Login is for everybody from the
expected origin; every other command is for the principal of the session. -/
def identify (request : CommandRequest) (body : CommandBody) :
    Except CommandResponse (Option ValidatedPrincipal × Dict String Json) :=
  if body.command = ControlPlaneCommand.login.value then
    if request.origin = some deployment.expectedOrigin then
      match loginCommand (.ofPairs body.payload) with
      | .ok command => .ok (none, .ofPairs [("email", .str command.email)])
      | .error _ => .error (.httpError 400 "invalid login payload")
    else .error (.httpError 403 "command not permitted")
  else
    match request.principal with
    | some principal => .ok (some principal, .ofPairs body.payload)
    | none => .error (.httpError 401 "invalid browser session")

/-- What the endpoint makes of a fault. -/
def answerFault : CommandFault → CommandResponse
  | .routeUnavailable detail => .httpError 404 detail
  | .permissionError _ _ => .httpError 403 "command not permitted"
  | .validationError _ => .httpError 400 "invalid command payload"
  | fault => .unhandled fault

/-- `commands`. -/
def commands (request : CommandRequest) (s : CommandState lower ρ) :
    CommandResponse × CommandState lower ρ :=
  match readBody deployment request.body with
  | .error response => (response, s)
  | .ok body =>
      match identify deployment request body with
      | .error response => (response, s)
      | .ok sent =>
          match (deployment.router draws).dispatch body.command sent.2 sent.1 request.source s with
          | (.ok outcome, s') => (.stream body.threadId body.runId body.command outcome, s')
          | (.error fault, s') => (answerFault fault, s')

end

/-- A stream, or a client error. -/
def CommandResponse.Clean : CommandResponse → Prop
  | .stream _ _ _ _ => True
  | .httpError status _ => 400 ≤ status ∧ status < 500
  | .unreadable _ => False
  | .unhandled _ => False

theorem clean_answerFault_iff {fault : CommandFault} :
    (answerFault fault).Clean ↔ fault.Mapped := by
  cases fault with
  | routeUnavailable detail => simp [answerFault, CommandResponse.Clean, CommandFault.Mapped]
  | permissionError kind detail => simp [answerFault, CommandResponse.Clean, CommandFault.Mapped]
  | validationError error => simp [answerFault, CommandResponse.Clean, CommandFault.Mapped]
  | valueError kind detail => exact Iff.rfl
  | databaseError kind detail => exact Iff.rfl

section
variable {lower : String → String} {ρ : Type} {deployment : CommandDeployment lower ρ}
  {draws : CommandDraws} {s : CommandState lower ρ}

theorem onTables_of_run {α : Type} {x : PlatformAction lower α} {result : Except CommandFault α}
    {tables t : PlatformDatabase lower} {others : ρ} (h : x tables = (result, t)) :
    onTables x ⟨tables, others⟩ = (result, ⟨t, others⟩) := by
  unfold onTables Action.focus
  rw [h]

/-! ### Refusals before the dispatch -/

/-- What is refused of a body that was read is a client error. -/
theorem exists_of_readCommandBody_error {value : Json} {response : CommandResponse}
    (h : readCommandBody deployment value = .error response) :
    ∃ detail, response = .httpError 400 detail := by
  unfold readCommandBody at h
  cases hvalue : value.asObject with
  | none =>
      simp only [hvalue] at h
      cases h
      exact ⟨_, rfl⟩
  | some fields =>
      simp only [hvalue] at h
      split at h
      · split at h
        · split at h
          · split at h
            · cases h
              exact ⟨_, rfl⟩
            · cases h
          · cases h
            exact ⟨_, rfl⟩
        · cases h
          exact ⟨_, rfl⟩
      · cases h
        exact ⟨_, rfl⟩

/-- A body is refused with a client error, unless reading it raises something else. -/
theorem clean_of_readBody_error {body : RequestBody} {response : CommandResponse}
    (h : readBody deployment body = .error response) : response.Clean ↔ body.Decodes := by
  match body with
  | .error .jsonDecodeError =>
      cases h
      exact iff_of_true ⟨by omega, by omega⟩ fun _ h => nomatch h
  | .error (.raised error) =>
      cases h
      exact iff_of_false id fun h => h error rfl
  | .ok value =>
      obtain ⟨detail, rfl⟩ := exists_of_readCommandBody_error h
      exact iff_of_true ⟨by omega, by omega⟩ (.ok value)

/-- A body that is read is JSON. -/
theorem exists_of_readBody {json : RequestBody} {body : CommandBody}
    (h : readBody deployment json = .ok body) :
    ∃ value, json = .ok value ∧ readCommandBody deployment value = .ok body := by
  match json with
  | .error .jsonDecodeError => cases h
  | .error (.raised error) => cases h
  | .ok value => exact ⟨value, rfl, h⟩

/-- The payload of a body that is read passed the filter. -/
theorem findAuthorityKey_of_readBody {json : RequestBody} {body : CommandBody}
    (h : readBody deployment json = .ok body) :
    findAuthorityKey deployment.onboarding.case (.obj body.payload) = none := by
  obtain ⟨value, -, h⟩ := exists_of_readBody h
  unfold readCommandBody at h
  cases hvalue : value.asObject with
  | none =>
      simp only [hvalue] at h
      cases h
  | some fields =>
      simp only [hvalue] at h
      split at h
      · split at h
        · split at h
          · split at h
            · cases h
            · rename_i hnone
              cases h
              exact hnone
          · cases h
        · cases h
      · cases h

theorem clean_of_identify_error {request : CommandRequest} {body : CommandBody}
    {response : CommandResponse} (h : identify deployment request body = .error response) :
    response.Clean := by
  unfold identify at h
  split at h
  · split at h
    · split at h
      · cases h
      · cases h
        exact ⟨by omega, by omega⟩
    · cases h
      exact ⟨by omega, by omega⟩
  · split at h
    · cases h
    · cases h
      exact ⟨by omega, by omega⟩

/-- **The endpoint answers cleanly exactly if the body is read, or is no JSON, and the dispatch
raises nothing but what is answered**, where it is reached. -/
theorem clean_commands_iff_dispatch {request : CommandRequest} :
    (commands deployment draws request s).1.Clean ↔
      request.body.Decodes ∧
      ∀ body sent, readBody deployment request.body = .ok body →
        identify deployment request body = .ok sent →
        Action.RaisesOnly CommandFault.Mapped
          ((deployment.router draws).dispatch body.command sent.2 sent.1 request.source) s := by
  unfold commands
  cases hbody : readBody deployment request.body with
  | error response =>
      refine (clean_of_readBody_error hbody).trans (and_iff_left ?_).symm
      intro body sent h
      cases h
  | ok body =>
      obtain ⟨value, hvalue, -⟩ := exists_of_readBody hbody
      have hdecodes : request.body.Decodes := hvalue ▸ .ok value
      rw [and_iff_right hdecodes]
      dsimp only
      cases hsent : identify deployment request body with
      | error response =>
          refine iff_of_true (clean_of_identify_error hsent) ?_
          intro body' sent h h'
          cases h
          rw [hsent] at h'
          cases h'
      | ok sent =>
          dsimp only
          rcases hrun : (deployment.router draws).dispatch body.command sent.2 sent.1
            request.source s with ⟨result, t⟩
          cases result with
          | ok outcome =>
              refine iff_of_true trivial ?_
              intro body' sent' h h'
              cases h
              rw [hsent] at h'
              cases h'
              exact Action.raisesOnly_of_ok hrun
          | error fault =>
              refine clean_answerFault_iff.trans ⟨fun hfault body' sent' h h' => ?_, fun h => ?_⟩
              · cases h
                rw [hsent] at h'
                cases h'
                exact (Action.raisesOnly_of_error hrun).2 hfault
              · exact (Action.raisesOnly_of_error hrun).1 (h body sent rfl hsent)

/-! ### The dispatch -/

/-- What is looked up under the key of an element. -/
theorem lookup_map_of_injective {α κ β : Type} [DecidableEq α] [DecidableEq κ] {f : α → κ}
    (hf : Function.Injective f) (g : α → β) (l : List α) (a : α) :
    (l.map fun b => (f b, g b)).lookup (f a) = if a ∈ l then some (g a) else none := by
  induction l with
  | nil => rfl
  | cons b l ih =>
      rw [List.map_cons, List.lookup_cons]
      by_cases h : a = b
      · subst h
        simp
      · rw [beq_false_of_ne fun hkey => h (hf hkey)]
        simp [ih, h]

/-- The router has the handlers of the enabled commands. -/
theorem get?_router (command : ControlPlaneCommand) :
    (deployment.router draws).handlers.get? command.route.workflowId =
      if command ∈ deployment.enabled then some (deployment.handler draws command) else none := by
  unfold CommandDeployment.router
  rw [Dict.get?_ofPairs, ← List.map_reverse,
    lookup_map_of_injective ControlPlaneCommand.workflowId_injective (deployment.handler draws)]
  simp

/-- An enabled command is dispatched to its handler. -/
theorem dispatch_of_enabled {text : String} {payload : Dict String Json}
    {principal : Option ValidatedPrincipal} {source : Option String} {command : ControlPlaneCommand}
    (hcommand : ControlPlaneCommand.ofValue text = some command)
    (henabled : command ∈ deployment.enabled)
    (hprincipal : command.route.requiresAuthenticatedSession = true → principal ≠ none) :
    (deployment.router draws).dispatch text payload principal source =
      deployment.handler draws command ⟨command.route, principal, payload, source⟩ := by
  unfold ControlPlaneCommandRouter.dispatch
  rw [hcommand]
  dsimp only
  rw [if_neg fun h => hprincipal h.1 h.2, get?_router, if_pos henabled]

/-- What the dispatch raises is what the handler of the command raises, if that is enabled. -/
theorem raisesOnly_dispatch_iff {text : String} {payload : Dict String Json}
    {principal : Option ValidatedPrincipal} {source : Option String} :
    Action.RaisesOnly CommandFault.Mapped
        ((deployment.router draws).dispatch text payload principal source) s ↔
      ∀ command, ControlPlaneCommand.ofValue text = some command → command ∈ deployment.enabled →
        (command.route.requiresAuthenticatedSession = true → principal ≠ none) →
        Action.RaisesOnly CommandFault.Mapped
          (deployment.handler draws command ⟨command.route, principal, payload, source⟩) s := by
  cases htext : ControlPlaneCommand.ofValue text with
  | none =>
      unfold ControlPlaneCommandRouter.dispatch
      rw [htext]
      refine iff_of_true ((Action.raisesOnly_of_error rfl).2 trivial) ?_
      intro command h
      cases h
  | some known =>
      by_cases hreaches : known ∈ deployment.enabled ∧
          (known.route.requiresAuthenticatedSession = true → principal ≠ none)
      · rw [dispatch_of_enabled htext hreaches.1 hreaches.2]
        constructor
        · intro hrun command h _ _
          cases h
          exact hrun
        · intro hrun
          exact hrun known rfl hreaches.1 hreaches.2
      · refine iff_of_true ?_ fun command h henabled hprincipal => ?_
        · unfold ControlPlaneCommandRouter.dispatch
          rw [htext]
          dsimp only
          by_cases hrefused : known.route.requiresAuthenticatedSession = true ∧ principal = none
          · rw [if_pos hrefused]
            exact (Action.raisesOnly_of_error rfl).2 trivial
          · have hdisabled : known ∉ deployment.enabled := fun henabled =>
              hreaches ⟨henabled, fun hrequires hnone => hrefused ⟨hrequires, hnone⟩⟩
            rw [if_neg hrefused, get?_router, if_neg hdisabled]
            exact (Action.raisesOnly_of_error rfl).2 trivial
        · cases h
          exact absurd ⟨henabled, hprincipal⟩ hreaches

/-! ### The handlers -/

/-- A request for registration raises nothing but what is answered. -/
theorem raisesOnly_loginRegistrationHandler (invocation : CommandInvocation) :
    Action.RaisesOnly CommandFault.Mapped (loginRegistrationHandler deployment draws invocation)
      s := by
  unfold loginRegistrationHandler
  refine Action.raisesOnly_bind_iff.2 ⟨?_, fun command t _ => ?_⟩
  · exact Action.raisesOnly_focus_iff.2 (answered_validated _ _)
  · refine Action.raisesOnly_bind_pure_iff.2 ?_
    refine Action.raisesOnly_focus_iff.2 ?_
    refine Action.raisesOnly_mapError_iff.2 ?_
    intro e t' h
    have hpending := requestRegistration_pending deployment.registration command.email
      invocation.source draws.requestedAt draws.attempt t.others
    rw [h] at hpending
    cases hpending

/-- A payload that passed the filter is none that `/join-org` accepts. -/
theorem raisesOnly_joinOrganization {invocation : CommandInvocation}
    {payload : List (String × Json)} (hpayload : invocation.payload = .ofPairs payload)
    (hfilter : findAuthorityKey deployment.onboarding.case (.obj payload) = none) :
    Action.RaisesOnly CommandFault.Mapped
      (deployment.handler draws .joinOrganization invocation) s := by
  refine Action.raisesOnly_bind_pure_iff.2 (Action.raisesOnly_focus_iff.2 ?_)
  refine answered_withPrincipal_iff.2 fun principal _ => ?_
  refine answered_validated_bind_iff.2 fun acceptance haccept => ?_
  rw [hpayload] at haccept
  exact absurd hfilter (refused_of_accepted_join haccept)

theorem mapped_of_provisionInput {principal : Option ValidatedPrincipal}
    {payload : Dict String Json} {fault : CommandFault}
    (h : provisionInput principal payload = .error fault) : fault.Mapped := by
  unfold provisionInput at h
  cases principal with
  | none =>
      cases h
      trivial
  | some principal =>
      cases hcommand : provisionCommand payload with
      | error e =>
          simp only [hcommand] at h
          cases h
          trivial
      | ok command =>
          cases hreference : provisionPrincipal principal.subject with
          | error e =>
              simp only [hcommand, hreference] at h
              cases h
              trivial
          | ok reference =>
              simp only [hcommand, hreference] at h
              cases h

/-- A provision raises what its graph raises. -/
theorem raisesOnly_provisionHandler_iff {invocation : CommandInvocation} :
    Action.RaisesOnly CommandFault.Mapped (provisionHandler deployment invocation) s ↔
      ∀ input, provisionInput invocation.principal invocation.payload = .ok input →
        Action.RaisesOnly CommandFault.Mapped (deployment.provision input) s := by
  unfold provisionHandler
  cases hinput : provisionInput invocation.principal invocation.payload with
  | error fault =>
      refine iff_of_true ?_ fun input h => nomatch h
      exact (Action.raisesOnly_of_error (Action.ofExcept_error_bind_apply fault _ s)).2
        (mapped_of_provisionInput hinput)
  | ok input =>
      refine Iff.trans (Action.raisesOnly_bind_pure_iff (x := deployment.provision input)) ?_
      constructor
      · intro h input' heq
        cases heq
        exact h
      · intro h
        exact h input rfl

/-! ### When the endpoint answers cleanly -/

/-- The command finds what it needs in the stores. -/
def CommandDeployment.Admits (deployment : CommandDeployment lower ρ) (draws : CommandDraws)
    (s : CommandState lower ρ) (principal : Option ValidatedPrincipal)
    (payload : Dict String Json) : ControlPlaneCommand → Prop
  | .login => True
  | .joinOrganization => True
  | .onboardOrganization => ∀ sender applicant onboarding, principal = some sender →
      sender.applicant = .ok applicant →
      organizationOnboardingStart deployment.onboarding.case payload = .ok onboarding →
      deployment.onboarding.AdmitsStart s.tables
        (onboarding.request applicant draws.request draws.instants.createdAt)
        draws.instants.verifiedAt
  | .reviewOnboarding => ∀ sender command reviewer, principal = some sender →
      reviewOnboardingCommand payload = .ok command → sender.applicant = .ok reviewer →
      deployment.onboarding.AdmitsReview s.tables draws.instants command.id reviewer
  | .viewOnboardingReview => ∀ sender command reviewer, principal = some sender →
      onboardingAdministratorReadCommand payload = .ok command → sender.applicant = .ok reviewer →
      deployment.onboarding.AdmitsView s.tables command.id reviewer
  | .provision => ∀ input, provisionInput principal payload = .ok input →
      Action.RaisesOnly CommandFault.Mapped (deployment.provision input) s

/-- The request is one of this enabled command, by this principal and with this payload. -/
def CommandDeployment.Sends (deployment : CommandDeployment lower ρ) (request : CommandRequest)
    (command : ControlPlaneCommand) (principal : Option ValidatedPrincipal)
    (payload : Dict String Json) : Prop :=
  ∃ body, readBody deployment request.body = .ok body ∧
    identify deployment request body = .ok (principal, payload) ∧
    ControlPlaneCommand.ofValue body.command = some command ∧ command ∈ deployment.enabled

/-- **The handler of a command raises nothing but what is answered** exactly if the command finds
what it needs. -/
theorem raisesOnly_handler_iff {command : ControlPlaneCommand} {source : Option String}
    {principal : Option ValidatedPrincipal} {payload : Dict String Json}
    (hjoin : command = .joinOrganization → ∃ fields, payload = .ofPairs fields ∧
      findAuthorityKey deployment.onboarding.case (.obj fields) = none) :
    Action.RaisesOnly CommandFault.Mapped
        (deployment.handler draws command ⟨command.route, principal, payload, source⟩) s ↔
      deployment.Admits draws s principal payload command := by
  cases command with
  | login => exact iff_of_true (raisesOnly_loginRegistrationHandler _) trivial
  | joinOrganization =>
      obtain ⟨fields, hpayload, hfilter⟩ := hjoin rfl
      exact iff_of_true (raisesOnly_joinOrganization hpayload hfilter) trivial
  | onboardOrganization =>
      refine Action.raisesOnly_bind_pure_iff.trans (Action.raisesOnly_focus_iff.trans ?_)
      exact answered_onboardOrganizationHandler_iff
  | reviewOnboarding =>
      refine Action.raisesOnly_bind_pure_iff.trans (Action.raisesOnly_focus_iff.trans ?_)
      exact answered_reviewOnboardingHandler_iff
  | viewOnboardingReview =>
      refine Action.raisesOnly_bind_pure_iff.trans (Action.raisesOnly_focus_iff.trans ?_)
      exact answered_viewOnboardingReviewHandler_iff
  | provision => exact raisesOnly_provisionHandler_iff

theorem value_of_ofValue {text : String} {command : ControlPlaneCommand}
    (h : ControlPlaneCommand.ofValue text = some command) : command.value = text := by
  simpa using List.find?_some h

/-- Every command but that of login is sent by the principal of the session, with the payload of the
body. -/
theorem identify_of_ne_login {request : CommandRequest} {body : CommandBody}
    {sent : Option ValidatedPrincipal × Dict String Json} {command : ControlPlaneCommand}
    (hsent : identify deployment request body = .ok sent)
    (hcommand : ControlPlaneCommand.ofValue body.command = some command)
    (hlogin : command ≠ .login) : sent.1 ≠ none ∧ sent.2 = .ofPairs body.payload := by
  have hne : body.command ≠ ControlPlaneCommand.login.value := by
    rw [← value_of_ofValue hcommand]
    revert hlogin
    cases command <;> decide
  unfold identify at hsent
  rw [if_neg hne] at hsent
  cases hprincipal : request.principal with
  | none =>
      simp only [hprincipal] at hsent
      cases hsent
  | some principal =>
      simp only [hprincipal] at hsent
      cases hsent
      exact ⟨Option.some_ne_none _, rfl⟩

/-- **The endpoint answers a request with a stream or a client error exactly if its body is read, or
is refused as no JSON, and its command finds what it needs in the stores.** -/
theorem commands_clean_iff (deployment : CommandDeployment lower ρ) (draws : CommandDraws)
    (request : CommandRequest) (s : CommandState lower ρ) :
    (commands deployment draws request s).1.Clean ↔
      request.body.Decodes ∧
      ∀ command principal payload, deployment.Sends request command principal payload →
        deployment.Admits draws s principal payload command := by
  have hjoin : ∀ body sent, readBody deployment request.body = .ok body →
      identify deployment request body = .ok sent →
      ∀ command, ControlPlaneCommand.ofValue body.command = some command →
        command = .joinOrganization → ∃ fields, sent.2 = .ofPairs fields ∧
          findAuthorityKey deployment.onboarding.case (.obj fields) = none := by
    intro body sent hbody hsent command hcommand hjoin
    have hne : command ≠ .login := by simp [hjoin]
    exact ⟨body.payload, (identify_of_ne_login hsent hcommand hne).2,
      findAuthorityKey_of_readBody hbody⟩
  rw [clean_commands_iff_dispatch]
  refine and_congr_right fun _ => ?_
  constructor
  · rintro h command principal payload ⟨body, hbody, hsent, hcommand, henabled⟩
    have hrun := raisesOnly_dispatch_iff.1 (h body (principal, payload) hbody hsent) command
      hcommand henabled fun hrequires => ?_
    · exact (raisesOnly_handler_iff (hjoin body _ hbody hsent command hcommand)).1 hrun
    · refine (identify_of_ne_login hsent hcommand ?_).1
      rintro rfl
      cases hrequires
  · intro h body sent hbody hsent
    refine raisesOnly_dispatch_iff.2 fun command hcommand henabled _ => ?_
    refine (raisesOnly_handler_iff (hjoin body sent hbody hsent command hcommand)).2 ?_
    exact h command sent.1 sent.2 ⟨body, hbody, hsent, hcommand, henabled⟩

end

/-! ### A refusal that escapes -/

/-- Every command is enabled, everybody may review, and nothing can be provisioned. -/
def sampleCommands : CommandDeployment asciiLower RegistrationState where
  onboarding := { denyingDeployment with mayReviewOnboarding := fun _ _ => true }
  registration := ⟨.asciiOnly, inMemoryAttempts, none, fun _ => emptyDigest, 900, none, none,
    quarterHour_pos⟩
  invitationHmac := fun _ => emptyDigest
  provision := fun _ => .raise (.permissionError "PermissionError" "denied")
  expectedOrigin := "https://ops.example"
  repr := fun key => "'" ++ key ++ "'"
  enabled := [.login, .onboardOrganization, .reviewOnboarding, .viewOnboardingReview,
    .joinOrganization, .provision]

/-- Identifiers, and a clock that stands still. -/
def sampleDraws : CommandDraws where
  request := ⟨"00000000000000000000000000000002", "00000000000000000000000000000003", by decide,
    by decide⟩
  instants := instants₀
  membership := ⟨"00000000000000000000000000000004", by decide⟩
  inspectedAt := 0
  acceptedAt := 0
  attempt := ⟨"link", "attempt_1", none⟩
  requestedAt := 0

/-- A body with this command and payload. -/
def commandJson (command : String) (payload : List (String × Json)) : Json :=
  .obj [("threadId", .str "t1"), ("runId", .str "r1"), ("command", .str command),
    ("payload", .obj payload)]

theorem readBody_commandJson {lower : String → String} {ρ : Type}
    (deployment : CommandDeployment lower ρ) {command : String} {payload : List (String × Json)}
    (hcommand : command ≠ "")
    (hfilter : findAuthorityKey deployment.onboarding.case (.obj payload) = none) :
    readBody deployment (.ok (commandJson command payload)) =
      .ok ⟨"t1", "r1", command, payload⟩ := by
  have hget : ∀ key value, (key, value) ∈ [("threadId", Json.str "t1"), ("runId", .str "r1"),
      ("command", .str command), ("payload", .obj payload)] →
      (Dict.ofPairs [("threadId", Json.str "t1"), ("runId", .str "r1"), ("command", .str command),
        ("payload", .obj payload)]).get? key = some value := by
    intro key value hmem
    exact get?_ofPairs_of_mem (by simp) hmem
  unfold readBody readCommandBody commandJson
  simp only [Json.asObject]
  rw [hget "threadId" (.str "t1") (by simp), hget "runId" (.str "r1") (by simp),
    hget "command" (.str command) (by simp), hget "payload" (.obj payload) (by simp)]
  simp [Json.asString, hcommand, hfilter]

theorem distinctKeys_commandJson {command : String} {payload : List (String × Json)}
    (h : (Json.obj payload).DistinctKeys) : (commandJson command payload).DistinctKeys := by
  refine .obj (by simp) fun field hfield => ?_
  simp only [List.mem_cons, List.not_mem_nil, or_false] at hfield
  rcases hfield with rfl | rfl | rfl | rfl
  · exact .str _
  · exact .str _
  · exact .str _
  · exact h

/-- Bob posts the review of a request. -/
def bobPosts : CommandRequest where
  body := .ok (commandJson "/review-onboard-org" (samplePayload .reviewOnboarding))
  origin := some "https://ops.example"
  principal := some ⟨"platformops", "user_bob"⟩
  source := none
  distinctKeys := by
    rintro value ⟨⟩
    have hvalid : ValidPayload .asciiOnly .reviewOnboarding (samplePayload .reviewOnboarding) :=
      samplePayload_valid .reviewOnboarding
    exact distinctKeys_commandJson hvalid.1

theorem response_bobPosts :
    (commands sampleCommands sampleDraws bobPosts ⟨noOrganizations, .initial⟩).1 =
      .unhandled (activationError "pending onboarding request was not found") := by
  have hfilter : findAuthorityKey .asciiOnly (.obj (samplePayload .reviewOnboarding)) = none :=
    passes_of_valid (by simp) (samplePayload_valid .reviewOnboarding)
  have hbody : readBody sampleCommands bobPosts.body =
      .ok ⟨"t1", "r1", "/review-onboard-org", samplePayload .reviewOnboarding⟩ :=
    readBody_commandJson sampleCommands (by simp) hfilter
  have hsent : identify sampleCommands bobPosts
      ⟨"t1", "r1", "/review-onboard-org", samplePayload .reviewOnboarding⟩ =
      .ok (some ⟨"platformops", "user_bob"⟩, .ofPairs (samplePayload .reviewOnboarding)) := by
    unfold identify
    rw [if_neg (by decide)]
    rfl
  have hload : load sampleCommands.onboarding "orgreq_1" noOrganizations =
      (.error (activationError "pending onboarding request was not found"), noOrganizations) := by
    have hnone : noOrganizations.reviewStanding sampleCommands.onboarding.case "orgreq_1" =
        .notPending := rfl
    rw [load_of_not_ready (by decide) (by rw [hnone]; simp), hnone]
    rfl
  have hreview : organizationOnboardingReviewGraph sampleCommands.onboarding sampleDraws.instants
      "orgreq_1" ⟨"platformops", "user_bob", by decide, by decide⟩ noOrganizations =
      (.error (activationError "pending onboarding request was not found"), noOrganizations) := by
    unfold organizationOnboardingReviewGraph
    rw [Action.bind_of_error hload]
  have hhandler : reviewOnboardingHandler sampleCommands.onboarding sampleDraws.instants
      ⟨ControlPlaneCommand.reviewOnboarding.route, some ⟨"platformops", "user_bob"⟩,
        .ofPairs (samplePayload .reviewOnboarding), none⟩ noOrganizations =
      (.error (activationError "pending onboarding request was not found"), noOrganizations) :=
    (handler_of_asksFor ⟨_, ⟨"orgreq_1", by decide⟩, rfl, rfl, rfl, rfl⟩).trans hreview
  have hcommand : ControlPlaneCommand.ofValue "/review-onboard-org" = some .reviewOnboarding := by
    decide
  have henabled : ControlPlaneCommand.reviewOnboarding ∈ sampleCommands.enabled := by
    simp [sampleCommands]
  have hdispatch : (sampleCommands.router sampleDraws).dispatch "/review-onboard-org"
      (.ofPairs (samplePayload .reviewOnboarding)) (some ⟨"platformops", "user_bob"⟩)
      bobPosts.source ⟨noOrganizations, .initial⟩ =
      (.error (activationError "pending onboarding request was not found"),
        ⟨noOrganizations, .initial⟩) := by
    rw [dispatch_of_enabled hcommand henabled (by simp)]
    exact Action.bind_of_error (onTables_of_run hhandler) _
  unfold commands
  rw [hbody]
  dsimp only
  rw [hsent]
  dsimp only
  rw [hdispatch]
  rfl

/-- **A refusal escapes the endpoint**: Bob may review, but there is no such request. -/
theorem review_of_unknown_request_escapes :
    (commands sampleCommands sampleDraws bobPosts ⟨noOrganizations, .initial⟩).1 =
        .unhandled (activationError "pending onboarding request was not found") ∧
      ¬ (commands sampleCommands sampleDraws bobPosts ⟨noOrganizations, .initial⟩).1.Clean := by
  refine ⟨response_bobPosts, ?_⟩
  rw [response_bobPosts]
  exact id

end PlatformOps
