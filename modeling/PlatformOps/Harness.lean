/-
**The harness.**

Every transport calls one harness object, which classifies a request, hands it to the provision
workflow, and keeps the clarifications that wait for an answer in a table keyed by the request id.
Its two methods are coroutines: they give up control only while they await a workflow, and between
two awaits they run alone.

Main definitions:

* `ActorSession`, `HITLEvent`, `PlatformOpsEvent` — who calls, and what a call returns;
* `PendingClarification`, `HarnessState` — a clarification that waits for an answer, and the table;
* `classify`, `dispatchProvision`, `startRun`, `resumeClarification` — the methods;
* `harness` — the system of their calls;
* `ResumeValid`, `Await.asks` — the resumes that pass validation, and the answers of a workflow that
  ask a question.

Main results:

* `run_resume_of_valid`, `run_resume_of_not_valid` — **a valid resume takes the clarification out of
  the table and awaits its workflow; every other resume raises a `ValueError` and changes nothing**;
* `suspends_suspended` — a call waits for the intake or for the provision workflow, on its own
  request id;
* `run_answered` — what the answer to a waiting call does to the table;
* `step_effect` — **a step keeps the table, takes the caller's own clarification out, or stores a
  question of the caller under the caller's request id**.
-/

import PlatformOps.Coroutine
import PlatformOps.ProvisionRequest

set_option relaxedAutoImplicit false
set_option autoImplicit false

namespace PlatformOps

/-! ### The dispatcher -/

/-- The routes that have a handler. -/
def routeRegistry : List String := ["provision"]

/-- The tenants that may use an intent. -/
def tenantPolicy : List ((String × Intent) × Bool) := [(("aiq:it", .provision), true)]

/-- Deny by default: a pair without an entry is not allowed. -/
def checkTenantPolicy (orgBu : String) (intent : Intent) : Bool :=
  (tenantPolicy.lookup (orgBu, intent)).getD false

/-- The known workspaces. -/
def knownWorkspaces : List Scope := [⟨"aiq", "it", some "invoices", some "dev"⟩]

/-! ### Sessions and events -/

/-- Who calls. -/
structure Actor where
  userId : String
  email : String
  executionGrants : List ExecutionGrant

/-- The session of a caller. -/
structure ActorSession where
  sessionId : String
  actor : Actor
  expiresAt : ℕ

/-- The session is over at this time. -/
def ActorSession.isExpired (session : ActorSession) (now : ℕ) : Bool := session.expiresAt ≤ now

/-- Who an event is about. -/
structure ActorRef where
  userId : String
  email : String
  deriving DecidableEq

/-- The kinds of events that ask a human. -/
inductive HITLEventKind
  | clarificationRequired
  | approvalRequired
  deriving DecidableEq

/-- The states of such an event. -/
inductive HITLStatus
  | pending
  | answered
  | approved
  | rejected
  | expired
  | cancelled
  deriving DecidableEq

/-- How the answer to an event is resumed. -/
inductive ResumeMode
  | reinvoke
  | checkpointResume
  deriving DecidableEq

/-- An event that asks for a clarification.  The kind and the mode fit the payload. -/
structure HITLEvent where
  eventId : String
  requestId : String
  kind : HITLEventKind
  status : HITLStatus
  actor : ActorRef
  payload : IntakeDecision
  resumeMode : ResumeMode
  createdAt : ℕ
  agrees : kind = .clarificationRequired ∧ resumeMode = .reinvoke

/-- The kinds of the other events. -/
inductive EventKind
  | intakeStarted
  | routeResolved
  | planStarted
  | planSummary
  | executionStarted
  | executionProgress
  | executionCompleted
  deriving DecidableEq

/-- An event that reports. -/
structure PlatformOpsEvent where
  eventId : String
  requestId : String
  kind : EventKind
  payload : Json
  createdAt : ℕ

/-- What a call returns. -/
inductive HarnessEvent
  | hitl (event : HITLEvent)
  | platform (event : PlatformOpsEvent)

/-! ### The table and the environment -/

/-- The work a clarification interrupted: an intake request, or a provision invocation and the
number of answers it contains. -/
inductive PendingWork
  | intake (request : IntakeRequest)
  | provision (invocation : ProvisionInvocation) (round : ℕ)
  deriving DecidableEq

/-- How many answers the work contains. -/
def PendingWork.round : PendingWork → ℕ
  | .intake request => request.clarificationRound
  | .provision _ round => round

/-- A clarification that waits for an answer. -/
structure PendingClarification where
  interruptId : String
  actorId : String
  scopeHint : Option ScopeHint
  work : PendingWork
  deriving DecidableEq

/-- The state the calls share: the table, the clock, and how many event ids were generated. -/
structure HarnessState where
  pending : Dict String PendingClarification
  now : ℕ
  minted : ℕ

/-- The state of a new harness. -/
def HarnessState.initial (now : ℕ) : HarnessState := ⟨.empty, now, 0⟩

/-- What the harness gets from outside besides the workflows: the event ids that are generated one
after another, and the fault, if any, with which the construction of an event fails. -/
structure HarnessEnv where
  uuid4 : ℕ → String
  eventFault : ℕ → Option Fault

/-- What a call waits for. -/
inductive Await
  | intake (request : IntakeRequest)
  | provision (invocation : ProvisionInvocation) (grants : List ExecutionGrant)
  deriving DecidableEq

/-- How an await ends: the workflow runs with a model, or the await itself raises. -/
abbrev Answer := Except Fault Model

/-- A coroutine of the harness. -/
abbrev Harness := Coroutine HarnessState Await Answer Fault

/-- What the intake makes of an answer. -/
def intakeAnswer (request : IntakeRequest) (answer : Answer) : Except Fault IntakeDecision :=
  answer >>= intakeRequest request

/-- What the provision workflow makes of an answer. -/
def provisionAnswer (invocation : ProvisionInvocation) (grants : List ExecutionGrant)
    (answer : Answer) : Except Fault ProvisionDraft :=
  answer >>= fun model => prepareProvisionRequest invocation model knownWorkspaces grants

/-- Await the intake. -/
def awaitIntake (request : IntakeRequest) : Harness IntakeDecision :=
  .await (.intake request) fun answer => .ofExcept (intakeAnswer request answer)

/-- Await the provision workflow. -/
def awaitProvision (invocation : ProvisionInvocation) (grants : List ExecutionGrant) :
    Harness ProvisionDraft :=
  .await (.provision invocation grants) fun answer =>
    .ofExcept (provisionAnswer invocation grants answer)

/-- The time. -/
def clock : Harness ℕ := .get fun s => .ret s.now

/-- The entry of a request id in the table. -/
def lookupPending (requestId : String) : Harness (Option PendingClarification) :=
  .get fun s => .ret (s.pending.get? requestId)

/-- Write an entry of the table. -/
def storePending (requestId : String) (pending : PendingClarification) : Harness Unit :=
  .get fun s => .put { s with pending := s.pending.set requestId pending } (.ret ())

/-- Remove an entry of the table. -/
def popPending (requestId : String) : Harness Unit :=
  .get fun s => .put { s with pending := s.pending.erase requestId } (.ret ())

variable (env : HarnessEnv)

/-- Generate an event id. -/
def newEventId : Harness String :=
  .get fun s => .put { s with minted := s.minted + 1 } (.ret (env.uuid4 s.minted))

/-- Construct an event, which may fail. -/
def construct (event : HarnessEvent) : Harness HarnessEvent :=
  .get fun s =>
    match env.eventFault s.minted with
    | some fault => .raise fault
    | none => .ret event

/-! ### The methods -/

/-- The cap on clarification rounds. -/
def maxClarificationRounds : ℕ := 2

/-- The text of a request with an answer appended. -/
def clarifiedText (rawText answer : String) : String := rawText ++ "\n\nClarification: " ++ answer

theorem clarifiedText_ne_empty (rawText answer : String) : clarifiedText rawText answer ≠ "" := by
  intro h
  have hlen := congrArg String.length h
  simp only [clarifiedText, String.length_append] at hlen
  have hword : "\n\nClarification: ".length = 17 := by decide
  rw [hword] at hlen
  simp only [String.length_empty] at hlen
  omega

/-- A request with an answer appended. -/
def IntakeRequest.clarified (request : IntakeRequest) (answer : String) : IntakeRequest :=
  ⟨clarifiedText request.rawText answer, request.clarificationRound + 1⟩

/-- An invocation with an answer appended. -/
def ProvisionInvocation.clarified (invocation : ProvisionInvocation) (answer : String) :
    ProvisionInvocation :=
  ⟨clarifiedText invocation.rawText answer, invocation.scopeHint, clarifiedText_ne_empty _ _⟩

/-- The event that asks a question of this actor. -/
def clarificationEvent (actor : ActorSession) (requestId : String) (payload : IntakeDecision)
    (eventId : String) (now : ℕ) : HITLEvent where
  eventId := eventId
  requestId := requestId
  kind := .clarificationRequired
  status := .pending
  actor := ⟨actor.actor.userId, actor.actor.email⟩
  payload := payload
  resumeMode := .reinvoke
  createdAt := now
  agrees := ⟨rfl, rfl⟩

/-- Store a question of this actor, and return the event that asks it. -/
def askClarification (actor : ActorSession) (requestId : String) (scopeHint : Option ScopeHint)
    (work : PendingWork) (payload : IntakeDecision) : Harness HarnessEvent := do
  let now ← clock
  let eventId ← newEventId env
  storePending requestId ⟨eventId, actor.actor.userId, scopeHint, work⟩
  construct env (.hitl (clarificationEvent actor requestId payload eventId now))

/-- Return an event that reports a resolved route. -/
def reportRoute (requestId : String) (payload : List (String × Json)) : Harness HarnessEvent := do
  let now ← clock
  let eventId ← newEventId env
  construct env (.platform ⟨eventId, requestId, .routeResolved, .obj payload, now⟩)

/-- A text, or null. -/
def jsonText (text : Option String) : Json := (text.map Json.str).getD .null

/-- The payload of a decision. -/
def decisionPayload (decision : IntakeDecision) : List (String × Json) :=
  [("intent", jsonText (decision.intent.map Intent.value)), ("route", jsonText decision.route),
    ("ready_to_route", .bool decision.readyToRoute),
    ("mutation_requested", .bool decision.mutationRequested),
    ("approval_required", .bool decision.approvalRequired),
    ("unsupported_reason", jsonText decision.unsupportedReason)]

/-- A scope as a dictionary. -/
def scopePayload (scope : Scope) : Json :=
  .obj [("org", .str scope.org), ("bu", .str scope.bu), ("project", jsonText scope.project),
    ("workspace", jsonText scope.workspace)]

/-- A request as a dictionary. -/
def requestPayload (request : AwsStaticWebProvisionRequest) : Json :=
  .obj [("profile_id", .str request.profileId), ("scope", scopePayload request.scope),
    ("frontend_artifact_uri", .str request.frontendArtifactUri),
    ("frontend_hostname", .str request.frontendHostname)]

/-- The payload of a draft: the reason it is unavailable, or what was prepared. -/
def draftPayload (draft : ProvisionDraft) : List (String × Json) :=
  [("intent", .str "provision"), ("route", .str "provision"),
    ("ready_to_route", .bool draft.unavailableReason.isNone), ("mutation_requested", .bool true),
    ("approval_required", .bool false)] ++
  match draft.unavailableReason with
  | some reason => [("unsupported_reason", .str reason)]
  | none =>
      [("profile_id", jsonText draft.profileId),
        ("scope", (draft.scope.map scopePayload).getD .null),
        ("application_request", (draft.applicationRequest.map requestPayload).getD .null)]

/-- What `_dispatch_provision` does with a draft. -/
def reportDraft (actor : ActorSession) (requestId : String) (invocation : ProvisionInvocation)
    (round : ℕ) (draft : ProvisionDraft) : Harness HarnessEvent :=
  if draft.clarificationQuestions ≠ [] then
    askClarification env actor requestId (some invocation.scopeHint) (.provision invocation round)
      { IntakeDecision.blank with clarificationQuestions := draft.clarificationQuestions }
  else reportRoute env requestId (draftPayload draft)

/-- `_dispatch_provision`: await the provision workflow, and report its draft or its question. -/
def dispatchProvision (actor : ActorSession) (requestId : String)
    (invocation : ProvisionInvocation) (round : ℕ) : Harness HarnessEvent := do
  let draft ← awaitProvision invocation actor.actor.executionGrants
  reportDraft env actor requestId invocation round draft

/-- The decision for a tenant that is not allowed to use the route. -/
def unauthorized (decision : IntakeDecision) : IntakeDecision :=
  { decision with
    readyToRoute := false
    unsupportedReason := some "tenant not authorized for this route" }

/-- What `_classify` does with a decision. -/
def reportDecision (actor : ActorSession) (requestId : String) (request : IntakeRequest)
    (scopeHint : Option ScopeHint) (decision : IntakeDecision) : Harness HarnessEvent :=
  if decision.clarificationQuestions ≠ [] then
    askClarification env actor requestId scopeHint (.intake request) decision
  else if decision.route.all (· ∉ routeRegistry) then
    reportRoute env requestId (decisionPayload decision)
  else
    match scopeHint with
    | none => reportRoute env requestId (decisionPayload (unauthorized decision))
    | some hint =>
        if decision.intent.any (checkTenantPolicy hint.tenant.orgBu) then do
          let invocation ← .ofExcept (provisionInvocation request.rawText hint)
          dispatchProvision env actor requestId invocation 0
        else reportRoute env requestId (decisionPayload (unauthorized decision))

/-- `_classify`: await the intake, and report its decision, ask its question, or hand the request
over to the provision workflow. -/
def classify (actor : ActorSession) (requestId : String) (request : IntakeRequest)
    (scopeHint : Option ScopeHint) : Harness HarnessEvent := do
  let decision ← awaitIntake request
  reportDecision env actor requestId request scopeHint decision

/-- Raise unless the session is active. -/
def requireActiveSession (actor : ActorSession) : Harness Unit := do
  let now ← clock
  if actor.isExpired now then .raise (.valueError (.sessionExpired actor.sessionId)) else pure ()

/-- `start_run`. -/
def startRun (actor : ActorSession) (requestId text : String) (scopeHint : Option ScopeHint) :
    Harness HarnessEvent := do
  requireActiveSession actor
  classify env actor requestId ⟨text, 0⟩ scopeHint

/-- `resume_clarification`: the checks come before the entry is removed. -/
def resumeClarification (actor : ActorSession) (requestId interruptId answer : String) :
    Harness HarnessEvent := do
  requireActiveSession actor
  let entry ← lookupPending requestId
  match entry with
  | none => .raise (.valueError (.noPending requestId))
  | some pending =>
      if pending.interruptId ≠ interruptId then
        .raise (.valueError (.interruptMismatch interruptId requestId))
      else if pending.actorId ≠ actor.actor.userId then .raise (.valueError .actorMismatch)
      else if answer = "" then .raise (.valueError .emptyAnswer)
      else
        match pending.work with
        | .provision invocation round =>
            if round + 1 ≥ maxClarificationRounds then .raise (.valueError .roundCapReached)
            else do
              popPending requestId
              dispatchProvision env actor requestId (invocation.clarified answer) (round + 1)
        | .intake prior =>
            if prior.clarificationRound + 1 ≥ maxClarificationRounds then
              .raise (.valueError .roundCapReached)
            else do
              popPending requestId
              classify env actor requestId (prior.clarified answer) pending.scopeHint

/-- A call of the harness. -/
inductive HarnessCall
  | start (actor : ActorSession) (requestId text : String) (scopeHint : Option ScopeHint)
  | resume (actor : ActorSession) (requestId interruptId answer : String)

/-- Whose call it is. -/
def HarnessCall.actor : HarnessCall → ActorSession
  | .start actor _ _ _ => actor
  | .resume actor _ _ _ => actor

/-- The user whose call it is. -/
def HarnessCall.userId (call : HarnessCall) : String := call.actor.actor.userId

/-- The request id of a call. -/
def HarnessCall.requestId : HarnessCall → String
  | .start _ requestId _ _ => requestId
  | .resume _ requestId _ _ => requestId

/-- The coroutine of a call. -/
def callCoroutine : HarnessCall → Harness HarnessEvent
  | .start actor requestId text scopeHint => startRun env actor requestId text scopeHint
  | .resume actor requestId interruptId answer =>
      resumeClarification env actor requestId interruptId answer

/-- The calls of the harness, in an environment in which time passes. -/
def harness : System HarnessState Await Answer Fault HarnessEvent HarnessCall ℕ where
  main := callCoroutine env
  environment elapsed s := { s with now := s.now + elapsed }

/-- A state of the harness and of the calls that were made. -/
abbrev HarnessPool := Pool HarnessState Await Answer Fault HarnessEvent HarnessCall

/-- A step of the harness. -/
abbrev HarnessStep := Step Answer HarnessCall ℕ

/-! ### Awaits -/

/-- The coroutine that goes on after the intake. -/
def afterIntake (actor : ActorSession) (requestId : String) (request : IntakeRequest)
    (scopeHint : Option ScopeHint) (answer : Answer) : Harness HarnessEvent :=
  .ofExcept (intakeAnswer request answer) >>=
    reportDecision env actor requestId request scopeHint

/-- The coroutine that goes on after the provision workflow. -/
def afterProvision (actor : ActorSession) (requestId : String) (invocation : ProvisionInvocation)
    (round : ℕ) (answer : Answer) : Harness HarnessEvent :=
  .ofExcept (provisionAnswer invocation actor.actor.executionGrants answer) >>=
    reportDraft env actor requestId invocation round

/-- The answer to this await asks a question. -/
def Await.asks : Await → Answer → Prop
  | .intake request, answer =>
      ∃ decision, intakeAnswer request answer = .ok decision ∧ decision.clarificationQuestions ≠ []
  | .provision invocation grants, answer =>
      ∃ draft, provisionAnswer invocation grants answer = .ok draft ∧
        draft.clarificationQuestions ≠ []

/-- What a call waits for, and how it goes on: the intake or the provision workflow, for the actor
and on the request id of the call. -/
inductive Suspended : HarnessCall → Await → (Answer → Harness HarnessEvent) → Prop
  | intake (call : HarnessCall) (request : IntakeRequest) (scopeHint : Option ScopeHint) :
      Suspended call (.intake request)
        (afterIntake env call.actor call.requestId request scopeHint)
  | provision (call : HarnessCall) (invocation : ProvisionInvocation) (round : ℕ) :
      Suspended call (.provision invocation call.actor.actor.executionGrants)
        (afterProvision env call.actor call.requestId invocation round)

variable {env}

theorem run_classify (actor : ActorSession) (requestId : String) (request : IntakeRequest)
    (scopeHint : Option ScopeHint) (s : HarnessState) :
    (classify env actor requestId request scopeHint).run s =
      (.waiting (.intake request) (afterIntake env actor requestId request scopeHint), s) :=
  Coroutine.run_await_bind _ _ _ _

theorem run_dispatchProvision (actor : ActorSession) (requestId : String)
    (invocation : ProvisionInvocation) (round : ℕ) (s : HarnessState) :
    (dispatchProvision env actor requestId invocation round).run s =
      (.waiting (.provision invocation actor.actor.executionGrants)
        (afterProvision env actor requestId invocation round), s) :=
  Coroutine.run_await_bind _ _ _ _

/-! ### The first segment of a call -/

theorem run_requireActiveSession (actor : ActorSession) (s : HarnessState) :
    (requireActiveSession actor).run s =
      if actor.isExpired s.now then (.raised (.valueError (.sessionExpired actor.sessionId)), s)
      else (.returned (), s) := by
  unfold requireActiveSession clock
  rw [Coroutine.run_get_bind, Coroutine.run_ret_bind]
  split
  · rfl
  · rfl

theorem run_requireActiveSession_bind {α : Type} (actor : ActorSession) (f : Unit → Harness α)
    (s : HarnessState) :
    (requireActiveSession actor >>= f).run s =
      if actor.isExpired s.now then (.raised (.valueError (.sessionExpired actor.sessionId)), s)
      else (f ()).run s := by
  rw [Coroutine.run_bind, run_requireActiveSession]
  by_cases h : actor.isExpired s.now
  · rw [if_pos h, if_pos h]
  · rw [if_neg h, if_neg h]

/-- A new run awaits the intake, or raises. -/
theorem run_startRun (actor : ActorSession) (requestId text : String)
    (scopeHint : Option ScopeHint) (s : HarnessState) :
    (startRun env actor requestId text scopeHint).run s =
      if actor.isExpired s.now then (.raised (.valueError (.sessionExpired actor.sessionId)), s)
      else
        (.waiting (.intake ⟨text, 0⟩) (afterIntake env actor requestId ⟨text, 0⟩ scopeHint), s) :=
  run_requireActiveSession_bind actor _ s

/-- What `resume_clarification` checks before it takes the entry out. -/
structure ResumeValid (s : HarnessState) (actor : ActorSession)
    (requestId interruptId answer : String) (pending : PendingClarification) : Prop where
  active : actor.isExpired s.now = false
  stored : s.pending.get? requestId = some pending
  named : pending.interruptId = interruptId
  own : pending.actorId = actor.actor.userId
  answered : answer ≠ ""
  belowCap : pending.work.round + 1 < maxClarificationRounds

/-- The workflow an answered clarification awaits. -/
def resumedAwait (actor : ActorSession) (answer : String) : PendingWork → Await
  | .intake prior => .intake (prior.clarified answer)
  | .provision invocation _ =>
      .provision (invocation.clarified answer) actor.actor.executionGrants

/-- How an answered clarification goes on. -/
def resumedCoroutine (env : HarnessEnv) (actor : ActorSession) (requestId answer : String)
    (pending : PendingClarification) : Answer → Harness HarnessEvent :=
  match pending.work with
  | .intake prior =>
      afterIntake env actor requestId (prior.clarified answer) pending.scopeHint
  | .provision invocation round =>
      afterProvision env actor requestId (invocation.clarified answer) (round + 1)

/-- **A valid resume takes the clarification out of the table and awaits its workflow.** -/
theorem run_resume_of_valid {s : HarnessState} {actor : ActorSession}
    {requestId interruptId answer : String} {pending : PendingClarification}
    (h : ResumeValid s actor requestId interruptId answer pending) :
    (resumeClarification env actor requestId interruptId answer).run s =
      (.waiting (resumedAwait actor answer pending.work)
        (resumedCoroutine env actor requestId answer pending),
        { s with pending := s.pending.erase requestId }) := by
  have hcap : ¬ maxClarificationRounds ≤ pending.work.round + 1 := not_le.2 h.belowCap
  unfold resumeClarification
  rw [run_requireActiveSession_bind, h.active]
  simp only [Bool.false_eq_true, if_false, lookupPending, Coroutine.run_get_bind]
  rw [h.stored]
  show (if pending.interruptId ≠ interruptId then _ else _ : Harness HarnessEvent).run s = _
  rw [if_neg (not_not.2 h.named), if_neg (not_not.2 h.own), if_neg h.answered]
  rcases hwork : pending.work with prior | ⟨invocation, round⟩
  · have hround : ¬ prior.clarificationRound + 1 ≥ maxClarificationRounds := by rwa [hwork] at hcap
    dsimp only
    rw [if_neg hround]
    simp only [popPending, Coroutine.run_get_bind, Coroutine.run_put_bind, Coroutine.run_ret_bind,
      run_classify, resumedAwait, resumedCoroutine, hwork]
  · have hround : ¬ round + 1 ≥ maxClarificationRounds := by rwa [hwork] at hcap
    dsimp only
    rw [if_neg hround]
    simp only [popPending, Coroutine.run_get_bind, Coroutine.run_put_bind, Coroutine.run_ret_bind,
      run_dispatchProvision, resumedAwait, resumedCoroutine, hwork]

variable (env) in
/-- **Every other resume raises a `ValueError` and changes nothing.** -/
theorem run_resume_of_not_valid {s : HarnessState} {actor : ActorSession}
    {requestId interruptId answer : String}
    (h : ∀ pending, ¬ ResumeValid s actor requestId interruptId answer pending) :
    ∃ error, (resumeClarification env actor requestId interruptId answer).run s =
      (.raised (.valueError error), s) := by
  unfold resumeClarification
  rw [run_requireActiveSession_bind]
  by_cases hactive : actor.isExpired s.now
  · rw [if_pos hactive]
    exact ⟨_, rfl⟩
  rw [if_neg hactive]
  simp only [lookupPending, Coroutine.run_get_bind]
  rcases hstored : s.pending.get? requestId with _ | pending
  · exact ⟨_, rfl⟩
  show ∃ error,
    (if pending.interruptId ≠ interruptId then _ else _ : Harness HarnessEvent).run s = _
  by_cases hnamed : pending.interruptId = interruptId
  swap
  · rw [if_pos hnamed]
    exact ⟨_, rfl⟩
  rw [if_neg (not_not.2 hnamed)]
  by_cases hown : pending.actorId = actor.actor.userId
  swap
  · rw [if_pos hown]
    exact ⟨_, rfl⟩
  rw [if_neg (not_not.2 hown)]
  by_cases hanswer : answer = ""
  · rw [if_pos hanswer]
    exact ⟨_, rfl⟩
  rw [if_neg hanswer]
  -- the last check that can fail is the cap, which both kinds of work have
  have hcap : maxClarificationRounds ≤ pending.work.round + 1 := by
    by_contra hbelow
    exact h pending ⟨by simpa using hactive, hstored, hnamed, hown, hanswer, not_le.1 hbelow⟩
  rcases hwork : pending.work with prior | ⟨invocation, round⟩
  · have hround : prior.clarificationRound + 1 ≥ maxClarificationRounds := by rwa [hwork] at hcap
    dsimp only
    rw [if_pos hround]
    exact ⟨_, rfl⟩
  · have hround : round + 1 ≥ maxClarificationRounds := by rwa [hwork] at hcap
    dsimp only
    rw [if_pos hround]
    exact ⟨_, rfl⟩

/-- A resume is valid for at most one clarification. -/
theorem ResumeValid.unique {s : HarnessState} {actor : ActorSession}
    {requestId interruptId answer : String} {pending pending' : PendingClarification}
    (h : ResumeValid s actor requestId interruptId answer pending)
    (h' : ResumeValid s actor requestId interruptId answer pending') : pending = pending' :=
  Option.some.inj (h.stored.symm.trans h'.stored)

/-! ### The segment after an answer -/

/-- The state after a question of this actor was stored. -/
def HarnessState.asked (env : HarnessEnv) (s : HarnessState) (actor : ActorSession)
    (requestId : String) (scopeHint : Option ScopeHint) (work : PendingWork) : HarnessState :=
  { s with
    pending := s.pending.set requestId ⟨env.uuid4 s.minted, actor.actor.userId, scopeHint, work⟩
    minted := s.minted + 1 }

/-- The event that asks the question. -/
def questionEvent (env : HarnessEnv) (s : HarnessState) (actor : ActorSession)
    (requestId : String) (payload : IntakeDecision) : HITLEvent :=
  clarificationEvent actor requestId payload (env.uuid4 s.minted) s.now

/-- How a segment ends that constructs an event last. -/
def constructed (env : HarnessEnv) (minted : ℕ) (event : HarnessEvent) :
    Outcome HarnessState Await Answer Fault HarnessEvent :=
  match env.eventFault minted with
  | some fault => .raised fault
  | none => .returned event

theorem constructed_ne_waiting {minted : ℕ} {event : HarnessEvent} {i : Await}
    {k : Answer → Harness HarnessEvent} : constructed env minted event ≠ .waiting i k := by
  unfold constructed
  cases env.eventFault minted with
  | some fault => simp
  | none => simp

theorem run_construct (event : HarnessEvent) (s : HarnessState) :
    (construct env event).run s = (constructed env s.minted event, s) := by
  unfold construct constructed
  rw [Coroutine.run_get]
  cases env.eventFault s.minted with
  | some fault => rfl
  | none => rfl

/-- A question is stored before the event that asks it is constructed. -/
theorem run_askClarification (actor : ActorSession) (requestId : String)
    (scopeHint : Option ScopeHint) (work : PendingWork) (payload : IntakeDecision)
    (s : HarnessState) :
    (askClarification env actor requestId scopeHint work payload).run s =
      (constructed env (s.minted + 1) (.hitl (questionEvent env s actor requestId payload)),
        s.asked env actor requestId scopeHint work) := by
  simp only [askClarification, clock, newEventId, storePending, Coroutine.run_get_bind,
    Coroutine.run_put_bind, Coroutine.run_ret_bind, run_construct]
  rfl

theorem run_reportRoute (requestId : String) (payload : List (String × Json)) (s : HarnessState) :
    ∃ event, (reportRoute env requestId payload).run s =
      (constructed env (s.minted + 1) (.platform event), { s with minted := s.minted + 1 }) := by
  simp only [reportRoute, clock, newEventId, Coroutine.run_get_bind, Coroutine.run_put_bind,
    Coroutine.run_ret_bind, run_construct]
  exact ⟨_, rfl⟩

theorem run_afterIntake (actor : ActorSession) (requestId : String) (request : IntakeRequest)
    (scopeHint : Option ScopeHint) (answer : Answer) (s : HarnessState) :
    (afterIntake env actor requestId request scopeHint answer).run s =
      match intakeAnswer request answer with
      | .error fault => (.raised fault, s)
      | .ok decision => (reportDecision env actor requestId request scopeHint decision).run s := by
  unfold afterIntake
  cases intakeAnswer request answer with
  | error fault => rw [Coroutine.run_ofExcept_error_bind]
  | ok decision => rw [Coroutine.run_ofExcept_ok_bind]

theorem run_afterProvision (actor : ActorSession) (requestId : String)
    (invocation : ProvisionInvocation) (round : ℕ) (answer : Answer) (s : HarnessState) :
    (afterProvision env actor requestId invocation round answer).run s =
      match provisionAnswer invocation actor.actor.executionGrants answer with
      | .error fault => (.raised fault, s)
      | .ok draft => (reportDraft env actor requestId invocation round draft).run s := by
  unfold afterProvision
  cases provisionAnswer invocation actor.actor.executionGrants answer with
  | error fault => rw [Coroutine.run_ofExcept_error_bind]
  | ok draft => rw [Coroutine.run_ofExcept_ok_bind]

/-- The decision hands this invocation over to the provision workflow. -/
structure HandsOver (request : IntakeRequest) (scopeHint : Option ScopeHint)
    (decision : IntakeDecision) (invocation : ProvisionInvocation) : Prop where
  asksNothing : decision.clarificationQuestions = []
  routed : decision.route.all (· ∉ routeRegistry) = false
  authorized : ∃ hint, scopeHint = some hint ∧
    decision.intent.any (checkTenantPolicy hint.tenant.orgBu) = true ∧
    provisionInvocation request.rawText hint = .ok invocation

variable (env) in
/-- A decision without a question is reported, fails, or hands over. -/
theorem run_reportDecision_of_not_asks (actor : ActorSession) (requestId : String)
    (request : IntakeRequest) (scopeHint : Option ScopeHint) {decision : IntakeDecision}
    (hasks : decision.clarificationQuestions = []) (s : HarnessState) :
    (∃ event, (reportDecision env actor requestId request scopeHint decision).run s =
        (constructed env (s.minted + 1) (.platform event), { s with minted := s.minted + 1 })) ∨
      (∃ fault, (reportDecision env actor requestId request scopeHint decision).run s =
        (.raised fault, s)) ∨
      ∃ invocation, HandsOver request scopeHint decision invocation ∧
        (reportDecision env actor requestId request scopeHint decision).run s =
          (.waiting (.provision invocation actor.actor.executionGrants)
            (afterProvision env actor requestId invocation 0), s) := by
  unfold reportDecision
  rw [if_neg (not_not.2 hasks)]
  by_cases hroute : decision.route.all (· ∉ routeRegistry) = true
  · rw [if_pos hroute]
    exact Or.inl (run_reportRoute requestId _ s)
  rw [if_neg hroute]
  rcases hhint : scopeHint with _ | hint
  · exact Or.inl (run_reportRoute requestId _ s)
  by_cases hpolicy : decision.intent.any (checkTenantPolicy hint.tenant.orgBu) = true
  swap
  · dsimp only
    rw [if_neg hpolicy]
    exact Or.inl (run_reportRoute requestId _ s)
  dsimp only
  rw [if_pos hpolicy]
  -- the text of the request may still be empty
  rcases hinvocation : provisionInvocation request.rawText hint with fault | invocation
  · exact Or.inr (Or.inl ⟨fault, rfl⟩)
  · exact Or.inr (Or.inr ⟨invocation,
      ⟨hasks, by simpa using hroute, hint, rfl, hpolicy, hinvocation⟩, rfl⟩)

/-- A decision without a question stores nothing. -/
theorem run_reportDecision_state {actor : ActorSession} {requestId : String}
    {request : IntakeRequest} {scopeHint : Option ScopeHint} {decision : IntakeDecision}
    (hasks : decision.clarificationQuestions = []) (s : HarnessState) :
    ∃ minted ≥ s.minted,
      ((reportDecision env actor requestId request scopeHint decision).run s).2 =
        { s with minted := minted } := by
  rcases run_reportDecision_of_not_asks env actor requestId request scopeHint hasks s
    with ⟨event, hrun⟩ | ⟨fault, hrun⟩ | ⟨invocation, -, hrun⟩
  · exact ⟨s.minted + 1, Nat.le_succ _, congrArg Prod.snd hrun⟩
  · exact ⟨s.minted, le_rfl, congrArg Prod.snd hrun⟩
  · exact ⟨s.minted, le_rfl, congrArg Prod.snd hrun⟩

theorem run_reportDecision_of_handsOver {actor : ActorSession} {requestId : String}
    {request : IntakeRequest} {scopeHint : Option ScopeHint} {decision : IntakeDecision}
    {invocation : ProvisionInvocation} (h : HandsOver request scopeHint decision invocation)
    (s : HarnessState) :
    (reportDecision env actor requestId request scopeHint decision).run s =
      (.waiting (.provision invocation actor.actor.executionGrants)
        (afterProvision env actor requestId invocation 0), s) := by
  obtain ⟨hint, rfl, hpolicy, hinvocation⟩ := h.authorized
  unfold reportDecision
  rw [if_neg (not_not.2 h.asksNothing), h.routed]
  simp only [Bool.false_eq_true, if_false]
  rw [if_pos hpolicy, hinvocation]
  rfl

theorem run_reportDecision_of_asks {actor : ActorSession} {requestId : String}
    {request : IntakeRequest} {scopeHint : Option ScopeHint} {decision : IntakeDecision}
    (hasks : decision.clarificationQuestions ≠ []) (s : HarnessState) :
    (reportDecision env actor requestId request scopeHint decision).run s =
      (constructed env (s.minted + 1) (.hitl (questionEvent env s actor requestId decision)),
        s.asked env actor requestId scopeHint (.intake request)) := by
  unfold reportDecision
  rw [if_pos hasks, run_askClarification]

variable (env) in
/-- A draft without a question stores nothing. -/
theorem run_reportDraft_of_not_asks (actor : ActorSession) (requestId : String)
    (invocation : ProvisionInvocation) (round : ℕ) {draft : ProvisionDraft}
    (hasks : draft.clarificationQuestions = []) (s : HarnessState) :
    ∃ event, (reportDraft env actor requestId invocation round draft).run s =
      (constructed env (s.minted + 1) (.platform event), { s with minted := s.minted + 1 }) := by
  unfold reportDraft
  rw [if_neg (not_not.2 hasks)]
  exact run_reportRoute requestId _ s

theorem run_reportDraft_of_asks {actor : ActorSession} {requestId : String}
    {invocation : ProvisionInvocation} {round : ℕ} {draft : ProvisionDraft}
    (hasks : draft.clarificationQuestions ≠ []) (s : HarnessState) :
    (reportDraft env actor requestId invocation round draft).run s =
      (constructed env (s.minted + 1) (.hitl (questionEvent env s actor requestId
          { IntakeDecision.blank with clarificationQuestions := draft.clarificationQuestions })),
        s.asked env actor requestId (some invocation.scopeHint) (.provision invocation round)) := by
  unfold reportDraft
  rw [if_pos hasks, run_askClarification]

/-- **What the answer to a waiting call does to the table**: an answer that asks stores one
question, of the caller and under the caller's request id; every other answer leaves the table
alone. -/
theorem run_answered {call : HarnessCall} {i : Await} {k : Answer → Harness HarnessEvent}
    (h : Suspended env call i k) (answer : Answer) (s : HarnessState) :
    (i.asks answer ∧ ∃ scopeHint work,
        ((k answer).run s).2 = s.asked env call.actor call.requestId scopeHint work) ∨
      (¬ i.asks answer ∧ ∃ minted ≥ s.minted,
        ((k answer).run s).2 = { s with minted := minted }) := by
  cases h with
  | intake request scopeHint =>
      rw [run_afterIntake]
      rcases hintake : intakeAnswer request answer with fault | decision
      · refine Or.inr ⟨?_, s.minted, le_rfl, rfl⟩
        rintro ⟨_, hd, -⟩
        cases hintake.symm.trans hd
      · by_cases hasks : decision.clarificationQuestions = []
        · refine Or.inr ⟨?_, run_reportDecision_state hasks s⟩
          rintro ⟨_, hd, hne⟩
          cases hintake.symm.trans hd
          exact hne hasks
        · exact Or.inl ⟨⟨decision, hintake, hasks⟩, scopeHint, .intake request,
            congrArg Prod.snd (run_reportDecision_of_asks hasks s)⟩
  | provision invocation round =>
      rw [run_afterProvision]
      rcases hdraft : provisionAnswer invocation call.actor.actor.executionGrants answer
        with fault | draft
      · refine Or.inr ⟨?_, s.minted, le_rfl, rfl⟩
        rintro ⟨_, hd, -⟩
        cases hdraft.symm.trans hd
      · by_cases hasks : draft.clarificationQuestions = []
        · refine Or.inr ⟨?_, s.minted + 1, Nat.le_succ _, ?_⟩
          · rintro ⟨_, hd, hne⟩
            cases hdraft.symm.trans hd
            exact hne hasks
          · obtain ⟨event, hrun⟩ := run_reportDraft_of_not_asks env call.actor call.requestId
              invocation round hasks s
            exact congrArg Prod.snd hrun
        · exact Or.inl ⟨⟨draft, hdraft, hasks⟩, some invocation.scopeHint,
            .provision invocation round, congrArg Prod.snd (run_reportDraft_of_asks hasks s)⟩

/-! ### Steps of a run -/

/-- A call waits for the intake or for the provision workflow, on its own request id. -/
theorem suspends_suspended : (harness env).Suspends (Suspended env) where
  first := by
    intro call s i k hwait
    cases call with
    | start actor requestId text scopeHint =>
        have hrun : ((startRun env actor requestId text scopeHint).run s).1 = .waiting i k := hwait
        rw [run_startRun] at hrun
        split at hrun
        · cases hrun
        · cases hrun
          exact .intake (.start actor requestId text scopeHint) ⟨text, 0⟩ scopeHint
    | resume actor requestId interruptId answer =>
        have hrun : ((resumeClarification env actor requestId interruptId answer).run s).1 =
          .waiting i k := hwait
        by_cases hvalid : ∃ pending, ResumeValid s actor requestId interruptId answer pending
        · obtain ⟨pending, hvalid⟩ := hvalid
          rw [run_resume_of_valid hvalid] at hrun
          rcases hwork : pending.work with prior | ⟨invocation, round⟩
          · simp only [resumedAwait, resumedCoroutine, hwork] at hrun
            cases hrun
            exact .intake (.resume actor requestId interruptId answer) _ _
          · simp only [resumedAwait, resumedCoroutine, hwork] at hrun
            cases hrun
            exact .provision (.resume actor requestId interruptId answer) _ _
        · obtain ⟨error, hraised⟩ := run_resume_of_not_valid env (not_exists.1 hvalid)
          rw [hraised] at hrun
          cases hrun
  next := by
    intro call i k hsus answer s i' k' hwait
    cases hsus with
    | intake request scopeHint =>
        rw [run_afterIntake] at hwait
        rcases hintake : intakeAnswer request answer with fault | decision
        · rw [hintake] at hwait
          cases hwait
        rw [hintake] at hwait
        dsimp only at hwait
        by_cases hasks : decision.clarificationQuestions = []
        · rcases run_reportDecision_of_not_asks env call.actor call.requestId request scopeHint
              hasks s
            with ⟨event, hrun⟩ | ⟨fault, hrun⟩ | ⟨invocation, -, hrun⟩
          · rw [hrun] at hwait
            exact absurd hwait constructed_ne_waiting
          · rw [hrun] at hwait
            cases hwait
          · rw [hrun] at hwait
            cases hwait
            exact .provision call invocation 0
        · rw [run_reportDecision_of_asks hasks] at hwait
          exact absurd hwait constructed_ne_waiting
    | provision invocation round =>
        rw [run_afterProvision] at hwait
        rcases hdraft : provisionAnswer invocation call.actor.actor.executionGrants answer
          with fault | draft
        · rw [hdraft] at hwait
          cases hwait
        rw [hdraft] at hwait
        dsimp only at hwait
        by_cases hasks : draft.clarificationQuestions = []
        · obtain ⟨event, hrun⟩ := run_reportDraft_of_not_asks env call.actor call.requestId
              invocation round hasks s
          rw [hrun] at hwait
          exact absurd hwait constructed_ne_waiting
        · rw [run_reportDraft_of_asks hasks] at hwait
          exact absurd hwait constructed_ne_waiting

/-- The step answers a waiting call so that it asks a question. -/
def AsksFor (p : HarnessPool) (e : HarnessStep) (call : HarnessCall) : Prop :=
  ∃ n answer i k, e = .deliver n answer ∧ p.tasks[n]? = some ⟨call, .waiting i k⟩ ∧ i.asks answer

/-- The step is a resume that passes validation for this clarification. -/
def Resumes (p : HarnessPool) (e : HarnessStep) (actor : ActorSession)
    (requestId interruptId answer : String) (pending : PendingClarification) : Prop :=
  e = .spawn (.resume actor requestId interruptId answer) ∧
    ResumeValid p.world actor requestId interruptId answer pending

/-- What a step can do to the state. -/
inductive StepEffect (env : HarnessEnv) (p : HarnessPool) (e : HarnessStep) : HarnessState → Prop
  | kept {s : HarnessState} (pending : s.pending = p.world.pending)
      (minted : p.world.minted ≤ s.minted)
      (now : (∀ t, e ≠ .environment t) → s.now = p.world.now) (asks : ∀ call, ¬ AsksFor p e call)
      (resumes : ∀ actor requestId interruptId answer pending,
        ¬ Resumes p e actor requestId interruptId answer pending) : StepEffect env p e s
  | popped {actor : ActorSession} {requestId interruptId answer : String}
      {pending : PendingClarification}
      (h : Resumes p e actor requestId interruptId answer pending) :
      StepEffect env p e { p.world with pending := p.world.pending.erase requestId }
  | asked {call : HarnessCall} (h : AsksFor p e call) (scopeHint : Option ScopeHint)
      (work : PendingWork) :
      StepEffect env p e (p.world.asked env call.actor call.requestId scopeHint work)

theorem not_asksFor_spawn {p : HarnessPool} {call call' : HarnessCall} :
    ¬ AsksFor p (.spawn call) call' := by
  rintro ⟨n, answer, i, k, he, -⟩
  cases he

theorem AsksFor.eq_of_runs {p : HarnessPool} {e : HarnessStep} {call call' : HarnessCall}
    {c : Harness HarnessEvent} (h : AsksFor p e call) (hruns : (harness env).Runs p e call' c) :
    call' = call := by
  obtain ⟨n, answer, i, k, rfl, htask, -⟩ := h
  exact (hruns.unique (.deliver answer htask)).1

theorem step_resume_of_valid {p : HarnessPool} {actor : ActorSession}
    {requestId interruptId answer : String} {pending : PendingClarification}
    (h : ResumeValid p.world actor requestId interruptId answer pending) :
    (harness env).step p (.spawn (.resume actor requestId interruptId answer)) =
      ⟨{ p.world with pending := p.world.pending.erase requestId },
        p.tasks ++ [⟨.resume actor requestId interruptId answer,
          .waiting (resumedAwait actor answer pending.work)
            (resumedCoroutine env actor requestId answer pending)⟩]⟩ := by
  show (⟨((resumeClarification env actor requestId interruptId answer).run p.world).2,
    p.tasks ++ [⟨_, ((resumeClarification env actor requestId interruptId answer).run
      p.world).1⟩]⟩ : HarnessPool) = _
  rw [run_resume_of_valid h]

theorem step_resume_of_not_valid {p : HarnessPool} {actor : ActorSession}
    {requestId interruptId answer : String}
    (h : ∀ pending, ¬ ResumeValid p.world actor requestId interruptId answer pending) :
    ∃ error, (harness env).step p (.spawn (.resume actor requestId interruptId answer)) =
      ⟨p.world, p.tasks ++ [⟨.resume actor requestId interruptId answer,
        .raised (.valueError error)⟩]⟩ := by
  obtain ⟨error, hraised⟩ := run_resume_of_not_valid env h
  refine ⟨error, ?_⟩
  show (⟨((resumeClarification env actor requestId interruptId answer).run p.world).2,
    p.tasks ++ [⟨_, ((resumeClarification env actor requestId interruptId answer).run
      p.world).1⟩]⟩ : HarnessPool) = _
  rw [hraised]

/-- A new run keeps the table. -/
theorem start_effect (p : HarnessPool) (actor : ActorSession) (requestId text : String)
    (scopeHint : Option ScopeHint) :
    StepEffect env p (.spawn (.start actor requestId text scopeHint))
      ((harness env).step p (.spawn (.start actor requestId text scopeHint))).world := by
  have hworld : ((harness env).step p (.spawn (.start actor requestId text scopeHint))).world =
      p.world := by
    show ((startRun env actor requestId text scopeHint).run p.world).2 = p.world
    rw [run_startRun]
    split
    · rfl
    · rfl
  rw [hworld]
  refine .kept rfl le_rfl (fun _ => rfl) (fun _ => not_asksFor_spawn) ?_
  rintro _ _ _ _ _ ⟨he, -⟩
  cases he

/-- A resume takes a clarification out, or keeps the table. -/
theorem resume_effect (p : HarnessPool) (actor : ActorSession)
    (requestId interruptId answer : String) :
    StepEffect env p (.spawn (.resume actor requestId interruptId answer))
      ((harness env).step p (.spawn (.resume actor requestId interruptId answer))).world := by
  by_cases hvalid : ∃ pending, ResumeValid p.world actor requestId interruptId answer pending
  · obtain ⟨pending, hvalid⟩ := hvalid
    rw [step_resume_of_valid hvalid]
    exact .popped ⟨rfl, hvalid⟩
  · obtain ⟨error, hstep⟩ := step_resume_of_not_valid (not_exists.1 hvalid)
    rw [hstep]
    refine .kept rfl le_rfl (fun _ => rfl) (fun _ => not_asksFor_spawn) ?_
    rintro _ _ _ _ pending ⟨he, hpending⟩
    cases he
    exact hvalid ⟨pending, hpending⟩

/-- An answer stores a question, or keeps the table. -/
theorem deliver_effect {p : HarnessPool} {n : ℕ} {call : HarnessCall} {i : Await}
    {k : Answer → Harness HarnessEvent} (hsus : Suspended env call i k) (answer : Answer)
    (htask : p.tasks[n]? = some ⟨call, .waiting i k⟩) :
    StepEffect env p (.deliver n answer) ((harness env).step p (.deliver n answer)).world := by
  rw [System.step_deliver answer htask]
  rcases run_answered hsus answer p.world
    with ⟨hasks, scopeHint, work, hstate⟩ | ⟨hasks, minted, hminted, hstate⟩
  · rw [hstate]
    exact .asked ⟨n, answer, i, k, rfl, htask, hasks⟩ scopeHint work
  · rw [hstate]
    refine .kept rfl hminted (fun _ => rfl) ?_ ?_
    · rintro call' ⟨n', answer', i', k', he, htask', hasks'⟩
      cases he
      rw [htask] at htask'
      cases htask'
      exact hasks hasks'
    · rintro _ _ _ _ _ ⟨he, -⟩
      cases he

/-- A step that runs no segment keeps the table. -/
theorem idle_effect {p : HarnessPool} {e : HarnessStep}
    (hidle : ¬ ∃ call c, (harness env).Runs p e call c) {s : HarnessState}
    (hpending : s.pending = p.world.pending) (hminted : p.world.minted ≤ s.minted)
    (hnow : (∀ t, e ≠ .environment t) → s.now = p.world.now) : StepEffect env p e s := by
  refine .kept hpending hminted hnow ?_ ?_
  · rintro call ⟨n, answer, i, k, rfl, htask, -⟩
    exact hidle ⟨call, _, .deliver answer htask⟩
  · rintro actor requestId interruptId answer pending ⟨rfl, -⟩
    exact hidle ⟨_, _, .spawn _⟩

/-- **A step keeps the table, takes the caller's own clarification out, or stores a question of the
caller under the caller's request id.** -/
theorem step_effect {p : HarnessPool} (hp : System.Waiting (Suspended env) p) (e : HarnessStep) :
    StepEffect env p e ((harness env).step p e).world := by
  by_cases hruns : ∃ call c, (harness env).Runs p e call c
  · obtain ⟨call, c, hruns⟩ := hruns
    cases hruns with
    | spawn =>
        cases call with
        | start actor requestId text scopeHint =>
            exact start_effect p actor requestId text scopeHint
        | resume actor requestId interruptId answer =>
            exact resume_effect p actor requestId interruptId answer
    | deliver answer htask => exact deliver_effect (hp _ _ _ _ htask) answer htask
  · rcases System.step_cases (harness env) p e with h | ⟨t, rfl, hstep⟩ | hstep
    · exact absurd h hruns
    · rw [hstep]
      exact idle_effect hruns rfl le_rfl fun hne => absurd rfl (hne t)
    · rw [hstep]
      exact idle_effect hruns rfl le_rfl fun _ => rfl

end PlatformOps
