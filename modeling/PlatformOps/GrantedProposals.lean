/-
**What the harness proposes, and to whom.**

A run of the harness may end with a proposal: a request for an application on a target.  The target
is chosen when the run is started; from there it goes through the intake, the provision workflow and
the table of open questions, in which other calls write as well, and a resume takes it up again.  A
proposal is on the target its user has chosen, in a tenant that has a policy, and on a workspace
that is known and that the grants of the session reach.

Main definitions:

* `HarnessEvent.proposal` — what an event proposes;
* `ProposedWithin` — a proposal keeps to a target and to the grants of a session;
* `Chose` — a user has chosen a target for a request id;
* `KeepsTo`, `TableChosen`, `PoolChosen` — calls and clarifications are about what was chosen.

Main results:

* `first_segment`, `WorksOn.answered` — the segments of a call keep to what was chosen;
* `poolChosen_step`, `poolChosen_run` — so do the steps and the runs;
* `proposals_within_grants` — **every proposal is on a target its user chose and has grants for**, in
  every interleaving;
* `device_login_proposes_nothing` — a session of a device login is proposed nothing.
-/

import PlatformOps.ClarificationRounds
import PlatformOps.DeviceLogin
import PlatformOps.TargetExistence

set_option relaxedAutoImplicit false
set_option autoImplicit false

namespace PlatformOps

/-! ### Proposals -/

/-- What an event proposes, if it proposes something. -/
def HarnessEvent.proposal : HarnessEvent → Option Json
  | .hitl _ => none
  | .platform event =>
      match event.payload.field "application_request" with
      | none | some .null => none
      | some request => some request

/-- The tenant of a target has a policy that allows something. -/
def TenantAllowed (hint : ScopeHint) : Prop :=
  ∃ intent, checkTenantPolicy hint.tenant.orgBu intent = true

/-- The proposal keeps to the target and to the grants of the session. -/
structure ProposedWithin (session : ActorSession) (hint : ScopeHint) (proposal : Json) : Prop where
  request : ∃ request : AwsStaticWebProvisionRequest,
    proposal = requestPayload request ∧ request.scope = hint.scope
  tenant : TenantAllowed hint
  known : hint.scope ∈ knownWorkspaces
  granted : resolveExecutionCapability hint.scope session.actor.executionGrants ≠ .none

section

variable {env : HarnessEnv} {s : HarnessState}

theorem run_reportRoute_eq (requestId : String) (payload : List (String × Json)) :
    (reportRoute env requestId payload).run s =
      (constructed env (s.minted + 1)
        (.platform ⟨env.uuid4 s.minted, requestId, .routeResolved, .obj payload, s.now⟩),
        { s with minted := s.minted + 1 }) := by
  simp only [reportRoute, clock, newEventId, Coroutine.run_get_bind, Coroutine.run_put_bind,
    Coroutine.run_ret_bind, run_construct]

/-- A draft proposes its request, if it has one. -/
theorem proposal_draftPayload {draft : ProvisionDraft} {eventId requestId : String}
    {kind : EventKind} {now : ℕ} {proposal : Json}
    (h : (HarnessEvent.platform ⟨eventId, requestId, kind, .obj (draftPayload draft), now⟩).proposal =
      some proposal) :
    ∃ request, draft.applicationRequest = some request ∧ proposal = requestPayload request := by
  unfold HarnessEvent.proposal at h
  cases hreason : draft.unavailableReason with
  | some reason =>
      simp only [draftPayload, hreason] at h
      cases h
  | none =>
      cases hrequest : draft.applicationRequest with
      | none =>
          simp only [draftPayload, hreason, hrequest] at h
          cases h
      | some request =>
          simp only [draftPayload, hreason, hrequest] at h
          cases h
          exact ⟨request, rfl, rfl⟩

/-- **What a draft proposes**: a request for a known scope the caller has a grant for. -/
theorem proposal_reportedEvent {session : ActorSession} {requestId eventId : String}
    {invocation : ProvisionInvocation} {model : Model} {draft : ProvisionDraft} {now : ℕ}
    {proposal : Json}
    (hdraft : prepareProvisionRequest invocation model knownWorkspaces
      session.actor.executionGrants = .ok draft)
    (htenant : TenantAllowed invocation.scopeHint)
    (h : (reportedEvent session requestId draft eventId now).proposal = some proposal) :
    ProposedWithin session invocation.scopeHint proposal := by
  unfold reportedEvent at h
  split at h
  · cases h
  · rename_i hasks
    obtain ⟨request, hrequest, rfl⟩ := proposal_draftPayload h
    rcases prepareProvisionRequest_cases hdraft with hdraft | rfl | ⟨hdraft, hknown, hcap⟩
    · obtain ⟨question, hquestion, -⟩ := hdraft
      rw [hquestion] at hasks
      exact absurd (List.cons_ne_nil _ _) hasks
    · cases hrequest
    · obtain ⟨request', hrequest', hscope⟩ := hdraft.request
      cases hrequest.symm.trans hrequest'
      exact ⟨⟨request, rfl, hscope⟩, htenant, hknown, hcap⟩

end

/-! ### What was chosen -/

/-- The user has chosen this target for this request id. -/
def Chose (steps : List HarnessStep) (userId requestId : String) (hint : ScopeHint) : Prop :=
  ∃ actor text, .spawn (.start actor requestId text (some hint)) ∈ steps ∧
    actor.actor.userId = userId

variable {env : HarnessEnv} {chose : String → String → ScopeHint → Prop}

/-- The target of a call, or of a clarification, was chosen. -/
def HintChosen (chose : ScopeHint → Prop) (scopeHint : Option ScopeHint) : Prop :=
  ∀ hint ∈ scopeHint, chose hint

/-- The target of an invocation was chosen, and its tenant has a policy. -/
structure InvocationChosen (chose : ScopeHint → Prop) (invocation : ProvisionInvocation) :
    Prop where
  chosen : chose invocation.scopeHint
  tenant : TenantAllowed invocation.scopeHint

/-- What a clarification is about was chosen. -/
def PendingClarification.Chosen (chose : ScopeHint → Prop) (pending : PendingClarification) :
    Prop :=
  match pending.work with
  | .intake _ => HintChosen chose pending.scopeHint
  | .provision invocation _ => InvocationChosen chose invocation

/-- The call waits for a workflow on a target that was chosen. -/
inductive WorksOn (env : HarnessEnv) (chose : ScopeHint → Prop) (call : HarnessCall) :
    (Answer → Harness HarnessEvent) → Prop
  | intake (request : IntakeRequest) {scopeHint : Option ScopeHint}
      (h : HintChosen chose scopeHint) :
      WorksOn env chose call (afterIntake env call.actor call.requestId request scopeHint)
  | provision {invocation : ProvisionInvocation} (round : ℕ)
      (h : InvocationChosen chose invocation) :
      WorksOn env chose call (afterProvision env call.actor call.requestId invocation round)

/-- The call waits on a target that was chosen, or has proposed nothing else. -/
inductive KeepsTo (env : HarnessEnv) (chose : ScopeHint → Prop) (call : HarnessCall) :
    Outcome HarnessState Await Answer Fault HarnessEvent → Prop
  | waiting (i : Await) {k : Answer → Harness HarnessEvent} (h : WorksOn env chose call k) :
      KeepsTo env chose call (.waiting i k)
  | returned {event : HarnessEvent}
      (h : ∀ proposal, event.proposal = some proposal →
        ∃ hint, chose hint ∧ ProposedWithin call.actor hint proposal) :
      KeepsTo env chose call (.returned event)
  | raised (fault : Fault) : KeepsTo env chose call (.raised fault)

/-- Every clarification in the table is about a target its user has chosen for its request id. -/
def TableChosen (chose : String → String → ScopeHint → Prop) (s : HarnessState) : Prop :=
  ∀ requestId pending, s.pending.get? requestId = some pending →
    pending.Chosen (chose pending.actorId requestId)

/-- Every call keeps to what its user has chosen, and so does every clarification. -/
structure PoolChosen (env : HarnessEnv) (chose : String → String → ScopeHint → Prop)
    (p : HarnessPool) : Prop where
  tasks : ∀ (n : ℕ) (call : HarnessCall)
    (outcome : Outcome HarnessState Await Answer Fault HarnessEvent),
    p.tasks[n]? = some ⟨call, outcome⟩ →
      KeepsTo env (chose call.userId call.requestId) call outcome
  table : TableChosen chose p.world

/-! ### Segments -/

/-- An event that is constructed keeps to what was chosen if the event does. -/
theorem KeepsTo.constructed {chose : ScopeHint → Prop} {call : HarnessCall} {minted : ℕ}
    {event : HarnessEvent}
    (h : ∀ proposal, event.proposal = some proposal →
      ∃ hint, chose hint ∧ ProposedWithin call.actor hint proposal) :
    KeepsTo env chose call (constructed env minted event) := by
  unfold PlatformOps.constructed
  cases env.eventFault minted with
  | some fault => exact .raised fault
  | none => exact .returned h

/-- The invocation of a decision that is handed over is about what was chosen. -/
theorem invocationChosen {chose : ScopeHint → Prop} {decision : IntakeDecision} {rawText : String}
    {hint : ScopeHint} {invocation : ProvisionInvocation} (h : chose hint)
    (hpolicy : decision.intent.any (checkTenantPolicy hint.tenant.orgBu) = true)
    (hinvocation : provisionInvocation rawText hint = .ok invocation) :
    InvocationChosen chose invocation := by
  obtain ⟨intent, -, hallowed⟩ := (Option.any_eq_true _ _).1 hpolicy
  unfold provisionInvocation at hinvocation
  split at hinvocation
  · cases hinvocation
    exact ⟨h, intent, hallowed⟩
  · cases hinvocation

/-- A decision is reported, asked about, or handed over. -/
theorem keepsTo_reportDecision {chose : ScopeHint → Prop} (call : HarnessCall)
    (request : IntakeRequest) {scopeHint : Option ScopeHint} (h : HintChosen chose scopeHint)
    (decision : IntakeDecision) (s : HarnessState) :
    KeepsTo env chose call
      ((reportDecision env call.actor call.requestId request scopeHint decision).run s).1 := by
  have hreport : ∀ decision : IntakeDecision, KeepsTo env chose call
      ((reportRoute env call.requestId (decisionPayload decision)).run s).1 := by
    intro decision
    rw [run_reportRoute_eq]
    exact .constructed fun proposal hproposal => by cases hproposal
  unfold reportDecision
  split
  · rw [run_askClarification]
    exact .constructed fun proposal hproposal => by cases hproposal
  split
  · exact hreport decision
  split
  · exact hreport (unauthorized decision)
  · rename_i hint
    split
    · rename_i hpolicy
      rcases hinvocation : provisionInvocation request.rawText hint with fault | invocation
      · exact .raised fault
      · have hchosen : InvocationChosen chose invocation :=
          invocationChosen (h hint rfl) hpolicy hinvocation
        rw [Coroutine.run_ofExcept_ok_bind, run_dispatchProvision]
        exact .waiting _ (.provision 0 hchosen)
    · exact hreport (unauthorized decision)

/-- The table after a question about what was chosen. -/
theorem TableChosen.asked {s : HarnessState} (hs : TableChosen chose s) {actor : ActorSession}
    {requestId : String} {scopeHint : Option ScopeHint} {work : PendingWork}
    (h : ∀ interruptId, (⟨interruptId, actor.actor.userId, scopeHint, work⟩ :
      PendingClarification).Chosen (chose actor.actor.userId requestId)) :
    TableChosen chose (s.asked env actor requestId scopeHint work) := by
  intro requestId' pending hpending
  rcases Dict.get?_set_eq_some_iff.1 hpending with ⟨rfl, rfl⟩ | ⟨-, hold⟩
  · exact h _
  · exact hs requestId' pending hold

/-- A decision leaves the table alone or stores a question about what was chosen. -/
theorem table_reportDecision {call : HarnessCall} {request : IntakeRequest}
    {scopeHint : Option ScopeHint} (h : HintChosen (chose call.userId call.requestId) scopeHint)
    (decision : IntakeDecision) {s : HarnessState} (hs : TableChosen chose s) :
    TableChosen chose
      ((reportDecision env call.actor call.requestId request scopeHint decision).run s).2 := by
  by_cases hasks : decision.clarificationQuestions = []
  · obtain ⟨minted, -, hstate⟩ := run_reportDecision_state hasks s
    rw [hstate]
    exact hs
  · rw [run_reportDecision_of_asks hasks]
    exact hs.asked fun _ => h

/-- A draft leaves the table alone or stores a question about what was chosen. -/
theorem table_reportDraft {call : HarnessCall} {invocation : ProvisionInvocation} (round : ℕ)
    (h : InvocationChosen (chose call.userId call.requestId) invocation) (draft : ProvisionDraft)
    {s : HarnessState} (hs : TableChosen chose s) :
    TableChosen chose
      ((reportDraft env call.actor call.requestId invocation round draft).run s).2 := by
  by_cases hasks : draft.clarificationQuestions = []
  · obtain ⟨event, hrun⟩ := run_reportDraft_of_not_asks env call.actor call.requestId invocation
      round hasks s
    rw [hrun]
    exact hs
  · rw [run_reportDraft_of_asks hasks]
    exact hs.asked fun _ => h

/-- **The answer to a waiting call**: it goes on with what was chosen, proposes it, and stores
questions about nothing else. -/
theorem WorksOn.answered {call : HarnessCall} {k : Answer → Harness HarnessEvent}
    (h : WorksOn env (chose call.userId call.requestId) call k) (answer : Answer)
    {s : HarnessState} (hs : TableChosen chose s) :
    KeepsTo env (chose call.userId call.requestId) call ((k answer).run s).1 ∧
      TableChosen chose ((k answer).run s).2 := by
  cases h with
  | intake request h =>
      rw [run_afterIntake]
      cases intakeAnswer request answer with
      | error fault => exact ⟨.raised fault, hs⟩
      | ok decision =>
          exact ⟨keepsTo_reportDecision call request h decision s,
            table_reportDecision h decision hs⟩
  | provision round h =>
      rename_i invocation
      rw [run_afterProvision]
      cases answer with
      | error fault => exact ⟨.raised fault, hs⟩
      | ok model =>
          rcases hdraft : provisionAnswer invocation call.actor.actor.executionGrants (.ok model)
            with fault | draft
          · exact ⟨.raised fault, hs⟩
          · refine ⟨?_, table_reportDraft round h draft hs⟩
            dsimp only
            rw [run_reportDraft]
            exact .constructed fun proposal hproposal =>
              ⟨_, h.chosen, proposal_reportedEvent hdraft h.tenant hproposal⟩

/-- A resumed clarification goes on with what was chosen. -/
theorem worksOn_resumed {chose : ScopeHint → Prop} (call : HarnessCall) {answer : String}
    {pending : PendingClarification} (h : pending.Chosen chose) :
    WorksOn env chose call (resumedCoroutine env call.actor call.requestId answer pending) := by
  unfold PendingClarification.Chosen at h
  rcases hwork : pending.work with prior | ⟨invocation, round⟩
  · simp only [hwork] at h
    simp only [resumedCoroutine, hwork]
    exact .intake _ h
  · simp only [hwork] at h
    simp only [resumedCoroutine, hwork]
    exact .provision _ ⟨h.chosen, h.tenant⟩

/-- **The first segment of a call**: a new run works on the target it is started with, and a resume
on the one of its own clarification, which it takes out of the table. -/
theorem first_segment (call : HarnessCall) {s : HarnessState} (hs : TableChosen chose s)
    (hstart : ∀ actor requestId text hint, call = .start actor requestId text (some hint) →
      chose actor.actor.userId requestId hint) :
    KeepsTo env (chose call.userId call.requestId) call ((callCoroutine env call).run s).1 ∧
      TableChosen chose ((callCoroutine env call).run s).2 := by
  cases call with
  | start actor requestId text scopeHint =>
      show KeepsTo env _ _ ((startRun env actor requestId text scopeHint).run s).1 ∧
        TableChosen chose ((startRun env actor requestId text scopeHint).run s).2
      rw [run_startRun]
      split
      · exact ⟨.raised _, hs⟩
      · have hchosen : HintChosen (chose actor.actor.userId requestId) scopeHint := by
          rintro hint rfl
          exact hstart actor requestId text hint rfl
        have hworks : WorksOn env (chose actor.actor.userId requestId)
            (.start actor requestId text scopeHint)
            (afterIntake env actor requestId ⟨text, 0⟩ scopeHint) := .intake _ hchosen
        exact ⟨.waiting _ hworks, hs⟩
  | resume actor requestId interruptId answer =>
      show KeepsTo env _ _ ((resumeClarification env actor requestId interruptId answer).run s).1 ∧
        TableChosen chose ((resumeClarification env actor requestId interruptId answer).run s).2
      by_cases hvalid : ∃ pending, ResumeValid s actor requestId interruptId answer pending
      · obtain ⟨pending, hvalid⟩ := hvalid
        rw [run_resume_of_valid hvalid]
        have hchosen : pending.Chosen (chose actor.actor.userId requestId) :=
          hvalid.own ▸ hs requestId pending hvalid.stored
        refine ⟨.waiting _ ?_, fun requestId' pending' hpending' =>
          hs requestId' pending' (Dict.get?_erase_eq_some_iff.1 hpending').2⟩
        exact worksOn_resumed (.resume actor requestId interruptId answer) hchosen
      · obtain ⟨error, hraised⟩ := run_resume_of_not_valid env (not_exists.1 hvalid)
        rw [hraised]
        exact ⟨.raised _, hs⟩

/-! ### Runs -/

/-- **A step keeps to what was chosen**, if it starts runs on chosen targets only. -/
theorem poolChosen_step {p : HarnessPool} (h : PoolChosen env chose p) {e : HarnessStep}
    (hstart : ∀ actor requestId text hint,
      e = .spawn (.start actor requestId text (some hint)) →
        chose actor.actor.userId requestId hint) :
    PoolChosen env chose ((harness env).step p e) := by
  constructor
  · intro n call outcome htask
    rcases System.task_step_cases htask with hold | ⟨call', rfl, -, htask'⟩ |
      ⟨answer, call', i, k, rfl, hwait, htask'⟩
    · exact h.tasks n call outcome hold
    · cases htask'
      exact (first_segment call h.table fun actor requestId text hint heq =>
        hstart actor requestId text hint (heq ▸ rfl)).1
    · cases htask'
      cases h.tasks n call _ hwait with
      | waiting _ hworks => exact (hworks.answered answer h.table).1
  · by_cases hruns : ∃ call c, (harness env).Runs p e call c
    · obtain ⟨call, c, hruns⟩ := hruns
      rw [hruns.world]
      cases hruns with
      | spawn =>
          exact (first_segment call h.table fun actor requestId text hint heq =>
            hstart actor requestId text hint (heq ▸ rfl)).2
      | deliver answer hwait =>
          cases h.tasks _ call _ hwait with
          | waiting _ hworks => exact (hworks.answered answer h.table).2
    · rcases System.step_cases (harness env) p e with hsome | ⟨t, rfl, hstep⟩ | hstep
      · exact absurd hsome hruns
      · rw [hstep]
        exact h.table
      · rw [hstep]
        exact h.table

/-- Every call of a run, and every clarification, keeps to what was chosen in the run. -/
theorem poolChosen_run (now : ℕ) (steps : List HarnessStep) :
    PoolChosen env (Chose steps) (harnessRun env now steps) := by
  have hfrom : ∀ (more : List HarnessStep) (p : HarnessPool), (∀ e ∈ more, e ∈ steps) →
      PoolChosen env (Chose steps) p →
        PoolChosen env (Chose steps) ((harness env).runFrom p more) := by
    intro more
    induction more with
    | nil => exact fun p _ hp => hp
    | cons e more ih =>
        intro p hmem hp
        rw [System.runFrom_cons]
        refine ih _ (fun e' he' => hmem e' (List.mem_cons_of_mem _ he'))
          (poolChosen_step hp fun actor requestId text hint he => ?_)
        exact ⟨actor, text, he ▸ hmem e List.mem_cons_self, rfl⟩
  refine hfrom steps _ (fun e he => he) ⟨fun n call outcome htask => ?_, ?_⟩
  · cases htask
  · rintro requestId pending hpending
    cases hpending

/-- **Every proposal is on a target its user chose and has grants for.** -/
theorem proposals_within_grants {now : ℕ} {steps : List HarnessStep} {n : ℕ} {call : HarnessCall}
    {event : HarnessEvent} {proposal : Json}
    (htask : (harnessRun env now steps).tasks[n]? = some ⟨call, .returned event⟩)
    (hproposal : event.proposal = some proposal) :
    ∃ hint, Chose steps call.userId call.requestId hint ∧
      ProposedWithin call.actor hint proposal := by
  cases (poolChosen_run now steps).tasks n call _ htask with
  | returned h => exact h proposal hproposal

/-- The target of the development workspace. -/
def devHint : ScopeHint := ⟨aiqTenant, some "invoices", some "dev"⟩

/-- The session of somebody who may deploy there. -/
def deployerSession : ActorSession :=
  ⟨"session-dana", ⟨"dana", "dana@example.com", [devGrant]⟩, 3600⟩

/-- A model that makes one call of this tool. -/
def callingModel (name : String) (args : List (String × Json)) : Model := fun _ =>
  .ok ⟨[.ofPairs [("name", .str name), ("args", .obj args)]]⟩

/-- A model that prepares the invoices site. -/
def staticWebModel (rawText : String) : Model := fun messages =>
  if messages = profilePrompt rawText then
    callingModel "select_deployment_profile" [("profile_id", .str awsStaticWeb)] messages
  else
    callingModel "extract_aws_static_web_request"
      [("frontend_artifact_uri", .str "s3://releases/invoices-ui.tar.gz"),
        ("frontend_hostname", .str "invoices.dev.example.com")] messages

/-- The deployer is asked what the request is for, and answers; somebody else starts a run on another
target under the same request id in between. -/
def deploySteps : List HarnessStep :=
  [.spawn (.start deployerSession "thread" "set this up" (some devHint)),
    .deliver 0 (.ok silentModel),
    .spawn (.start (hourSession "alice") "thread" "set this up" (some tenantHint)),
    .spawn (.resume deployerSession "thread" "0" "a provision request"),
    .deliver 2 (.ok selectingModel),
    .deliver 2 (.ok (staticWebModel (clarifiedText "set this up" "a provision request")))]

/-- What the deployer is proposed. -/
def invoicesRequest : AwsStaticWebProvisionRequest :=
  ⟨awsStaticWeb, devHint.scope, "s3://releases/invoices-ui.tar.gz", "invoices.dev.example.com", rfl,
    by decide, by decide⟩

set_option maxRecDepth 8000 in
theorem invoices_proposed :
    ∃ hint, Chose deploySteps "dana" "thread" hint ∧
      ProposedWithin deployerSession hint (requestPayload invoicesRequest) :=
  have htask : ∃ event, (harnessRun countingEnv 0 deploySteps).tasks[2]? =
      some ⟨.resume deployerSession "thread" "0" "a provision request", .returned event⟩ ∧
      event.proposal = some (requestPayload invoicesRequest) := ⟨_, rfl, rfl⟩
  htask.elim fun _ h => proposals_within_grants h.1 h.2

/-! ### Sessions of a device login -/

/-- Nothing is granted to somebody without grants. -/
theorem resolveExecutionCapability_nil (scope : Scope) :
    resolveExecutionCapability scope [] = .none := rfl

/-- **A session of a device login is proposed nothing**: the login gives it no grant to execute,
and a proposal needs one. -/
theorem device_login_proposes_nothing {login : DeviceLogin} {events : List LoginEvent}
    {issued : IssuedActorSession} {now : ℕ} {steps : List HarnessStep} {n : ℕ} {call : HarnessCall}
    {event : HarnessEvent}
    (hlogin : (loginOnce login).run events = some (.returned issued))
    (htask : (harnessRun env now steps).tasks[n]? = some ⟨call, .returned event⟩)
    (hsession : call.actor = issued.session) : event.proposal = none := by
  obtain ⟨completed, hissued, -⟩ := loginTraced_run hlogin
  have hgrants : call.actor.actor.executionGrants = [] := by
    rw [hsession, hissued, completed.session_eq]
    rfl
  cases (poolChosen_run now steps).tasks n call _ htask with
  | returned h =>
      rcases hproposal : event.proposal with _ | proposal
      · rfl
      · obtain ⟨hint, -, hproposed⟩ := h proposal hproposal
        have hgranted := hproposed.granted
        rw [hgrants] at hgranted
        exact absurd (resolveExecutionCapability_nil hint.scope) hgranted

/-- A login of Alice. -/
def aliceCompleted : CompletedLogin aliceLogin where
  toOpening := aliceOpening
  rounds := []
  inTime := fun _ h => absurd h List.not_mem_nil
  reading := .ofNat 6 (by decide)
  reading_lt := by norm_num [ClockReading.ofNat, aliceOpening]
  answer := .obj [("access_token", .str "access"), ("id_token", .str "id"),
    ("token_type", .str "Bearer")]
  tokens := ⟨"access", "id", "Bearer", none, none, none⟩
  tokens_eq := rfl
  jwks := .obj [("keys", .arr [])]
  claims := ⟨"user_alice", "alice@example.com", ["approvers"], none⟩
  verified := ⟨_, _, _, _, rfl, rfl, rfl, by decide, rfl, rfl⟩
  issuedAt := 0
  sessionId := "session-1"

/-- Alice asks for a provision right after her login. -/
def aliceSteps : List HarnessStep :=
  [.spawn (.start aliceCompleted.session.session "thread" "set this up" (some devHint)),
    .deliver 0 (.ok selectingModel), .deliver 0 (.ok silentModel)]

theorem alice_proposed_nothing :
    ∃ event, (harnessRun countingEnv 0 aliceSteps).tasks[0]? =
        some ⟨.start aliceCompleted.session.session "thread" "set this up" (some devHint),
          .returned event⟩ ∧
      event.proposal = none :=
  have htask : ∃ event, (harnessRun countingEnv 0 aliceSteps).tasks[0]? =
      some ⟨.start aliceCompleted.session.session "thread" "set this up" (some devHint),
        .returned event⟩ := ⟨_, rfl⟩
  htask.elim fun event h =>
    ⟨event, h, device_login_proposes_nothing (run_completed aliceCompleted) h rfl⟩

end PlatformOps
