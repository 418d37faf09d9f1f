/-
**A remote terminal and the gateway.**

A terminal client posts what its helpers build to the endpoint of the runs, one input at a time, and
observes the frames it is answered with.  Around it everything else happens at the gateway in any
order: other calls on other threads, answers of the models, time.

The helpers leave out fields that the protocol asks for.  What a transport adds, and what the
endpoint's validation makes of it, is outside both: it is assumed that what the client puts into its
inputs arrives, with nothing forwarded.

The client's inputs name no target, so that its runs never reach the provision workflow.  And it is
only the frame that ends a run that changes what the client remembers, while the gateway takes a
clarification out of its table when it accepts the resume.  A resume whose workflow fails, and a
question of the second round, therefore leave the client with an interrupt that it may not pass over
and that the gateway will never take.

Main definitions:

* `runFrames` — the frames of an answer;
* `RunTransport`, `RunTransport.Completes` — what is added to an input, and that it arrives;
* `RemoteWorld`, `RemoteStep`, `remoteStep` — a client and the gateway, and their steps;
* `RespectsThread` — a step uses the client's thread only as the client;
* `InStep` — the client and the gateway agree as far as they can;
* `Served`, `Stuck` — a run of the client is under way, and none ever will be.

Main results:

* `inStep_run` — the invariant holds throughout every run;
* `remote_client_never_provisions` — **no run of the client waits for the provision workflow**;
* `remote_stuck_iff` — **a client is stuck exactly if it has an open interrupt that is not a
  question of the first round in the table of the gateway**.
-/

import PlatformOps.RemoteTui
import PlatformOps.RunsEndpoint

set_option relaxedAutoImplicit false
set_option autoImplicit false

namespace PlatformOps

/-! ### Frames -/

/-- `platformops_event_to_run_finished`. -/
def platformopsEventToRunFinished (event : PlatformOpsEvent) (threadId runId : String) : Json :=
  .obj [("type", .str "RUN_FINISHED"), ("threadId", .str threadId), ("runId", .str runId),
    ("result", event.payload), ("outcome", .obj [("type", .str "success")])]

/-- The fields of a resolved route that are shown. -/
def routeResultFields : List String :=
  ["intent", "route", "ready_to_route", "mutation_requested", "approval_required",
    "unsupported_reason"]

/-- `platformops_event_to_a2ui_messages`: the fields that are there, in a fixed order. -/
def platformopsEventToA2uiMessages (texts : PythonTexts) (event : PlatformOpsEvent) : List Json :=
  let components := routeResultFields.filterMap fun key =>
    match (event.payload.field key).getD .null with
    | .null => none
    | value => some ("field-" ++ key, textComponent ("field-" ++ key)
        (key ++ ": " ++ answerText texts value))
  [createSurface event.eventId,
    updateComponents event.eventId
      (.obj [("id", .str "root"), ("component", .str "Column"),
        ("children", .arr (components.map fun c => .str c.1))] :: components.map Prod.snd)]

/-- The frame that starts a run. -/
def runStartedFrame (threadId runId : String) : Json :=
  .obj [("type", .str "RUN_STARTED"), ("threadId", .str threadId), ("runId", .str runId)]

/-- The frame that carries a message. -/
def messageFrame (message : Json) : Json :=
  let kind := if (message.field "createSurface").isSome then "createSurface" else "updateComponents"
  .obj [("type", .str "CUSTOM"), ("name", .str ("a2ui." ++ kind)), ("value", message)]

section

variable (texts : PythonTexts) (dates : Interaction.DatetimeTexts)

/-- The messages and the last frame for what the harness returned.  A question that does not fit a
card makes the endpoint fail. -/
def answerRun (threadId runId : String) : HarnessEvent → Except RunsFault (List Json × Json)
  | .hitl event =>
      match Interaction.hitlEventToA2uiMessages dates (.ofHarness event) with
      | .ok messages =>
          .ok (messages, Interaction.hitlEventToRunFinished dates (.ofHarness event) threadId runId)
      | .error fault => .error (.escapes fault)
  | .platform event =>
      .ok (platformopsEventToA2uiMessages texts event,
        platformopsEventToRunFinished event threadId runId)

/-- `event_stream`. -/
def runFrames (threadId runId : String) (messages : List Json) (finished : Json) : List Json :=
  runStartedFrame threadId runId :: messages.map messageFrame ++ [finished]

/-! ### Inputs -/

/-- What is between a client and the endpoint: what a transport adds to an input, and
`RunAgentInput.model_validate`. -/
structure RunTransport where
  complete : Json → Json
  validate : Json → Option RunAgentInput

/-- The entry that the endpoint reads of a response. -/
def resumeEntryOf (response : Interaction.HITLResponse) : ResumeEntry :=
  ⟨response.eventId,
    if response.verdict = .cancel then .null else .obj (response.payload dates)⟩

/-- The transport adds what makes the inputs of a client valid, and nothing else: what the client put
into them arrives, and nothing is forwarded. -/
structure RunTransport.Completes (transport : RunTransport) : Prop where
  user : ∀ threadId runId message,
    transport.validate (transport.complete (userRunInput threadId runId message)) =
      some ⟨threadId, runId, [some message], [], .obj []⟩
  resume : ∀ threadId runId responses,
    transport.validate (transport.complete (resumeRunInput dates threadId runId responses)) =
      some ⟨threadId, runId, [], responses.map (resumeEntryOf dates), .obj []⟩

/-! ### A client and the gateway -/

/-- A client, the harness, and the call that the client waits for, with the id of its run. -/
structure RemoteWorld where
  client : RemoteTUIState
  pool : HarnessPool
  outstanding : Option (ℕ × String)

/-- The client sends a message, answers its interrupts or is answered, or something else happens at
the gateway. -/
inductive RemoteStep
  | user (actor : ActorSession) (runId message : String)
  | resume (actor : ActorSession) (runId : String) (responses : List Interaction.HITLResponse)
  | receive
  | gateway (e : HarnessStep)

/-- A client that observes frames one after another.  What is raised leaves it as it is. -/
def RemoteTUIState.observe (client : RemoteTUIState) (frames : List Json) : RemoteTUIState :=
  frames.foldl (fun state frame => (observeAguiEvent state frame).toOption.getD state) client

variable (env : HarnessEnv)

/-- The world after the client made a call. -/
def RemoteWorld.calling (w : RemoteWorld) (runId : String) (call : HarnessCall) : RemoteWorld :=
  { w with
    pool := (harness env).step w.pool (.spawn call)
    outstanding := some (w.pool.tasks.length, runId) }

variable (transport : RunTransport)

/-- A client that waits for nothing posts what was built.  What the endpoint refuses before it calls
the harness is answered at once. -/
def RemoteWorld.post (w : RemoteWorld) (actor : ActorSession) (runId : String)
    (built : Except RemoteFault Json) : RemoteWorld :=
  match w.outstanding, built with
  | none, .ok body =>
      match runsCall texts transport.validate actor (.ok (transport.complete body)) with
      | .ok call => w.calling env runId call
      | .error _ => w
  | _, _ => w

/-- The answer to a call that has ended: frames, or an error. -/
def RemoteWorld.answered (w : RemoteWorld) (runId : String) :
    Outcome HarnessState Await Answer Fault HarnessEvent → RemoteWorld
  | .returned event =>
      match answerRun texts dates w.client.threadId runId event with
      | .ok (messages, finished) =>
          { w with
            client := w.client.observe (runFrames w.client.threadId runId messages finished)
            outstanding := none }
      | .error _ => { w with outstanding := none }
  | .raised _ => { w with outstanding := none }
  | .waiting _ _ => w

def remoteStep (w : RemoteWorld) : RemoteStep → RemoteWorld
  | .user actor runId message =>
      w.post texts env transport actor runId (buildUserRunInput w.client runId message)
  | .resume actor runId responses =>
      w.post texts env transport actor runId (buildResumeRunInput dates w.client runId responses)
  | .gateway e => { w with pool := (harness env).step w.pool e }
  | .receive =>
      match w.outstanding with
      | none => w
      | some (n, runId) =>
          match w.pool.tasks[n]? with
          | none => w
          | some task => w.answered texts dates runId task.outcome

/-- The steps of a list, one after another. -/
def remoteFrom (w : RemoteWorld) (steps : List RemoteStep) : RemoteWorld :=
  steps.foldl (remoteStep texts dates env transport) w

/-- A run of a new client and a new harness. -/
def remoteRun (threadId : String) (now : ℕ) (steps : List RemoteStep) : RemoteWorld :=
  remoteFrom texts dates env transport ⟨.new threadId, ⟨.initial now, []⟩, none⟩ steps

end

/-- The client's sessions are of this user, and nobody else calls the harness on its thread. -/
def RespectsThread (threadId userId : String) : RemoteStep → Prop
  | .user actor _ _ => actor.actor.userId = userId
  | .resume actor _ _ => actor.actor.userId = userId
  | .receive => True
  | .gateway (.spawn call) => call.requestId ≠ threadId
  | .gateway _ => True

/-! ### Agreement -/

/-- The clarification is one of this user that the intake asked without a target. -/
structure OwnPending (userId : String) (pending : PendingClarification) : Prop where
  own : pending.actorId = userId
  targetless : pending.scopeHint = none
  intake : ∃ request, pending.work = .intake request

/-- A call of the client waits for the intake, without a target, or has ended; a question it
returned is in the table. -/
structure OwnTask (env : HarnessEnv) (threadId userId : String) (s : HarnessState)
    (task : CallTask HarnessState Await Answer Fault HarnessEvent HarnessCall) : Prop where
  thread : task.call.requestId = threadId
  user : task.call.userId = userId
  waits : ∀ i k, task.outcome = .waiting i k →
    ∃ request, i = .intake request ∧ k = afterIntake env task.call.actor threadId request none
  asked : ∀ event, task.outcome = .returned (.hitl event) →
    ∃ pending, s.pending.get? threadId = some pending ∧ pending.interruptId = event.eventId

/-- The client has at most one interrupt open, the gateway has at most a clarification of it in the
table, and of the calls on its thread only the outstanding one waits. -/
structure InStep (env : HarnessEnv) (threadId userId : String) (w : RemoteWorld) : Prop where
  waiting : System.Waiting (Suspended env) w.pool
  thread : w.client.threadId = threadId
  openIds : w.client.pendingInterruptIds = [] ∨
    ∃ id, w.client.pendingInterruptIds = [.str id]
  entry : ∀ pending, w.pool.world.pending.get? threadId = some pending → OwnPending userId pending
  sole : ∀ n call i k, w.pool.tasks[n]? = some ⟨call, .waiting i k⟩ → call.requestId = threadId →
    ∃ runId, w.outstanding = some (n, runId)
  task : ∀ n runId, w.outstanding = some (n, runId) →
    ∃ task, w.pool.tasks[n]? = some task ∧ OwnTask env threadId userId w.pool.world task

/-- A run of the client is under way: the call it waits for has not ended. -/
def Served (w : RemoteWorld) : Prop :=
  ∃ n runId call i k, w.outstanding = some (n, runId) ∧
    w.pool.tasks[n]? = some ⟨call, .waiting i k⟩

/-- Whatever happens, no run of the client is under way then or later. -/
def Stuck (texts : PythonTexts) (dates : Interaction.DatetimeTexts) (env : HarnessEnv)
    (transport : RunTransport) (threadId userId : String) (w : RemoteWorld) : Prop :=
  ∀ more, (∀ e ∈ more, RespectsThread threadId userId e) →
    ¬ Served (remoteFrom texts dates env transport w more)

variable {texts : PythonTexts} {dates : Interaction.DatetimeTexts} {env : HarnessEnv}
  {transport : RunTransport} {threadId userId : String} {w : RemoteWorld}

/-! ### What is posted -/

/-- What a client in step calls: a message while nothing is open, or an answer to its only
interrupt. -/
inductive OwnCall (client : RemoteTUIState) (userId : String) : HarnessCall → Prop
  | message {actor : ActorSession} (text : String) (user : actor.actor.userId = userId)
      (closed : client.pendingInterruptIds = []) :
      OwnCall client userId (.start actor client.threadId text none)
  | answer {actor : ActorSession} {id : String} (text : String) (user : actor.actor.userId = userId)
      (opened : client.pendingInterruptIds = [.str id]) :
      OwnCall client userId (.resume actor client.threadId id text)

theorem harnessRequest_message (runId message : String) :
    harnessRequest ⟨threadId, runId, [some message], [], .obj []⟩ =
      if message = "" then .error (.httpError 400 "last message must have text content")
      else .ok (.start message none) := by
  unfold harnessRequest
  show (extractText [some message] >>= fun text => _) = _
  unfold extractText
  by_cases h : message = ""
  · simp only [List.getLast?_singleton, if_pos h]
    rfl
  · simp only [List.getLast?_singleton, if_neg h]
    rfl

/-- What a message that arrives asks the harness for. -/
theorem runsCall_user (hcomplete : transport.Completes dates) (actor : ActorSession)
    (runId message : String) :
    runsCall texts transport.validate actor
        (.ok (transport.complete (userRunInput threadId runId message))) =
      if message = "" then .error (.httpError 400 "last message must have text content")
      else .ok (.start actor threadId message none) := by
  have hread := readRunInput_eq_ok_iff.2 ⟨_, rfl, hcomplete.user threadId runId message⟩
  unfold runsCall
  rw [hread]
  simp only [bind, Except.bind, harnessRequest_message]
  by_cases h : message = ""
  · rw [if_pos h, if_pos h]
  · rw [if_neg h, if_neg h]
    rfl

/-- What a resume that arrives asks the harness for. -/
theorem runsCall_resume (hcomplete : transport.Completes dates) (actor : ActorSession)
    (runId : String) (responses : List Interaction.HITLResponse) :
    runsCall texts transport.validate actor
        (.ok (transport.complete (resumeRunInput dates threadId runId responses))) =
      (harnessRequest ⟨threadId, runId, [], responses.map (resumeEntryOf dates), .obj []⟩).map
        fun request => request.call texts actor threadId := by
  have hread := readRunInput_eq_ok_iff.2 ⟨_, rfl, hcomplete.resume threadId runId responses⟩
  unfold runsCall
  rw [hread]
  rfl

/-- A message is posted while nothing is open and nothing is waited for. -/
theorem post_message (hcomplete : transport.Completes dates) {actor : ActorSession}
    {runId message : String} (hnone : w.outstanding = none)
    (hclosed : w.client.pendingInterruptIds = []) (hmessage : message ≠ "") :
    remoteStep texts dates env transport w (.user actor runId message) =
      w.calling env runId (.start actor w.client.threadId message none) := by
  have hbuilt : buildUserRunInput w.client runId message =
      .ok (userRunInput w.client.threadId runId message) :=
    buildUserRunInput_eq_ok_iff.2 ⟨hclosed, rfl⟩
  simp only [remoteStep, RemoteWorld.post, hnone, hbuilt, runsCall_user hcomplete, if_neg hmessage]

variable (texts env w) in
theorem post_user_cases (hcomplete : transport.Completes dates) (actor : ActorSession)
    (runId message : String) :
    remoteStep texts dates env transport w (.user actor runId message) = w ∨
      w.outstanding = none ∧ w.client.pendingInterruptIds = [] ∧
        remoteStep texts dates env transport w (.user actor runId message) =
          w.calling env runId (.start actor w.client.threadId message none) := by
  by_cases hpost : w.outstanding = none ∧ w.client.pendingInterruptIds = [] ∧ message ≠ ""
  · obtain ⟨hnone, hclosed, hmessage⟩ := hpost
    exact .inr ⟨hnone, hclosed, post_message hcomplete hnone hclosed hmessage⟩
  · refine .inl ?_
    show w.post texts env transport actor runId (buildUserRunInput w.client runId message) = w
    unfold RemoteWorld.post
    cases hnone : w.outstanding with
    | some call => rfl
    | none =>
        cases hbuilt : buildUserRunInput w.client runId message with
        | error fault => rfl
        | ok body =>
            obtain ⟨hclosed, rfl⟩ := buildUserRunInput_eq_ok_iff.1 hbuilt
            have hmessage : message = "" := by
              by_contra hne
              exact hpost ⟨hnone, hclosed, hne⟩
            simp only [runsCall_user hcomplete, if_pos hmessage]

variable (texts env) in
theorem post_resume_cases (hcomplete : transport.Completes dates)
    (hopen : w.client.pendingInterruptIds = [] ∨ ∃ id, w.client.pendingInterruptIds = [.str id])
    (actor : ActorSession) (runId : String) (responses : List Interaction.HITLResponse) :
    remoteStep texts dates env transport w (.resume actor runId responses) = w ∨
      w.outstanding = none ∧ ∃ id text, w.client.pendingInterruptIds = [.str id] ∧
        remoteStep texts dates env transport w (.resume actor runId responses) =
          w.calling env runId (.resume actor w.client.threadId id text) := by
  show w.post texts env transport actor runId (buildResumeRunInput dates w.client runId
      responses) = w ∨
    w.outstanding = none ∧ ∃ id text, w.client.pendingInterruptIds = [.str id] ∧
      w.post texts env transport actor runId (buildResumeRunInput dates w.client runId
        responses) = _
  unfold RemoteWorld.post
  cases hnone : w.outstanding with
  | some call => exact .inl rfl
  | none =>
      cases hbuilt : buildResumeRunInput dates w.client runId responses with
      | error fault => exact .inl rfl
      | ok body =>
          obtain ⟨hne, haddresses, rfl⟩ := buildResumeRunInput_eq_ok_iff.1 hbuilt
          obtain ⟨id, hid⟩ := hopen.resolve_left hne
          simp only [runsCall_resume hcomplete]
          have hresume : responses.map (resumeEntryOf dates) ≠ [] := by
            obtain ⟨response, hresponse, -⟩ := haddresses.each (.str id) (by simp [hid])
            simpa using List.ne_nil_of_mem hresponse
          rcases @harnessRequest_cases ⟨w.client.threadId, runId, [],
              responses.map (resumeEntryOf dates), .obj []⟩ hresume with
            ⟨entry, answer, hentry, -, hpassed⟩ | ⟨detail, hrefused, -⟩ | ⟨entry, -, -, hfails⟩
          · obtain ⟨response, rfl, rfl⟩ := List.map_eq_singleton_iff.1 hentry
            have hnamed : response.eventId = id := by
              have hmem := haddresses.opened response (by simp)
              rw [hid] at hmem
              simpa using hmem
            rw [hpassed]
            exact .inr ⟨trivial, response.eventId, answerText texts answer, hnamed ▸ hid, rfl⟩
          · rw [hrefused]
            exact .inl rfl
          · rw [hfails]
            exact .inl rfl

/-! ### The segments of the client's calls -/

/-- **The first segment of a call of the client** raises, or waits for the intake without a
target. -/
theorem run_ownCall {client : RemoteTUIState} {call : HarnessCall} {s : HarnessState}
    (h : OwnCall client userId call)
    (hentry : ∀ pending, s.pending.get? client.threadId = some pending →
      OwnPending userId pending) :
    (∃ error, (callCoroutine env call).run s = (.raised (.valueError error), s)) ∨
      ∃ request s', (callCoroutine env call).run s =
          (.waiting (.intake request)
            (afterIntake env call.actor client.threadId request none), s') ∧
        (s' = s ∨ s' = { s with pending := s.pending.erase client.threadId }) := by
  cases h with
  | message text user closed =>
      rename_i actor
      have hrun : (callCoroutine env (.start actor client.threadId text none)).run s = _ :=
        run_startRun actor client.threadId text none s
      by_cases hexpired : actor.isExpired s.now = true
      · rw [if_pos hexpired] at hrun
        exact .inl ⟨_, hrun⟩
      · rw [if_neg hexpired] at hrun
        exact .inr ⟨⟨text, 0⟩, s, hrun, .inl rfl⟩
  | answer text user opened =>
      rename_i actor id
      by_cases hvalid : ∃ pending, ResumeValid s actor client.threadId id text pending
      · obtain ⟨pending, hvalid⟩ := hvalid
        obtain ⟨request, hwork⟩ := (hentry pending hvalid.stored).intake
        have hrun : (callCoroutine env (.resume actor client.threadId id text)).run s = _ :=
          run_resume_of_valid hvalid
        simp only [resumedAwait, resumedCoroutine, hwork,
          (hentry pending hvalid.stored).targetless] at hrun
        exact .inr ⟨request.clarified text, _, hrun, .inr rfl⟩
      · obtain ⟨error, hrun⟩ := run_resume_of_not_valid env (not_exists.1 hvalid)
        exact .inl ⟨error, hrun⟩

variable (env) in
/-- **What follows the intake without a target** is an error, a report, or a question. -/
theorem run_afterIntake_targetless (actor : ActorSession) (requestId : String)
    (request : IntakeRequest) (answer : Answer) (s : HarnessState) :
    (∃ fault, (afterIntake env actor requestId request none answer).run s = (.raised fault, s)) ∨
      (∃ event, (afterIntake env actor requestId request none answer).run s =
        (constructed env (s.minted + 1) (.platform event), { s with minted := s.minted + 1 })) ∨
      ∃ decision, (afterIntake env actor requestId request none answer).run s =
        (constructed env (s.minted + 1) (.hitl (questionEvent env s actor requestId decision)),
          s.asked env actor requestId none (.intake request)) := by
  rw [run_afterIntake]
  cases intakeAnswer request answer with
  | error fault => exact .inl ⟨fault, rfl⟩
  | ok decision =>
      by_cases hasks : decision.clarificationQuestions = []
      · rcases run_reportDecision_of_not_asks env actor requestId request none hasks s
          with ⟨event, hrun⟩ | ⟨fault, hrun⟩ | ⟨invocation, hover, -⟩
        · exact .inr (.inl ⟨event, hrun⟩)
        · exact .inl ⟨fault, hrun⟩
        · obtain ⟨hint, hnone, -⟩ := hover.authorized
          cases hnone
      · exact .inr (.inr ⟨decision, run_reportDecision_of_asks hasks s⟩)

theorem OwnCall.requestId_eq {client : RemoteTUIState} {call : HarnessCall}
    (h : OwnCall client userId call) : call.requestId = client.threadId := by
  cases h with
  | message => rfl
  | answer => rfl

theorem OwnCall.userId_eq {client : RemoteTUIState} {call : HarnessCall}
    (h : OwnCall client userId call) : call.userId = userId := by
  cases h with
  | message text user => exact user
  | answer text user => exact user

/-! ### Steps keep the agreement -/

/-- A step that runs no segment on a thread keeps its entry. -/
theorem entry_of_other {p : HarnessPool} {e : HarnessStep} (hp : System.Waiting (Suspended env) p)
    (hother : ∀ call c, (harness env).Runs p e call c → call.requestId ≠ threadId) :
    ((harness env).step p e).world.pending.get? threadId = p.world.pending.get? threadId := by
  have heffect := step_effect hp e
  generalize ((harness env).step p e).world = s at heffect
  cases heffect with
  | kept hpending => rw [hpending]
  | popped h =>
      obtain ⟨rfl, -⟩ := h
      exact Dict.get?_erase_of_ne _ (hother _ _ (.spawn _)).symm
  | asked h =>
      obtain ⟨n, answer, i, k, rfl, hwait, -⟩ := h
      exact Dict.get?_set_of_ne _ _ (hother _ _ (.deliver answer hwait)).symm

/-- What the harness has in its table under a thread is the same, and so is a task. -/
theorem OwnTask.congr {s s' : HarnessState}
    {task : CallTask HarnessState Await Answer Fault HarnessEvent HarnessCall}
    (h : OwnTask env threadId userId s task)
    (hentry : s'.pending.get? threadId = s.pending.get? threadId) :
    OwnTask env threadId userId s' task where
  thread := h.thread
  user := h.user
  waits := h.waits
  asked event hevent := by
    rw [hentry]
    exact h.asked event hevent

/-- **A call of the client keeps the agreement.** -/
theorem inStep_calling (h : InStep env threadId userId w) (hnone : w.outstanding = none)
    {call : HarnessCall} (hcall : OwnCall w.client userId call) (runId : String) :
    InStep env threadId userId (w.calling env runId call) := by
  have hthread := h.thread
  subst hthread
  have hentry : ∀ pending, (w.calling env runId call).pool.world.pending.get? w.client.threadId =
      some pending → OwnPending userId pending := by
    show ∀ pending, ((callCoroutine env call).run w.pool.world).2.pending.get? w.client.threadId =
      some pending → OwnPending userId pending
    rcases run_ownCall hcall h.entry with ⟨error, hrun⟩ |
      ⟨request, s', hrun, rfl | rfl⟩
    · rw [hrun]
      exact h.entry
    · rw [hrun]
      exact h.entry
    · rw [hrun]
      intro pending hpending
      rw [Dict.get?_erase_self] at hpending
      cases hpending
  refine ⟨suspends_suspended.step_waiting _ _ h.waiting, rfl, h.openIds, hentry, ?_, ?_⟩
  · intro n call' i k htask hown
    rcases System.task_step_cases htask with hold | ⟨call'', hspawn, hn, -⟩ |
      ⟨answer, _, _, _, he, -⟩
    · obtain ⟨runId', houtstanding⟩ := h.sole n call' i k hold hown
      rw [hnone] at houtstanding
      cases houtstanding
    · exact ⟨runId, by rw [hn]; rfl⟩
    · cases he
  · rintro n runId' ⟨⟩
    refine ⟨⟨call, ((callCoroutine env call).run w.pool.world).1⟩, ?_, hcall.requestId_eq,
      hcall.userId_eq, ?_, ?_⟩
    · show ((harness env).step w.pool (.spawn call)).tasks[w.pool.tasks.length]? = _
      rw [System.step_spawn]
      simp [harness]
    · intro i k hwait
      rcases run_ownCall hcall h.entry with ⟨error, hrun⟩ | ⟨request, s', hrun, -⟩
      · rw [hrun] at hwait
        cases hwait
      · rw [hrun] at hwait
        cases hwait
        exact ⟨request, rfl, rfl⟩
    · intro event hreturned
      rcases run_ownCall hcall h.entry with ⟨error, hrun⟩ | ⟨request, s', hrun, -⟩
      · rw [hrun] at hreturned
        cases hreturned
      · rw [hrun] at hreturned
        cases hreturned

/-! ### What a client observes of an answer -/

theorem getOf_of_field {value result : Json} {key : String} (h : value.field key = some result) :
    getOf value key = .ok result := by
  unfold Json.field at h
  unfold getOf
  cases hfields : value.asObject with
  | none =>
      rw [hfields] at h
      cases h
  | some fields =>
      rw [hfields] at h
      simp only [Option.bind_some] at h
      simp [h]

theorem RunEnds.type {event : Json} {ids : List Json} {runId : Json}
    (h : RunEnds threadId event ids runId) : getOf event "type" = .ok (.str "RUN_FINISHED") := by
  cases h with
  | success ends => exact ends.type
  | interrupt ends => exact ends.type

/-- A frame of another type changes nothing. -/
theorem observe_of_type {client : RemoteTUIState} {frame : Json} {type : String}
    (htype : getOf frame "type" = .ok (.str type)) (hne : type ≠ "RUN_FINISHED") :
    (observeAguiEvent client frame).toOption.getD client = client := by
  refine observeAguiEvent_of_not_ends fun ids runId hends => hne ?_
  have hsame := htype.symm.trans hends.type
  simpa using hsame

/-- **Of the frames of an answer the last one counts.** -/
theorem observe_runFrames (client : RemoteTUIState) (runId : String) (messages : List Json)
    (finished : Json) :
    client.observe (runFrames threadId runId messages finished) =
      (observeAguiEvent client finished).toOption.getD client := by
  have hmessages : ∀ frames : List Json, client.observe (frames.map messageFrame) = client := by
    intro frames
    induction frames with
    | nil => rfl
    | cons frame frames ih =>
        have hcustom : (observeAguiEvent client (messageFrame frame)).toOption.getD client =
            client := observe_of_type rfl (by decide : "CUSTOM" ≠ "RUN_FINISHED")
        exact (congrArg (RemoteTUIState.observe · (frames.map messageFrame)) hcustom).trans ih
  have hstarted : (observeAguiEvent client (runStartedFrame threadId runId)).toOption.getD client =
      client := observe_of_type rfl (by decide : "RUN_STARTED" ≠ "RUN_FINISHED")
  unfold runFrames RemoteTUIState.observe
  rw [List.cons_append, List.foldl_cons, List.foldl_append, hstarted]
  exact congrArg (fun state => (observeAguiEvent state finished).toOption.getD state)
    (hmessages messages)

/-- The frame for a question of this thread announces the question, and nothing else. -/
theorem ids_of_question {event : HITLEvent} {runId : String} {ids : List Json} {run : Json}
    (h : RunEnds threadId
      (Interaction.hitlEventToRunFinished dates (.ofHarness event) threadId runId) ids run) :
    ids = [.str event.eventId] := by
  have hid := getOf_of_field (@Interaction.fields_interrupt dates (.ofHarness event)).1
  cases h with
  | success ends given plain =>
      rename_i outcome
      cases given
      obtain ⟨type, htype, hne⟩ := plain rfl
      cases htype
      exact absurd rfl hne
  | interrupt ends outcomeGiven isInterrupt listed items named nonempty run =>
      cases outcomeGiven
      cases listed
      cases items
      rw [List.mapM_cons, bind_eq_ok_iff] at named
      obtain ⟨id, hnamed, hrest⟩ := named
      obtain ⟨read, hread, hnamed⟩ := bind_eq_ok_iff.1 hnamed
      rw [hid] at hread
      cases hread
      split at hnamed
      · cases hnamed
        cases hrest
        rfl
      · cases hnamed

variable (dates) in
/-- A client that is answered with a question remembers it, unless its id is empty. -/
theorem observe_question (client : RemoteTUIState) (runId : String) (messages : List Json)
    (event : HITLEvent) :
    client.observe (runFrames client.threadId runId messages
        (Interaction.hitlEventToRunFinished dates (.ofHarness event) client.threadId runId)) =
      client ∨
    ∃ run, client.observe (runFrames client.threadId runId messages
        (Interaction.hitlEventToRunFinished dates (.ofHarness event) client.threadId runId)) =
      ⟨client.threadId, [.str event.eventId], run⟩ := by
  rw [observe_runFrames]
  by_cases h : ∃ ids run, RunEnds client.threadId
      (Interaction.hitlEventToRunFinished dates (.ofHarness event) client.threadId runId) ids run
  · obtain ⟨ids, run, hends⟩ := h
    obtain rfl := ids_of_question hends
    rw [observeAguiEvent_of_ends hends]
    exact .inr ⟨run, rfl⟩
  · exact .inl (observeAguiEvent_of_not_ends fun ids run hends => h ⟨ids, run, hends⟩)

/-- A client that is answered with a report has nothing open. -/
theorem observe_report (client : RemoteTUIState) (runId : String) (messages : List Json)
    (event : PlatformOpsEvent) :
    client.observe (runFrames client.threadId runId messages
        (platformopsEventToRunFinished event client.threadId runId)) =
      .new client.threadId := by
  rw [observe_runFrames]
  have hends : RunEnds client.threadId
      (platformopsEventToRunFinished event client.threadId runId) [] .null :=
    .success ⟨⟨.str client.threadId, rfl, by simp [isOther, Json.asString, Interaction.isNull]⟩,
      rfl⟩ rfl fun _ => ⟨.str "success", rfl, by simp⟩
  rw [observeAguiEvent_of_ends hends]
  rfl

variable (texts dates w) in
/-- The client after an answer: as before, with one question open, or with nothing open. -/
theorem answered_cases (runId : String)
    (outcome : Outcome HarnessState Await Answer Fault HarnessEvent) :
    w.answered texts dates runId outcome = w ∨
      (∀ i k, outcome ≠ .waiting i k) ∧
        (w.answered texts dates runId outcome).pool = w.pool ∧
        (w.answered texts dates runId outcome).outstanding = none ∧
        ((w.answered texts dates runId outcome).client = w.client ∨
          (∃ id run, (w.answered texts dates runId outcome).client =
            ⟨w.client.threadId, [.str id], run⟩) ∨
          (w.answered texts dates runId outcome).client = .new w.client.threadId) := by
  cases outcome with
  | waiting i k => exact .inl rfl
  | raised fault => exact .inr ⟨by simp, rfl, rfl, .inl rfl⟩
  | returned event =>
      refine .inr ⟨by simp, ?_⟩
      unfold RemoteWorld.answered
      cases event with
      | hitl event =>
          cases hmessages : Interaction.hitlEventToA2uiMessages dates (.ofHarness event) with
          | error fault =>
              simp only [answerRun, hmessages]
              exact ⟨trivial, trivial, .inl trivial⟩
          | ok messages =>
              simp only [answerRun, hmessages]
              refine ⟨trivial, trivial, ?_⟩
              rcases observe_question dates w.client runId messages event with
                hsame | ⟨run, hrun⟩
              · exact .inl hsame
              · exact .inr (.inl ⟨_, run, hrun⟩)
      | platform event =>
          simp only [answerRun]
          exact ⟨trivial, trivial, .inr (.inr (observe_report w.client runId _ event))⟩

/-- **An answer keeps the agreement.** -/
theorem inStep_receive (h : InStep env threadId userId w) :
    InStep env threadId userId (remoteStep texts dates env transport w .receive) := by
  show InStep env threadId userId (match w.outstanding with
    | none => w
    | some (n, runId) =>
        match w.pool.tasks[n]? with
        | none => w
        | some task => w.answered texts dates runId task.outcome)
  cases houtstanding : w.outstanding with
  | none => exact h
  | some call =>
      obtain ⟨n, runId⟩ := call
      obtain ⟨task, htask, hown⟩ := h.task n runId houtstanding
      simp only [htask]
      rcases answered_cases texts dates w runId task.outcome with
        hsame | ⟨hended, hpool, hnone, hclient⟩
      · rw [hsame]
        exact h
      · obtain ⟨hthread, hopen⟩ : (w.answered texts dates runId task.outcome).client.threadId =
            threadId ∧ ((w.answered texts dates runId task.outcome).client.pendingInterruptIds = [] ∨
              ∃ id, (w.answered texts dates runId task.outcome).client.pendingInterruptIds =
                [.str id]) := by
          rcases hclient with hclient | ⟨id, run, hclient⟩ | hclient
          · rw [hclient]
            exact ⟨h.thread, h.openIds⟩
          · rw [hclient]
            exact ⟨h.thread, .inr ⟨id, rfl⟩⟩
          · rw [hclient]
            exact ⟨h.thread, .inl rfl⟩
        refine ⟨hpool ▸ h.waiting, hthread, hopen, hpool ▸ h.entry, ?_, ?_⟩
        · -- the call that was outstanding has ended, and no other call of the thread waits
          intro m call i k hwait hcall
          rw [hpool] at hwait
          obtain ⟨runId', hsole⟩ := h.sole m call i k hwait hcall
          rw [houtstanding] at hsole
          cases hsole
          rw [htask] at hwait
          cases hwait
          exact absurd rfl (hended i k)
        · intro m runId' hsome
          rw [hnone] at hsome
          cases hsome

/-! ### Steps of the gateway -/

/-- **A step that runs nothing on the thread keeps the agreement.** -/
theorem inStep_of_other (h : InStep env threadId userId w) {e : HarnessStep}
    (hother : ∀ call c, (harness env).Runs w.pool e call c → call.requestId ≠ threadId) :
    InStep env threadId userId { w with pool := (harness env).step w.pool e } := by
  have hentry := entry_of_other h.waiting hother
  refine ⟨suspends_suspended.step_waiting _ _ h.waiting, h.thread, h.openIds, ?_, ?_, ?_⟩
  · intro pending hpending
    exact h.entry pending (hentry ▸ hpending)
  · intro n call i k htask hcall
    rcases System.task_step_cases htask with hold | ⟨call', rfl, -, hnew⟩ |
      ⟨answer, call', i', k', rfl, hwait, hnew⟩
    · exact h.sole n call i k hold hcall
    · obtain rfl : call = call' := congrArg CallTask.call hnew
      exact absurd hcall (hother _ _ (.spawn _))
    · obtain rfl : call = call' := congrArg CallTask.call hnew
      exact absurd hcall (hother _ _ (.deliver answer hwait))
  · intro n runId houtstanding
    obtain ⟨task, htask, hown⟩ := h.task n runId houtstanding
    refine ⟨task, System.task_step_of_idle htask ?_, hown.congr hentry⟩
    intro answer i k he hwaits
    subst he
    have hwait : w.pool.tasks[n]? = some ⟨task.call, .waiting i k⟩ := by
      rw [htask, ← hwaits]
    exact hother _ _ (.deliver answer hwait) hown.thread

variable (env) in
/-- **What follows the intake of a call of the client**: the call has ended, and a question it
returned is in the table. -/
theorem ownTask_answered {call : HarnessCall} (hthread : call.requestId = threadId)
    (huser : call.userId = userId) (request : IntakeRequest) (answer : Answer) {s : HarnessState}
    (hentry : ∀ pending, s.pending.get? threadId = some pending → OwnPending userId pending) :
    let ended := (afterIntake env call.actor threadId request none answer).run s
    OwnTask env threadId userId ended.2 ⟨call, ended.1⟩ ∧
      (∀ i k, ended.1 ≠ .waiting i k) ∧
      ∀ pending, ended.2.pending.get? threadId = some pending → OwnPending userId pending := by
  intro ended
  have hended : ended = (afterIntake env call.actor threadId request none answer).run s := rfl
  rcases run_afterIntake_targetless env call.actor threadId request answer s with
    ⟨fault, hrun⟩ | ⟨event, hrun⟩ | ⟨decision, hrun⟩
  · rw [hended, hrun]
    exact ⟨⟨hthread, huser, by simp, by simp⟩, by simp, hentry⟩
  · rw [hended, hrun]
    refine ⟨⟨hthread, huser, fun i k hwait => absurd hwait constructed_ne_waiting, ?_⟩,
      fun i k => constructed_ne_waiting, hentry⟩
    intro question hquestion
    exact absurd hquestion constructed_platform_ne
  · rw [hended, hrun]
    refine ⟨⟨hthread, huser, fun i k hwait => absurd hwait constructed_ne_waiting, ?_⟩,
      fun i k => constructed_ne_waiting, ?_⟩
    · intro question hquestion
      rw [constructed_hitl_eq hquestion]
      exact ⟨_, Dict.get?_set_self _ _ _, rfl⟩
    · intro pending hpending
      have hstored := (Dict.get?_set_self _ _ _).symm.trans hpending
      cases hstored
      exact ⟨huser, rfl, request, rfl⟩

/-- **An answer to the call of the client keeps the agreement.** -/
theorem inStep_deliver_own (h : InStep env threadId userId w) {n : ℕ} {call : HarnessCall}
    {i : Await} {k : Answer → Harness HarnessEvent} (answer : Answer)
    (hwait : w.pool.tasks[n]? = some ⟨call, .waiting i k⟩) (hcall : call.requestId = threadId) :
    InStep env threadId userId
      { w with pool := (harness env).step w.pool (.deliver n answer) } := by
  obtain ⟨runId, houtstanding⟩ := h.sole n call i k hwait hcall
  obtain ⟨task, htask, hown⟩ := h.task n runId houtstanding
  rw [hwait] at htask
  cases htask
  obtain ⟨request, -, hk⟩ := hown.waits i k rfl
  obtain rfl : k = afterIntake env call.actor threadId request none := hk
  obtain ⟨htask, hended, hentry⟩ :=
    ownTask_answered env hcall hown.user request answer h.entry
  have hstep := @System.step_deliver _ _ _ _ _ _ _ (harness env) _ _ _ _ _ answer hwait
  refine ⟨suspends_suspended.step_waiting _ _ h.waiting, h.thread, h.openIds, ?_, ?_, ?_⟩
  · rw [hstep]
    exact hentry
  · intro m call' i' k' htask' hcall'
    rcases System.task_step_cases htask' with hold | ⟨_, he, -⟩ | ⟨answer', _, _, _, he, -⟩
    · exact h.sole m call' i' k' hold hcall'
    · cases he
    · cases he
      exact ⟨runId, houtstanding⟩
  · intro m runId' hsome
    rw [houtstanding] at hsome
    cases hsome
    refine ⟨_, ?_, by rw [hstep]; exact htask⟩
    rw [hstep]
    exact List.getElem?_set_self (List.getElem?_eq_some_iff.1 hwait).1

/-- **Every step keeps the agreement.** -/
theorem inStep_step (hcomplete : transport.Completes dates) (h : InStep env threadId userId w)
    {e : RemoteStep} (he : RespectsThread threadId userId e) :
    InStep env threadId userId (remoteStep texts dates env transport w e) := by
  cases e with
  | user actor runId message =>
      rcases post_user_cases texts env w hcomplete actor runId
        message with hsame | ⟨hnone, hclosed, hpost⟩
      · rw [hsame]
        exact h
      · rw [hpost]
        exact inStep_calling h hnone (.message message he hclosed) runId
  | resume actor runId responses =>
      rcases post_resume_cases texts env hcomplete h.openIds actor runId
        responses with hsame | ⟨hnone, id, text, hopened, hpost⟩
      · rw [hsame]
        exact h
      · rw [hpost]
        exact inStep_calling h hnone (.answer text he hopened) runId
  | receive => exact inStep_receive h
  | gateway e =>
      show InStep env threadId userId { w with pool := (harness env).step w.pool e }
      by_cases hown : ∃ call c, (harness env).Runs w.pool e call c ∧ call.requestId = threadId
      · obtain ⟨call, c, hruns, hcall⟩ := hown
        cases hruns with
        | spawn => exact absurd hcall he
        | deliver answer hwait => exact inStep_deliver_own h answer hwait hcall
      · exact inStep_of_other h fun call c hruns hcall => hown ⟨call, c, hruns, hcall⟩

theorem remoteFrom_cons (w : RemoteWorld) (e : RemoteStep) (steps : List RemoteStep) :
    remoteFrom texts dates env transport w (e :: steps) =
      remoteFrom texts dates env transport (remoteStep texts dates env transport w e) steps := rfl

theorem inStep_from (hcomplete : transport.Completes dates) (h : InStep env threadId userId w)
    {steps : List RemoteStep} (hsteps : ∀ e ∈ steps, RespectsThread threadId userId e) :
    InStep env threadId userId (remoteFrom texts dates env transport w steps) := by
  induction steps generalizing w with
  | nil => exact h
  | cons e steps ih =>
      rw [remoteFrom_cons]
      exact ih (inStep_step hcomplete h (hsteps e (by simp))) fun e' he' => hsteps e' (by simp [he'])

variable (texts env) in
/-- **The client and the gateway agree throughout every run.** -/
theorem inStep_run (hcomplete : transport.Completes dates) (now : ℕ) {steps : List RemoteStep}
    (hsteps : ∀ e ∈ steps, RespectsThread threadId userId e) :
    InStep env threadId userId (remoteRun texts dates env transport threadId now steps) := by
  refine inStep_from hcomplete ?_ hsteps
  exact ⟨by simp [System.Waiting], rfl, .inl rfl, by simp [HarnessState.initial], by simp, by simp⟩

/-! ### What the client's runs reach -/

/-- **No run of the client waits for the provision workflow**, whatever it sends and whatever the
models answer. -/
theorem remote_client_never_provisions (hcomplete : transport.Completes dates) (now : ℕ)
    (steps : List RemoteStep) (hsteps : ∀ e ∈ steps, RespectsThread threadId userId e) (n : ℕ)
    (call : HarnessCall) (i : Await) (k : Answer → Harness HarnessEvent)
    (hwait : (remoteRun texts dates env transport threadId now steps).pool.tasks[n]? =
      some ⟨call, .waiting i k⟩) (hcall : call.requestId = threadId) :
    ∃ request, i = .intake request := by
  have h := inStep_run texts env hcomplete now hsteps
  obtain ⟨runId, houtstanding⟩ := h.sole n call i k hwait hcall
  obtain ⟨task, htask, hown⟩ := h.task n runId houtstanding
  rw [hwait] at htask
  cases htask
  obtain ⟨request, hi, -⟩ := hown.waits i k rfl
  exact ⟨request, hi⟩

/-- Points in time, none of which is looked at. -/
def plainDates : Interaction.DatetimeTexts := ⟨fun _ => "", fun _ => ""⟩

/-- A message with an id. -/
def completeMessage : Json → Json
  | .obj fields => .obj (("id", .str "msg-1") :: fields)
  | message => message

/-- An input with everything the protocol asks for, and what it had before. -/
def completeInput : Json → Json
  | .obj fields =>
      .obj ([("state", .obj []), ("messages", .arr []), ("tools", .arr []), ("context", .arr []),
        ("forwardedProps", .obj [])] ++ fields.map fun field =>
          match field with
          | ("messages", .arr messages) => ("messages", .arr (messages.map completeMessage))
          | field => field)
  | value => value

/-- A transport that adds what the protocol asks for. -/
def sampleTransport : RunTransport := ⟨completeInput, sampleValidate⟩

theorem readResumeEntry_response (response : Interaction.HITLResponse) :
    readResumeEntry (Interaction.hitlResponseToResumeEntry dates response) =
      some (resumeEntryOf dates response) := by
  unfold Interaction.hitlResponseToResumeEntry resumeEntryOf
  by_cases h : response.verdict = .cancel
  · rw [if_pos h, if_pos h]
    rfl
  · rw [if_neg h, if_neg h]
    rfl

variable (dates) in
theorem sampleTransport_completes : sampleTransport.Completes dates where
  user _ _ _ := rfl
  resume threadId runId responses := by
    have hentries : (responses.map (Interaction.hitlResponseToResumeEntry dates)).mapM
        readResumeEntry = some (responses.map (resumeEntryOf dates)) := by
      induction responses with
      | nil => rfl
      | cons response responses ih =>
          rw [List.map_cons, List.mapM_cons, readResumeEntry_response, ih]
          rfl
    show (do
      let resume ← (responses.map (Interaction.hitlResponseToResumeEntry dates)).mapM
        readResumeEntry
      pure _ : Option RunAgentInput) = _
    rw [hentries]
    rfl

/-- The first message of a client waits for the intake. -/
theorem first_message_awaits_intake :
    ∃ request, Await.intake ⟨"set this up", 0⟩ = .intake request :=
  @remote_client_never_provisions plainTexts plainDates countingEnv sampleTransport "thread" "alice"
    (sampleTransport_completes plainDates) 0
    [.user (hourSession "alice") "run-1" "set this up"] (by simp [RespectsThread, hourSession]) 0
    (.start (hourSession "alice") "thread" "set this up" none) _ _ rfl rfl

/-! ### Clients that are stuck -/

/-- The interrupt that the client has open is a question of the first round in the table. -/
def Answerable (threadId : String) (w : RemoteWorld) : Prop :=
  ∃ pending, w.pool.world.pending.get? threadId = some pending ∧
    w.client.pendingInterruptIds = [.str pending.interruptId] ∧ pending.work.round = 0

/-- A world in which the client has an interrupt open that is not answerable, and no call of it is
under way. -/
structure DeadEnd (threadId : String) (w : RemoteWorld) : Prop where
  opened : w.client.pendingInterruptIds ≠ []
  unanswerable : ¬ Answerable threadId w
  idle : ∀ (n : ℕ) (call : HarnessCall) (i : Await) (k : Answer → Harness HarnessEvent),
    w.pool.tasks[n]? = some ⟨call, .waiting i k⟩ → call.requestId ≠ threadId
  refused : ∀ n runId, w.outstanding = some (n, runId) →
    ∃ call fault, w.pool.tasks[n]? = some ⟨call, .raised fault⟩

/-- Nothing is under way at a dead end. -/
theorem DeadEnd.not_served (h : DeadEnd threadId w) : ¬ Served w := by
  rintro ⟨n, runId, call, i, k, houtstanding, hwait⟩
  obtain ⟨call', fault, hraised⟩ := h.refused n runId houtstanding
  rw [hraised] at hwait
  cases hwait

/-- **A dead end stays one.** -/
theorem DeadEnd.step (hcomplete : transport.Completes dates) (h : DeadEnd threadId w)
    (hin : InStep env threadId userId w)
    {e : RemoteStep} (he : RespectsThread threadId userId e) :
    DeadEnd threadId (remoteStep texts dates env transport w e) := by
  cases e with
  | user actor runId message =>
      rcases post_user_cases texts env w hcomplete actor runId
        message with hsame | ⟨-, hclosed, -⟩
      · rw [hsame]
        exact h
      · exact absurd hclosed h.opened
  | resume actor runId responses =>
      rcases post_resume_cases texts env hcomplete hin.openIds actor
        runId responses with hsame | ⟨hnone, id, text, hopened, hpost⟩
      · rw [hsame]
        exact h
      · rw [hpost, hin.thread]
        -- a resume that passes validation would find the question the client has open
        have hinvalid : ∀ pending,
            ¬ ResumeValid w.pool.world actor threadId id text pending := by
          intro pending hvalid
          refine h.unanswerable ⟨pending, hvalid.stored, ?_, ?_⟩
          · rw [hopened, hvalid.named]
          · have hcap := hvalid.belowCap
            rw [maxClarificationRounds] at hcap
            omega
        obtain ⟨error, hstep⟩ := @step_resume_of_not_valid env _ _ _ _ _ hinvalid
        have hpool : (w.calling env runId (.resume actor threadId id text)).pool =
            ⟨w.pool.world, w.pool.tasks ++ [⟨.resume actor threadId id text,
              .raised (.valueError error)⟩]⟩ := hstep
        refine ⟨h.opened, ?_, ?_, ?_⟩
        · rintro ⟨pending, hstored, hids, hround⟩
          rw [hpool] at hstored
          exact h.unanswerable ⟨pending, hstored, hids, hround⟩
        · intro n call i k hwait
          rw [hpool] at hwait
          rcases List.mem_append.1 (List.mem_of_getElem? hwait) with hold | hnew
          · obtain ⟨m, hm⟩ := List.getElem?_of_mem hold
            exact h.idle m call i k hm
          · cases List.mem_singleton.1 hnew
        · rintro n runId' ⟨⟩
          refine ⟨.resume actor threadId id text, .valueError error, ?_⟩
          rw [hpool]
          exact List.getElem?_concat_length
  | receive =>
      show DeadEnd threadId (match w.outstanding with
        | none => w
        | some (n, runId) =>
            match w.pool.tasks[n]? with
            | none => w
            | some task => w.answered texts dates runId task.outcome)
      cases houtstanding : w.outstanding with
      | none => exact h
      | some call =>
          obtain ⟨call', fault, htask⟩ := h.refused call.1 call.2 houtstanding
          simp only [htask]
          exact ⟨h.opened, h.unanswerable, h.idle, by simp [RemoteWorld.answered]⟩
  | gateway e =>
      have hother : ∀ call c, (harness env).Runs w.pool e call c → call.requestId ≠ threadId := by
        intro call c hruns
        cases hruns with
        | spawn => exact he
        | deliver answer hwait => exact h.idle _ _ _ _ hwait
      have hentry := entry_of_other hin.waiting hother
      refine ⟨h.opened, ?_, ?_, ?_⟩
      · rintro ⟨pending, hstored, hids, hround⟩
        exact h.unanswerable ⟨pending, hentry ▸ hstored, hids, hround⟩
      · intro n call i k hwait
        rcases System.task_step_cases hwait with hold | ⟨call', rfl, -, hnew⟩ |
          ⟨answer, call', i', k', rfl, hw, hnew⟩
        · exact h.idle n call i k hold
        · obtain rfl : call = call' := congrArg CallTask.call hnew
          exact hother _ _ (.spawn _)
        · obtain rfl : call = call' := congrArg CallTask.call hnew
          exact hother _ _ (.deliver answer hw)
      · intro n runId houtstanding
        obtain ⟨call, fault, hraised⟩ := h.refused n runId houtstanding
        exact ⟨call, fault, System.task_step_of_idle hraised fun _ _ _ _ => by simp⟩

/-- From a dead end nothing is ever under way. -/
theorem DeadEnd.stuck (hcomplete : transport.Completes dates) (h : DeadEnd threadId w)
    (hin : InStep env threadId userId w) :
    Stuck texts dates env transport threadId userId w := by
  intro more hmore
  induction more generalizing w with
  | nil => exact h.not_served
  | cons e more ih =>
      rw [remoteFrom_cons]
      exact ih (h.step hcomplete hin (hmore e (by simp)))
        (inStep_step hcomplete hin (hmore e (by simp)))
        fun e' he' => hmore e' (by simp [he'])

/-- The response of this user that answers an interrupt. -/
def answerResponse (threadId userId id text : String) : Interaction.HITLResponse where
  eventId := id
  requestId := threadId
  responder := ⟨userId, ""⟩
  verdict := .answer
  value := some text
  selectedChoice := some text
  approvalDigest := none
  respondedAt := 0

/-- The answer to its only interrupt is posted where nothing is waited for. -/
theorem post_answer (hcomplete : transport.Completes dates) {actor : ActorSession}
    {runId id text : String} (hnone : w.outstanding = none)
    (hopened : w.client.pendingInterruptIds = [.str id]) (htext : text ≠ "") :
    remoteStep texts dates env transport w
        (.resume actor runId [answerResponse threadId userId id text]) =
      w.calling env runId (.resume actor w.client.threadId id text) := by
  have hbuilt : buildResumeRunInput dates w.client runId
      [answerResponse threadId userId id text] =
        .ok (resumeRunInput dates w.client.threadId runId
          [answerResponse threadId userId id text]) := by
    refine buildResumeRunInput_eq_ok_iff.2 ⟨by simp [hopened], ⟨by simp, ?_, ?_⟩, rfl⟩
    · simp [hopened, answerResponse]
    · simp [hopened, answerResponse]
  have hrequest : harnessRequest ⟨w.client.threadId, runId, [],
      [answerResponse threadId userId id text].map (resumeEntryOf dates), .obj []⟩ =
        .ok (.resume id (.str text)) := by
    have hanswers : Json.Answers (.obj ((answerResponse threadId userId id text).payload dates))
        (.str text) := ⟨by simpa [Json.truthy] using htext, .inl rfl⟩
    rw [harnessRequest_of_one rfl]
    rcases extractAnswer_cases ⟨id, .obj ((answerResponse threadId userId id text).payload dates)⟩
      with ⟨answer, hanswer, hok⟩ | ⟨-, hno, -⟩ | ⟨-, hno, -⟩
    · obtain rfl := hanswers.unique hanswer
      exact congrArg (Except.map _) hok
    · exact absurd hanswers (hno _)
    · exact absurd ⟨_, rfl⟩ hno
  simp only [remoteStep, RemoteWorld.post, hnone, hbuilt, runsCall_resume hcomplete, hrequest]
  rfl

/-- A call that waits after its first segment is under way. -/
theorem served_calling {runId : String} {call : HarnessCall} {i : Await}
    {k : Answer → Harness HarnessEvent}
    (hwait : ((callCoroutine env call).run w.pool.world).1 = .waiting i k) :
    Served (w.calling env runId call) := by
  refine ⟨w.pool.tasks.length, runId, call, i, k, rfl, ?_⟩
  show ((harness env).step w.pool (.spawn call)).tasks[w.pool.tasks.length]? = _
  rw [System.step_spawn, List.getElem?_concat_length]
  exact congrArg (fun outcome => some (CallTask.mk call outcome)) hwait

/-- **A client that waits for nothing is stuck exactly if it has an open interrupt that is not a
question of the first round in the table of the gateway.** -/
theorem remote_stuck_iff (hcomplete : transport.Completes dates) (now : ℕ)
    (steps : List RemoteStep) (hsteps : ∀ e ∈ steps, RespectsThread threadId userId e)
    (hnone : (remoteRun texts dates env transport threadId now steps).outstanding = none) :
    Stuck texts dates env transport threadId userId
        (remoteRun texts dates env transport threadId now steps) ↔
      (remoteRun texts dates env transport threadId now steps).client.pendingInterruptIds ≠ [] ∧
        ¬ Answerable threadId (remoteRun texts dates env transport threadId now steps) := by
  have hin := inStep_run texts env hcomplete now hsteps
  generalize remoteRun texts dates env transport threadId now steps = w at hin hnone ⊢
  obtain rfl := hin.thread
  have hactive := sessionOf_active userId w.pool.world.now
  constructor
  · intro hstuck
    constructor
    · intro hclosed
      refine hstuck [.user (sessionOf userId w.pool.world.now) "run" "hello"] (by
        simp [RespectsThread, sessionOf]) ?_
      rw [remoteFrom_cons, post_message hcomplete hnone hclosed (by decide)]
      have hrun := @run_startRun env (sessionOf userId w.pool.world.now) w.client.threadId
        "hello" none w.pool.world
      rw [if_neg (by simp [hactive])] at hrun
      exact served_calling (congrArg Prod.fst hrun)
    · rintro ⟨pending, hstored, hopened, hround⟩
      refine hstuck [.resume (sessionOf userId w.pool.world.now) "run"
        [answerResponse w.client.threadId userId pending.interruptId "yes"]] (by
          simp [RespectsThread, sessionOf]) ?_
      rw [remoteFrom_cons, post_answer hcomplete hnone hopened (by decide)]
      have hvalid : ResumeValid w.pool.world (sessionOf userId w.pool.world.now)
          w.client.threadId pending.interruptId "yes" pending := by
        refine ⟨hactive, hstored, rfl, (hin.entry pending hstored).own, by decide, ?_⟩
        rw [hround, maxClarificationRounds]
        omega
      exact served_calling (congrArg Prod.fst (run_resume_of_valid hvalid))
  · rintro ⟨hopened, hunanswerable⟩
    refine DeadEnd.stuck hcomplete ⟨hopened, hunanswerable, ?_, ?_⟩ hin
    · intro n call i k hwait hcall
      obtain ⟨runId, hsome⟩ := hin.sole n call i k hwait hcall
      rw [hnone] at hsome
      cases hsome
    · intro n runId hsome
      rw [hnone] at hsome
      cases hsome

/-- A message whose intake asks, and an answer whose intake fails. -/
def lostAnswer : List RemoteStep :=
  [.user (hourSession "alice") "run-1" "set this up", .gateway (.deliver 0 (.ok silentModel)),
    .receive,
    .resume (hourSession "alice") "run-2" [answerResponse "thread" "alice" "0" "invoices"],
    .gateway (.deliver 1 (.error (.external "timeout"))), .receive]

/-- **A client whose answer is lost is stuck.** -/
theorem lost_answer_client_stuck :
    Stuck plainTexts plainDates countingEnv sampleTransport "thread" "alice"
      (remoteRun plainTexts plainDates countingEnv sampleTransport "thread" 0 lostAnswer) := by
  have hopened : (remoteRun plainTexts plainDates countingEnv sampleTransport "thread" 0
      lostAnswer).client.pendingInterruptIds = [.str "0"] := rfl
  have hgone : (remoteRun plainTexts plainDates countingEnv sampleTransport "thread" 0
      lostAnswer).pool.world.pending.get? "thread" = none := rfl
  refine (remote_stuck_iff (sampleTransport_completes plainDates) 0 lostAnswer
    (by simp [lostAnswer, RespectsThread, hourSession]) rfl).2 ⟨by simp [hopened], ?_⟩
  rintro ⟨pending, hpending, -⟩
  rw [hgone] at hpending
  cases hpending

end PlatformOps
