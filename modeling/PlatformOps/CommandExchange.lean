/-
**A command, from the browser to the gateway and back.**

The client of a thread posts a command, and reads what it is answered in two steps: first the answer
itself, then its body.  A stream tells of a surface, event by event, and of the end of the run; a
refusal has its detail in its body.

Main definitions:

* `AguiEvent.wire`, `FramesEvents` — an event as it is sent, and an encoder that frames events;
* `readEvent`, `readEvents` — what the client does with an event;
* `postedBody`, `httpAnswers` — what is posted, and the two answers to it;
* `CommandContinuation` — where a call of a client goes on;
* `processEach`, `responseShown`, `outcomeTurn` — what is shown of an answer, and the turn it ends in;
* `ExchangeTold` — the client tells of an answer.

Main results:

* `readLines_stream` — a client that reads a stream acts on its events, in order;
* `allGoOn_run` — a call that waits goes on where `runCommand` does;
* `commands_of_posted` — the endpoint reads back what was posted;
* `command_exchange_told` — **a command ends in one turn that tells what became of it**.
-/

import PlatformOps.CommandSurfaces
import PlatformOps.EventFrames
import PlatformOps.JsonSchema
import PlatformOps.ThreadManager

set_option relaxedAutoImplicit false
set_option autoImplicit false

namespace PlatformOps

/-! ### Events on the wire -/

/-- An event as it is sent. -/
def AguiEvent.wire : AguiEvent → Json
  | .runStarted threadId runId =>
      .obj [("type", .str "RUN_STARTED"), ("threadId", .str threadId), ("runId", .str runId)]
  | .custom name value =>
      .obj [("type", .str "CUSTOM"), ("name", .str name), ("value", value)]
  | .runFinished threadId runId outcome =>
      .obj [("type", .str "RUN_FINISHED"), ("threadId", .str threadId), ("runId", .str runId),
        ("outcome", outcome)]

/-- The mark of a line that carries an event. -/
def dataMark : List Char := "data: ".toList

section

variable {Surfaces : Type}

/-- The encoder frames these events, each as one line that parses to what the event is on the
wire. -/
def FramesEvents (lib : ClientLibrary Surfaces) (encode : AguiEvent → String)
    (events : List AguiEvent) : Prop :=
  ∀ event ∈ events, ∃ text : List Char, (encode event).toList = framed dataMark '\n' text ∧
    '\n' ∉ text ∧ lib.parse (String.ofList text) = .ok event.wire

variable (lib : ClientLibrary Surfaces)

/-- What the client of a command does with an event. -/
def readEvent (subscriber : ℕ) : AguiEvent → ClientAction Surfaces PUnit
  | .runStarted _ _ => pure ⟨⟩
  | .custom name value => onCustomEvent lib subscriber name (some value)
  | .runFinished _ _ _ => onRunFinishedEvent lib subscriber (.success none)

/-- Events one after another. -/
def readEvents (subscriber : ℕ) : List AguiEvent → ClientAction Surfaces PUnit
  | [] => pure ⟨⟩
  | event :: events => do
      readEvent lib subscriber event
      readEvents subscriber events

/-- Marked lines one after another. -/
def readMarked (subscriber : ℕ) : List (List Char) → ClientAction Surfaces PUnit
  | [] => pure ⟨⟩
  | text :: texts => do
      readLine lib subscriber (String.ofList (dataMark ++ text))
      readMarked subscriber texts

variable {lib} {subscriber : ℕ}

theorem startsWith_ofList (line : List Char) :
    JsString.startsWith (String.ofList line) "data: " = dataMark.isPrefixOf line :=
  congrArg (List.isPrefixOf dataMark) String.toList_ofList

/-- A line without the mark is skipped. -/
theorem readLine_of_unmarked {line : List Char} (h : payload? dataMark line = none) :
    readLine lib subscriber (String.ofList line) = pure ⟨⟩ := by
  have hstart : dataMark.isPrefixOf line = false := by
    cases hmarked : dataMark.isPrefixOf line with
    | false => rfl
    | true => simp [payload?, hmarked] at h
  unfold readLine
  rw [startsWith_ofList, hstart, if_neg Bool.false_ne_true]

/-- Of the lines the marked ones are read. -/
theorem readLines_eq_readMarked (lines : List (List Char)) :
    readLines lib subscriber (lines.map String.ofList) =
      readMarked lib subscriber (payloads dataMark lines) := by
  induction lines with
  | nil => rfl
  | cons line lines ih =>
      rw [List.map_cons, readLines, ih]
      unfold payloads
      rw [List.filterMap_cons]
      cases hpayload : payload? dataMark line with
      | none =>
          rw [readLine_of_unmarked hpayload]
          rfl
      | some text =>
          rw [eq_append_of_payload? hpayload]
          rfl

/-- A marked line is an event. -/
theorem readLine_of_event {text : List Char} {event : AguiEvent}
    (hparse : lib.parse (String.ofList text) = .ok event.wire) :
    readLine lib subscriber (String.ofList (dataMark ++ text)) = readEvent lib subscriber event := by
  have hstart : JsString.startsWith (String.ofList (dataMark ++ text)) "data: " = true := by
    rw [startsWith_ofList, List.isPrefixOf_iff_prefix]
    exact List.prefix_append _ _
  have hdrop : (String.ofList (dataMark ++ text)).toList.drop 6 = text := by
    rw [String.toList_ofList]
    exact List.drop_left' rfl
  unfold readLine
  rw [if_pos hstart, hdrop, hparse]
  cases event with
  | runStarted threadId runId => rfl
  | custom name value => rfl
  | runFinished threadId runId outcome => rfl

/-- The texts of the events. -/
theorem FramesEvents.texts {encode : AguiEvent → String} {events : List AguiEvent}
    (h : FramesEvents lib encode events) :
    ∃ texts : List (List Char),
      (events.map encode).flatMap String.toList = (texts.map (framed dataMark '\n')).flatten ∧
        (∀ text ∈ texts, '\n' ∉ text) ∧
        readMarked lib subscriber texts = readEvents lib subscriber events := by
  induction events with
  | nil => exact ⟨[], rfl, fun _ htext => absurd htext List.not_mem_nil, rfl⟩
  | cons event events ih =>
      obtain ⟨text, hencode, hline, hparse⟩ := h event List.mem_cons_self
      obtain ⟨texts, hjoin, hlines, hread⟩ := ih fun e he => h e (List.mem_cons_of_mem _ he)
      refine ⟨text :: texts, ?_, ?_, ?_⟩
      · rw [List.map_cons, List.flatMap_cons, hencode, hjoin]
        rfl
      · intro text' htext
        rcases List.mem_cons.1 htext with rfl | htext
        · exact hline
        · exact hlines text' htext
      · rw [readMarked, readLine_of_event hparse, hread]
        rfl

/-- **A client that reads a stream acts on its events**, in order. -/
theorem readLines_stream {encode : AguiEvent → String} {events : List AguiEvent}
    (h : FramesEvents lib encode events) :
    readLines lib subscriber
        (((String.join (events.map encode)).toList.splitOn '\n').map String.ofList) =
      readEvents lib subscriber events := by
  obtain ⟨texts, hjoin, hlines, hread⟩ := h.texts
  rw [readLines_eq_readMarked, String.toList_join, hjoin,
    payloads_frames (by decide) (by decide) hlines, hread]

/-! ### Where a call goes on -/

/-- What `runAndLog` makes of a run once it is submitted: what is thrown becomes a turn, and the flag
is lowered. -/
def logged (c : ClientCoroutine Surfaces PUnit) : ClientCoroutine Surfaces PUnit :=
  .tryFinally
    (.tryCatch c fun err =>
      .ofAction (appendTurn { kind := .error, text := describeAgentError err }))
    (.ofAction (setSubmitting false))

/-- What a promise is resolved to, or thrown. -/
def settle {α : Type} (f : ClientReply → ClientCoroutine Surfaces α) :
    ClientAnswer → ClientCoroutine Surfaces α
  | .resolved reply => f reply
  | .rejected err => .raise err

/-- Where the answer to a run is gone on with. -/
def afterRun (answer : ClientAnswer) : ClientCoroutine Surfaces PUnit :=
  logged (settle (fun _ => pure ⟨⟩) answer)

variable (lib) in
/-- Where the body of a stream is gone on with. -/
def afterText (subscriber : ℕ) (answer : ClientAnswer) : ClientCoroutine Surfaces PUnit :=
  logged (settle (fun body => .ofAction (readLines lib subscriber
    ((body.text.toList.splitOn '\n').map String.ofList))) answer)

/-- The detail of the body of a refusal, or its status. -/
def detailText (status : ℕ) (detail : Option Json) : String :=
  match detail with
  | some (.str detail) => if detail = "" then "HTTP " ++ toString status else detail
  | _ => "HTTP " ++ toString status

variable (lib) in
/-- What a refusal is described by. -/
def refusalText (status : ℕ) : ClientAnswer → String
  | .resolved body =>
      match member lib (some body.json) "detail" with
      | .ok detail => detailText status detail
      | .error _ => detailText status none
  | .rejected _ => detailText status none

variable (lib) in
/-- Where the body of a refusal is gone on with. -/
def afterDetail (status : ℕ) (answer : ClientAnswer) : ClientCoroutine Surfaces PUnit :=
  logged (.raise ⟨none, refusalText lib status answer⟩)

variable (lib) in
/-- Where the answer to a command is gone on with. -/
def afterCommand (subscriber : ℕ) (answer : ClientAnswer) : ClientCoroutine Surfaces PUnit :=
  match answer with
  | .resolved reply =>
      if reply.ok then .await .text (afterText lib subscriber)
      else .await .json (afterDetail lib reply.status)
  | .rejected err => logged (.raise err)

variable (lib) in
/-- What is submitted goes on as its request has it, with one of this many subscribers. -/
def CommandContinuation (subscribers : ℕ) :
    ClientRequest → (ClientAnswer → ClientCoroutine Surfaces PUnit) → Prop
  | .run _, k => k = afterRun
  | .command _ _, k => ∃ subscriber < subscribers, k = afterCommand lib subscriber
  | .text, k => ∃ subscriber < subscribers, k = afterText lib subscriber
  | .json, k => ∃ status, k = afterDetail lib status

/-- The state once something is submitted. -/
def submittedState (s : ThreadState Surfaces) : ThreadState Surfaces :=
  { s with isSubmitting := true, lastSurfaceIds := s.lastSurfaceIds ++ [none] }

variable {s : ThreadState Surfaces}

theorem run_runAndLog (run : ℕ → ClientCoroutine Surfaces PUnit) (s : ThreadState Surfaces) :
    (runAndLog run).run s = (logged (run s.lastSurfaceIds.length)).run (submittedState s) := rfl

theorem run_logged_await (request : ClientRequest) (k : ClientAnswer → ClientCoroutine Surfaces PUnit)
    (s : ThreadState Surfaces) :
    (logged (.await request k)).run s = (.waiting request fun answer => logged (k answer), s) := rfl

theorem runAgent_eq (params : RunParams) :
    (runAgent params : ClientCoroutine Surfaces PUnit) =
      .await (.run params) (settle fun _ => pure ⟨⟩) := by
  change Coroutine.await _ _ = Coroutine.await _ _
  congr 1
  funext answer
  cases answer with
  | resolved reply => rfl
  | rejected err => rfl

theorem errorDetail_bind (status : ℕ) :
    (errorDetail lib status >>= fun detail => (.raise ⟨none, detail⟩ : ClientCoroutine Surfaces PUnit)) =
      .await .json fun answer => .raise ⟨none, refusalText lib status answer⟩ := by
  change Coroutine.await _ _ = Coroutine.await _ _
  congr 1
  funext answer
  cases answer with
  | resolved body =>
      have htext : refusalText lib status (.resolved body) =
          match member lib (some body.json) "detail" with
          | .ok detail => detailText status detail
          | .error _ => detailText status none := rfl
      rw [htext]
      change Coroutine.bind (Coroutine.handle (Coroutine.bind
        (Coroutine.ofExcept (member lib (some body.json) "detail")) _) _) _ = _
      cases member lib (some body.json) "detail" with
      | error err => rfl
      | ok detail =>
          cases detail with
          | none => rfl
          | some value => cases value <;> rfl
  | rejected err => rfl

theorem runCommand_eq (command : String) (payload : Dict String Json) :
    runCommand lib command payload subscriber =
      .await (.command command payload) (settle fun response =>
        if response.ok then
          .await .text (settle fun body => .ofAction (readLines lib subscriber
            ((body.text.toList.splitOn '\n').map String.ofList)))
        else .await .json fun answer => .raise ⟨none, refusalText lib response.status answer⟩) := by
  change Coroutine.await _ _ = Coroutine.await _ _
  congr 1
  funext answer
  cases answer with
  | rejected err => rfl
  | resolved reply =>
      change (if reply.ok = true then _ else errorDetail lib reply.status >>= _ :
        ClientCoroutine Surfaces PUnit) = _
      unfold settle
      dsimp only
      split
      · change Coroutine.await _ _ = Coroutine.await _ _
        congr 1
        funext answer
        cases answer with
        | resolved body => rfl
        | rejected err => rfl
      · exact errorDetail_bind _

theorem run_runAndLog_runCommand (command : String) (payload : Dict String Json) :
    (runAndLog (runCommand lib command payload)).run s =
      (.waiting (.command command payload) (afterCommand lib s.lastSurfaceIds.length),
        submittedState s) := by
  rw [run_runAndLog, runCommand_eq, run_logged_await]
  congr 2
  funext answer
  cases answer with
  | rejected err => rfl
  | resolved reply =>
      unfold afterCommand settle
      dsimp only
      split
      · rfl
      · rfl

/-! ### What reading keeps -/

/-- A part of the state that neither surfaces nor turns are in, nor which surfaces were seen. -/
structure Unread {π : Type} (part : ThreadState Surfaces → π) : Prop where
  surfaces : ∀ s surfaces, part { s with surfacesById := surfaces } = part s
  turns : ∀ s turns, part { s with turns := turns } = part s
  seen : ∀ s n id, part { s with lastSurfaceIds := s.lastSurfaceIds.set n id } = part s

section Unread

variable {π : Type} {part : ThreadState Surfaces → π}

theorem Unread.onCustomEvent (h : Unread part) (name : String) (value : Option Json) :
    (onCustomEvent lib subscriber name value).Keeps part := by
  refine Action.Keeps.ite ?_ ((Action.readOnly_pure _).keeps _)
  refine ((Action.readOnly_ofExcept _).keeps _).bind fun surfaceId => ?_
  have hsee : (seeSurface subscriber surfaceId : ClientAction Surfaces PUnit).Keeps part := by
    intro s
    unfold seeSurface
    split
    · rfl
    · rfl
    · exact h.seen s _ _
  exact hsee.bind fun _ => Action.keeps_focus fun _ s => h.surfaces s _

theorem Unread.onRunFinishedEvent (h : Unread part) (outcome : RunOutcome) :
    (onRunFinishedEvent lib subscriber outcome).Keeps part := by
  have happend : ∀ turn, (appendTurn turn : ClientAction Surfaces PUnit).Keeps part :=
    fun turn => Action.keeps_modify fun s => h.turns s _
  cases outcome with
  | success result =>
      refine ((Action.readOnly_ofExcept _).keeps _).bind fun text => ?_
      exact ((Action.readOnly_read _).keeps _).bind fun surfaceId => happend _
  | interrupt interrupts =>
      exact ((Action.readOnly_read _).keeps _).bind fun surfaceId => happend _

theorem Unread.readLine (h : Unread part) (line : String) :
    (readLine lib subscriber line).Keeps part := by
  refine Action.Keeps.ite ?_ ((Action.readOnly_pure _).keeps _)
  refine ((Action.readOnly_ofExcept _).keeps _).bind fun event => ?_
  refine ((Action.readOnly_ofExcept _).keeps _).bind fun type => ?_
  refine Action.Keeps.ite ?_ ?_
  · split
    · exact (Action.readOnly_pure _).keeps _
    · exact (Action.readOnly_pure _).keeps _
    · exact h.onCustomEvent _ _
    · exact (Action.readOnly_raise _).keeps _
  · exact Action.Keeps.ite (h.onRunFinishedEvent _) ((Action.readOnly_pure _).keeps _)

theorem Unread.readLines (h : Unread part) (lines : List String) :
    (readLines lib subscriber lines).Keeps part := by
  induction lines with
  | nil => exact (Action.readOnly_pure _).keeps _
  | cons line lines ih => exact (h.readLine line).bind fun _ => ih

end Unread

/-- How many subscribers there are. -/
def subscribers (s : ThreadState Surfaces) : ℕ := s.lastSurfaceIds.length

theorem unread_subscribers : Unread (@subscribers Surfaces) where
  surfaces _ _ := rfl
  turns _ _ := rfl
  seen _ _ _ := List.length_set

theorem subscribers_apply (event : AgentEvent) (s : ThreadState Surfaces) :
    subscribers (event.apply lib s) = subscribers s := by
  cases event with
  | custom subscriber name value => exact unread_subscribers.onCustomEvent name value s
  | finished subscriber outcome => exact unread_subscribers.onRunFinishedEvent outcome s
  | state pendingInterrupts messages => rfl

/-! ### Every call goes on as its request has it -/

/-- The turn for what was thrown. -/
def errorTurn (err : AgentError) : ClientTurn :=
  { kind := .error, text := describeAgentError err }

/-- The state when a run that was submitted is over. -/
def closedState (ended : Except AgentError PUnit.{1} × ThreadState Surfaces) : ThreadState Surfaces :=
  match ended with
  | (.ok _, t) => { t with isSubmitting := false }
  | (.error err, t) => { t with turns := t.turns ++ [errorTurn err], isSubmitting := false }

theorem run_logged_ofAction (x : ClientAction Surfaces PUnit) (s : ThreadState Surfaces) :
    (logged (.ofAction x)).run s = (.returned ⟨⟩, closedState (x s)) := by
  change (Coroutine.handle (Coroutine.handle (Coroutine.ofExcept (x s).1) _) _).run (x s).2 = _
  rcases x s with ⟨result, t⟩
  cases result with
  | ok a => rfl
  | error err => rfl

theorem subscribers_closedState (ended : Except AgentError PUnit.{1} × ThreadState Surfaces) :
    subscribers (closedState ended) = subscribers ended.2 := by
  rcases ended with ⟨result, t⟩
  cases result with
  | ok a => rfl
  | error err => rfl

theorem CommandContinuation.mono {n m : ℕ} (h : n ≤ m) {request : ClientRequest}
    {k : ClientAnswer → ClientCoroutine Surfaces PUnit}
    (hk : CommandContinuation lib n request k) : CommandContinuation lib m request k := by
  cases request with
  | run params => exact hk
  | command command payload =>
      obtain ⟨subscriber, hlt, hk⟩ := hk
      exact ⟨subscriber, hlt.trans_le h, hk⟩
  | json => exact hk
  | text =>
      obtain ⟨subscriber, hlt, hk⟩ := hk
      exact ⟨subscriber, hlt.trans_le h, hk⟩

variable (lib) in
/-- A segment from a state ends with no fewer subscribers, and where it waits it goes on as its
request has it. -/
def GoesOn (s : ThreadState Surfaces)
    (ended : Outcome (ThreadState Surfaces) ClientRequest ClientAnswer AgentError PUnit ×
      ThreadState Surfaces) : Prop :=
  subscribers s ≤ subscribers ended.2 ∧ ∀ request k, ended.1 = .waiting request k →
    CommandContinuation lib (subscribers ended.2) request k

theorem goesOn_returned {t : ThreadState Surfaces} (h : subscribers t = subscribers s) :
    GoesOn lib s (.returned ⟨⟩, t) :=
  ⟨h.ge, fun _ _ hwait => by cases hwait⟩

theorem GoesOn.of_subscribers {t : ThreadState Surfaces} (h : subscribers t = subscribers s)
    {ended : Outcome (ThreadState Surfaces) ClientRequest ClientAnswer AgentError PUnit ×
      ThreadState Surfaces} (hended : GoesOn lib t ended) : GoesOn lib s ended :=
  ⟨h.ge.trans hended.1, hended.2⟩

theorem goesOn_runAgent (params : RunParams) :
    GoesOn lib s ((runAndLog fun _ => runAgent params).run s) := by
  rw [run_runAndLog, runAgent_eq, run_logged_await]
  refine ⟨?_, ?_⟩
  · simp [subscribers, submittedState]
  · rintro _ _ ⟨⟩
    rfl

theorem goesOn_resume (interrupt : PendingInterrupt) (payload : Option Json) :
    GoesOn lib s ((Coroutine.ofExcept (resumeEntries lib interrupt payload) >>= fun resume =>
      runAndLog fun _ => runAgent (.resume resume)).run s) := by
  cases resumeEntries lib interrupt payload with
  | error err => exact ⟨Nat.le_refl _, fun _ _ hwait => by cases hwait⟩
  | ok resume => exact goesOn_runAgent (.resume resume)

theorem goesOn_runCommand (command : String) (payload : Dict String Json) :
    GoesOn lib s ((runAndLog (runCommand lib command payload)).run s) := by
  rw [run_runAndLog_runCommand]
  have hmore : subscribers (submittedState s) = s.lastSurfaceIds.length + 1 := by
    simp [subscribers, submittedState]
  refine ⟨?_, ?_⟩
  · rw [hmore]
    exact Nat.le_succ _
  · rintro _ _ ⟨⟩
    exact ⟨_, by rw [hmore]; exact Nat.lt_succ_self _, rfl⟩

variable (lib) in
/-- Whatever an input starts goes on as its request has it. -/
theorem goesOn_main (input : ClientInput) (s : ThreadState Surfaces) :
    GoesOn lib s ((input.main lib).run s) := by
  by_cases hs : s.isSubmitting = true
  · rw [run_of_submitting input hs]
    exact goesOn_returned rfl
  cases input with
  | message text scope =>
      change GoesOn lib s
        ((if s.isSubmitting = true then _ else _ : ClientCoroutine Surfaces PUnit).run s)
      rw [if_neg hs]
      have hturn : appendTurn ⟨.userMessage, text, none⟩ s =
          (.ok ⟨⟩, (appendTurn ⟨.userMessage, text, none⟩ s).2) := rfl
      rw [Coroutine.run_ofAction_bind_of_ok hturn]
      cases s.pendingInterrupts with
      | nil => exact GoesOn.of_subscribers rfl (goesOn_runAgent _)
      | cons interrupt interrupts =>
          cases interrupts with
          | nil =>
              refine GoesOn.of_subscribers (t := (appendTurn ⟨.userMessage, text, none⟩ s).2) rfl ?_
              exact goesOn_resume interrupt _
          | cons other interrupts => exact goesOn_returned rfl
  | action click =>
      change GoesOn lib s
        ((if s.isSubmitting = true then _ else _ : ClientCoroutine Surfaces PUnit).run s)
      rw [if_neg hs]
      split
      · cases click.email with
        | none => exact goesOn_returned rfl
        | some email => exact goesOn_runCommand _ _
      · split
        · exact goesOn_runCommand _ _
        · cases s.pendingInterrupts.find? (·.id = click.name) with
          | none => exact goesOn_returned rfl
          | some interrupt => exact goesOn_resume interrupt _

theorem goesOn_closed (ended : Except AgentError PUnit.{1} × ThreadState Surfaces)
    (h : subscribers ended.2 = subscribers s) :
    GoesOn lib s (.returned ⟨⟩, closedState ended) :=
  goesOn_returned ((subscribers_closedState ended).trans h)

/-- Whatever a request is answered, its call goes on as its next request has it. -/
theorem goesOn_answer {request : ClientRequest}
    {k : ClientAnswer → ClientCoroutine Surfaces PUnit}
    (hk : CommandContinuation lib (subscribers s) request k) (answer : ClientAnswer) :
    GoesOn lib s ((k answer).run s) := by
  cases request with
  | run params =>
      obtain rfl := hk
      cases answer with
      | resolved reply => exact goesOn_closed (.ok ⟨⟩, s) rfl
      | rejected err => exact goesOn_closed (.error err, s) rfl
  | command command payload =>
      obtain ⟨subscriber, hlt, rfl⟩ := hk
      cases answer with
      | rejected err => exact goesOn_closed (.error err, s) rfl
      | resolved reply =>
          unfold afterCommand
          dsimp only
          split
          · refine ⟨Nat.le_refl _, ?_⟩
            rintro _ _ ⟨⟩
            exact ⟨subscriber, hlt, rfl⟩
          · refine ⟨Nat.le_refl _, ?_⟩
            rintro _ _ ⟨⟩
            exact ⟨reply.status, rfl⟩
  | text =>
      obtain ⟨subscriber, hlt, rfl⟩ := hk
      cases answer with
      | rejected err => exact goesOn_closed (.error err, s) rfl
      | resolved body =>
          unfold afterText settle
          rw [run_logged_ofAction]
          exact goesOn_closed _ (unread_subscribers.readLines _ s)
  | json =>
      obtain ⟨status, rfl⟩ := hk
      exact goesOn_closed (.error _, s) rfl

variable (lib) in
/-- Every call that waits goes on as its request has it. -/
def AllGoOn (p : ClientPool Surfaces) : Prop :=
  ∀ (n : ℕ) (input : ClientInput) (request : ClientRequest)
    (k : ClientAnswer → ClientCoroutine Surfaces PUnit),
    p.tasks[n]? = some ⟨input, .waiting request k⟩ →
      CommandContinuation lib (subscribers p.world) request k

theorem allGoOn_step {p : ClientPool Surfaces} (h : AllGoOn lib p) (e : ClientStep) :
    AllGoOn lib ((threadSystem lib).step p e) := by
  have hless : subscribers p.world ≤ subscribers ((threadSystem lib).step p e).world := by
    rcases System.step_cases (threadSystem lib) p e with ⟨input, c, hruns⟩ | ⟨event, rfl, hstep⟩ | hstep
    · rw [hruns.world]
      cases hruns with
      | spawn => exact (goesOn_main lib input p.world).1
      | deliver answer hwait => exact (goesOn_answer (h _ _ _ _ hwait) answer).1
    · rw [hstep]
      exact (subscribers_apply event p.world).ge
    · rw [hstep]
  intro n input request k htask
  rcases System.task_step_cases htask with hold | ⟨call, rfl, -, htask⟩ | ⟨answer, call, i, k', rfl, hwait, htask⟩
  · exact (h n input request k hold).mono hless
  · have hgoes := (goesOn_main lib call p.world).2
    obtain ⟨rfl, hwait⟩ := CallTask.mk.inj htask
    exact hgoes _ _ hwait.symm
  · have hgoes := (goesOn_answer (h _ _ _ _ hwait) answer).2
    obtain ⟨rfl, hwaits⟩ := CallTask.mk.inj htask
    have hruns : (threadSystem lib).Runs p (.deliver n answer) input (k' answer) :=
      .deliver answer hwait
    rw [hruns.world]
    exact hgoes _ _ hwaits.symm

variable (lib) in
theorem allGoOn_run (noSurfaces : Surfaces) (steps : List ClientStep) :
    AllGoOn lib ((threadSystem lib).run (createThreadClient noSurfaces) steps) :=
  System.run_invariant (I := AllGoOn lib) (fun _ _ _ _ h => by cases h)
    (fun _ e h => allGoOn_step h e) steps

end

/-! ### What is posted and answered -/

/-- The body the client posts for a command. -/
def postedBody (threadId runId command : String) (payload : Dict String Json) : Json :=
  .obj [("threadId", .str threadId), ("runId", .str runId), ("command", .str command),
    ("payload", .obj payload.entries)]

/-- The events that tell of the messages of a command. -/
def streamEvents (threadId runId : String) (messages : List Json) : List AguiEvent :=
  ([AguiEvent.runStarted threadId runId] ++ messages.map customEvent) ++
    [AguiEvent.runFinished threadId runId (.obj [("type", .str "success")])]

section

variable (texts : PyValue CommandRecord → String)

/-- The events of a response. -/
def CommandResponse.events : CommandResponse → List AguiEvent
  | .stream threadId runId command outcome =>
      streamEvents threadId runId (commandMessages texts runId command outcome.value)
  | _ => []

/-- The status is that of an answer that is `ok`. -/
def isOkStatus (status : ℕ) : Bool := 200 ≤ status && status < 300

/-- The answer to a command, and then its body: of a refusal a detail, and of a fault that escapes a
text that is not JSON. -/
def httpAnswers (encode : AguiEvent → String) (notJson : AgentError) :
    CommandResponse → ClientAnswer × ClientAnswer
  | .stream threadId runId command outcome =>
      (.resolved ⟨true, 200, .null, ""⟩,
        .resolved ⟨true, 200, .null, String.join (commandStream encode threadId runId
          (commandMessages texts runId command outcome.value))⟩)
  | .httpError status detail =>
      (.resolved ⟨isOkStatus status, status, .null, ""⟩,
        .resolved ⟨isOkStatus status, status, .obj [("detail", .str detail)], ""⟩)
  | .unreadable _ => (.resolved ⟨false, 500, .null, ""⟩, .rejected notJson)
  | .unhandled _ => (.resolved ⟨false, 500, .null, ""⟩, .rejected notJson)

end

section

variable {lower : String → String} {ρ : Type} {deployment : CommandDeployment lower ρ}
  {draws : CommandDraws} {request : CommandRequest} {s : CommandState lower ρ}

/-- What is answered fits what was posted: a stream has its ids and its command, and a refusal is a
client error. -/
def CommandResponse.Fits (threadId runId command : String) : CommandResponse → Prop
  | .stream threadId' runId' command' _ => threadId' = threadId ∧ runId' = runId ∧ command' = command
  | .httpError status _ => 400 ≤ status ∧ status < 500
  | .unreadable _ => True
  | .unhandled _ => True

/-- The parts of a body that was posted are read back, unless it is refused. -/
theorem readBody_posted (threadId runId command : String) (payload : Dict String Json) :
    readBody deployment (.ok (postedBody threadId runId command payload)) =
      if threadId ≠ "" ∧ runId ≠ "" ∧ command ≠ "" then
        match findAuthorityKey deployment.onboarding.case (.obj payload.entries) with
        | some key =>
            .error (.httpError 400 ("payload field " ++ deployment.repr key ++ " is not accepted"))
        | none => .ok ⟨threadId, runId, command, payload.entries⟩
      else .error (.httpError 400 "threadId, runId and command are required") := rfl

/-- What is refused before the dispatch is a client error. -/
theorem fits_of_identify_error {body : CommandBody} {response : CommandResponse}
    (h : identify deployment request body = .error response) (threadId runId command : String) :
    response.Fits threadId runId command := by
  unfold identify at h
  split at h
  · split at h
    · split at h
      · cases h
      · cases h
        exact ⟨by decide, by decide⟩
    · cases h
      exact ⟨by decide, by decide⟩
  · split at h
    · cases h
    · cases h
      exact ⟨by decide, by decide⟩

theorem fits_answerFault (fault : CommandFault) (threadId runId command : String) :
    (answerFault fault).Fits threadId runId command := by
  cases fault with
  | routeUnavailable detail => exact ⟨by decide, by decide⟩
  | permissionError kind detail => exact ⟨by decide, by decide⟩
  | validationError error => exact ⟨by decide, by decide⟩
  | valueError kind detail => exact trivial
  | databaseError kind detail => exact trivial

/-- **The endpoint reads back what was posted.** -/
theorem commands_of_posted {threadId runId command : String} {payload : Dict String Json}
    (hbody : request.body = .ok (postedBody threadId runId command payload)) :
    (commands deployment draws request s).1.Fits threadId runId command := by
  unfold commands
  rw [hbody, readBody_posted]
  by_cases hgiven : threadId ≠ "" ∧ runId ≠ "" ∧ command ≠ ""
  · rw [if_pos hgiven]
    cases findAuthorityKey deployment.onboarding.case (.obj payload.entries) with
    | some key => exact ⟨by decide, by decide⟩
    | none =>
        dsimp only
        cases hsent : identify deployment request ⟨threadId, runId, command, payload.entries⟩ with
        | error response => exact fits_of_identify_error hsent _ _ _
        | ok sent =>
            dsimp only
            rcases (deployment.router draws).dispatch command sent.2 sent.1 request.source s with
              ⟨result, s'⟩
            cases result with
            | ok outcome => exact ⟨rfl, rfl, rfl⟩
            | error fault => exact fits_answerFault fault _ _ _
  · rw [if_neg hgiven]
    exact ⟨by decide, by decide⟩

end

/-! ### What is shown -/

section

variable {Surfaces : Type}

variable (lib : ClientLibrary Surfaces) in
/-- The messages, processed one after another. -/
def processEach : List Json → Action Surfaces AgentError PUnit
  | [] => pure ⟨⟩
  | message :: messages => do
      lib.processMessages [message]
      processEach messages

/-- The turn a command ends in: its surface, or what was thrown. -/
def outcomeTurn (surfaceId : String) : Except AgentError PUnit.{1} → ClientTurn
  | .ok _ => { kind := .routeResolved, text := "Result received", surfaceId := some (.str surfaceId) }
  | .error err => errorTurn err

/-- The message is about this surface. -/
def ForSurface (lib : ClientLibrary Surfaces) (surfaceId : String) (message : Json) : Prop :=
  surfaceIdFromMessage lib (some message) = .ok (some (.str surfaceId))

variable {lib : ClientLibrary Surfaces} {subscriber : ℕ} {surfaceId : String}

theorem onCustomEvent_of_surface {message : Json} (h : ForSurface lib surfaceId message)
    {name : String} (hname : JsString.startsWith name "a2ui." = true) (s : ThreadState Surfaces) :
    onCustomEvent lib subscriber name (some message) s =
      ((lib.processMessages [message] s.surfacesById).1,
        { s with
          lastSurfaceIds := s.lastSurfaceIds.set subscriber (some (.str surfaceId))
          surfacesById := (lib.processMessages [message] s.surfacesById).2 }) := by
  have hsurface : surfaceIdFromMessage lib (some message) = .ok (some (.str surfaceId)) := h
  unfold onCustomEvent
  rw [if_pos hname, hsurface]
  rfl

theorem readEvent_customEvent {message : Json} (h : ForSurface lib surfaceId message)
    (s : ThreadState Surfaces) :
    readEvent lib subscriber (customEvent message) s =
      ((lib.processMessages [message] s.surfacesById).1,
        { s with
          lastSurfaceIds := s.lastSurfaceIds.set subscriber (some (.str surfaceId))
          surfacesById := (lib.processMessages [message] s.surfacesById).2 }) := by
  refine onCustomEvent_of_surface h ?_ s
  split
  · decide
  · decide

/-- An item that is there already is put there. -/
theorem set_of_getElem? {α : Type} {l : List α} {n : ℕ} {a : α} (h : l[n]? = some a) :
    l.set n a = l := by
  obtain ⟨hn, rfl⟩ := List.getElem?_eq_some_iff.1 h
  exact List.set_getElem_self hn

/-- **What a stream does**: its messages are processed, one after another, and a turn tells of the
surface; where the processor throws, the rest is not read. -/
theorem closedState_readEvents {threadId runId : String} {outcome : Json} {messages : List Json}
    (hmessages : ∀ message ∈ messages, ForSurface lib surfaceId message) {s : ThreadState Surfaces}
    (hseen : s.lastSurfaceIds[subscriber]? = some (some (.str surfaceId))) :
    closedState (readEvents lib subscriber (messages.map customEvent ++
        [.runFinished threadId runId outcome]) s) =
      { s with
        turns := s.turns ++ [outcomeTurn surfaceId (processEach lib messages s.surfacesById).1]
        surfacesById := (processEach lib messages s.surfacesById).2
        isSubmitting := false } := by
  induction messages generalizing s with
  | nil =>
      have hfinish : readEvents lib subscriber [.runFinished threadId runId outcome] s =
          (.ok ⟨⟩, { s with
            turns := s.turns ++ [{
              kind := .routeResolved
              text := "Result received"
              surfaceId := (s.lastSurfaceIds[subscriber]?).join }] }) := rfl
      rw [List.map_nil, List.nil_append, hfinish, hseen]
      rfl
  | cons message messages ih =>
      have hids : s.lastSurfaceIds.set subscriber (some (.str surfaceId)) = s.lastSurfaceIds :=
        set_of_getElem? hseen
      have hread := @readEvent_customEvent _ lib subscriber _ _
        (hmessages message List.mem_cons_self) s
      rw [hids] at hread
      rw [List.map_cons, List.cons_append, readEvents, processEach]
      rcases hprocess : lib.processMessages [message] s.surfacesById with ⟨result, surfaces⟩
      rw [hprocess] at hread
      cases result with
      | error err =>
          rw [Action.bind_of_error hread, Action.bind_of_error hprocess]
          rfl
      | ok a =>
          rw [Action.bind_of_ok hread, Action.bind_of_ok hprocess]
          exact @ih (fun m hm => hmessages m (List.mem_cons_of_mem _ hm))
            { s with surfacesById := surfaces } hseen

/-- The stream of messages about one surface, read by a subscriber. -/
theorem closedState_streamEvents {threadId runId : String} {message : Json} {messages : List Json}
    (hmessages : ∀ m ∈ message :: messages, ForSurface lib surfaceId m) {s : ThreadState Surfaces}
    (hsubscriber : subscriber < subscribers s) :
    closedState (readEvents lib subscriber (streamEvents threadId runId (message :: messages)) s) =
      { s with
        turns := s.turns ++
          [outcomeTurn surfaceId (processEach lib (message :: messages) s.surfacesById).1]
        surfacesById := (processEach lib (message :: messages) s.surfacesById).2
        isSubmitting := false
        lastSurfaceIds := s.lastSurfaceIds.set subscriber (some (.str surfaceId)) } := by
  -- the first message sees the surface, and the rest of the stream finds it seen
  let seen : ThreadState Surfaces :=
    { s with lastSurfaceIds := s.lastSurfaceIds.set subscriber (some (.str surfaceId)) }
  have hseen : seen.lastSurfaceIds[subscriber]? = some (some (.str surfaceId)) :=
    List.getElem?_set_self hsubscriber
  have hmessage := hmessages message List.mem_cons_self
  have hfirst : readEvent lib subscriber (customEvent message) s =
      readEvent lib subscriber (customEvent message) seen := by
    rw [readEvent_customEvent hmessage, readEvent_customEvent hmessage, set_of_getElem? hseen]
  have hrest : readEvents lib subscriber (streamEvents threadId runId (message :: messages)) s =
      readEvents lib subscriber ((message :: messages).map customEvent ++
        [.runFinished threadId runId (.obj [("type", .str "success")])]) seen := by
    change ((readEvent lib subscriber (customEvent message)).bind fun _ => _) s =
      ((readEvent lib subscriber (customEvent message)).bind fun _ => _) seen
    unfold Action.bind
    rw [hfirst]
  rw [hrest]
  exact closedState_readEvents hmessages hseen

theorem forSurface_createSurface : ForSurface lib surfaceId (createSurface surfaceId) := rfl

theorem forSurface_updateComponents (components : List Json) :
    ForSurface lib surfaceId (updateComponents surfaceId components) := rfl

variable {texts : PyValue CommandRecord → String} {runId command : String}

/-- The messages of a command create its surface and fill it. -/
theorem exists_commandMessages_eq (outcome : PyValue CommandRecord) :
    ∃ components, commandMessages texts runId command outcome =
      [createSurface (runId ++ "-command"), updateComponents (runId ++ "-command") components] := by
  unfold commandMessages
  rw [commandResultToA2uiMessages_eq]
  cases commandView command outcome with
  | pendingReview projection => exact ⟨_, rfl⟩
  | activated organizationId organizationName => exact ⟨_, rfl⟩
  | fields status requestId scopeId message => exact ⟨_, rfl⟩

variable (lib texts runId command) in
/-- What is shown of a response: the messages of the view of its outcome, or what it is refused
with. -/
def responseShown : CommandResponse → Action Surfaces AgentError PUnit
  | .stream _ _ _ outcome =>
      processEach lib
        ((commandView command outcome.value).messages texts (runId ++ "-command") command)
  | .httpError status detail =>
      .raise ⟨none, if detail = "" then "HTTP " ++ toString status else detail⟩
  | .unreadable _ => .raise ⟨none, "HTTP 500"⟩
  | .unhandled _ => .raise ⟨none, "HTTP 500"⟩

/-- The client tells of an answer: it is idle again, and its state is as before, with one more turn
and the surfaces that were shown. -/
structure ExchangeTold (surfaceId : String) (shown : Action Surfaces AgentError PUnit)
    (before after : ClientPool Surfaces) : Prop where
  idle : after.inFlight = []
  told : ∃ ids, after.world = { before.world with
    turns := before.world.turns ++ [outcomeTurn surfaceId (shown before.world.surfacesById).1]
    surfacesById := (shown before.world.surfacesById).2
    isSubmitting := false
    lastSurfaceIds := ids }

variable {encode : AguiEvent → String} {notJson : AgentError} {threadId : String}

theorem isOkStatus_of_client_error {status : ℕ} (h : 400 ≤ status) : isOkStatus status = false := by
  unfold isOkStatus
  rw [Bool.and_eq_false_iff]
  exact Or.inr (decide_eq_false (by omega))

variable (lib) (texts) (encode) (notJson) in
/-- A response that is no stream is refused: the detail of its body is thrown. -/
theorem run_refused {response : CommandResponse} (hfits : response.Fits threadId runId command)
    (hrefused : ∀ outcome, response ≠ .stream threadId runId command outcome) (subscriber : ℕ)
    (s : ThreadState Surfaces) :
    ∃ status, (afterCommand lib subscriber (httpAnswers texts encode notJson response).1).run s =
        (.waiting .json (afterDetail lib status), s) ∧
      ∀ t, (afterDetail lib status (httpAnswers texts encode notJson response).2).run t =
        (.returned ⟨⟩, { t with
          turns := t.turns ++ [outcomeTurn (runId ++ "-command")
            (responseShown lib texts runId command response t.surfacesById).1]
          surfacesById := (responseShown lib texts runId command response t.surfacesById).2
          isSubmitting := false }) := by
  cases response with
  | stream threadId' runId' command' outcome =>
      obtain ⟨rfl, rfl, rfl⟩ := hfits
      exact absurd rfl (hrefused outcome)
  | unreadable error => exact ⟨500, rfl, fun _ => rfl⟩
  | unhandled fault => exact ⟨500, rfl, fun _ => rfl⟩
  | httpError status detail =>
      refine ⟨status, ?_, fun _ => rfl⟩
      change (if isOkStatus status = true then _ else _ : ClientCoroutine Surfaces PUnit).run s = _
      rw [isOkStatus_of_client_error hfits.1, if_neg Bool.false_ne_true]
      rfl

variable (notJson) in
/-- The body of a stream is read by a subscriber of its own. -/
theorem run_streamed {outcome : CommandOutcome}
    (hframes : FramesEvents lib encode (streamEvents threadId runId
      (commandMessages texts runId command outcome.value)))
    {subscriber : ℕ} {s : ThreadState Surfaces} (hsubscriber : subscriber < subscribers s) :
    (afterText lib subscriber (httpAnswers texts encode notJson
        (.stream threadId runId command outcome)).2).run s =
      (.returned ⟨⟩, { s with
        turns := s.turns ++ [outcomeTurn (runId ++ "-command") (responseShown lib texts runId command
          (.stream threadId runId command outcome) s.surfacesById).1]
        surfacesById := (responseShown lib texts runId command
          (.stream threadId runId command outcome) s.surfacesById).2
        isSubmitting := false
        lastSurfaceIds := s.lastSurfaceIds.set subscriber (some (.str (runId ++ "-command"))) }) := by
  change (logged (.ofAction (readLines lib subscriber (((String.join ((streamEvents threadId runId
    (commandMessages texts runId command outcome.value)).map encode)).toList.splitOn '\n').map
      String.ofList)))).run s = _
  rw [run_logged_ofAction, readLines_stream hframes]
  have hmessages : (commandView command outcome.value).messages texts (runId ++ "-command") command =
      commandMessages texts runId command outcome.value :=
    (commandResultToA2uiMessages_eq outcome.value).symm
  unfold responseShown
  dsimp only
  rw [hmessages]
  obtain ⟨components, hshape⟩ := @exists_commandMessages_eq texts runId command outcome.value
  rw [hshape, closedState_streamEvents ?_ hsubscriber]
  intro message hmessage
  rcases List.mem_cons.1 hmessage with rfl | hmessage
  · exact forSurface_createSurface
  · obtain rfl := List.mem_singleton.1 hmessage
    exact forSurface_updateComponents components

variable (lib) in
/-- Where the answer to a request makes the call await another one, it does so until that is
answered. -/
theorem task_awaits {p : ClientPool Surfaces} {n : ℕ} {input : ClientInput}
    {request body : ClientRequest} {k k' : ClientAnswer → ClientCoroutine Surfaces PUnit}
    (hwait : p.tasks[n]? = some ⟨input, .waiting request k⟩) {answer : ClientAnswer}
    (hnext : (k answer).run p.world = (.waiting body k', p.world)) {between : List ClientStep}
    (hbetween : ∀ a, .deliver n a ∉ between) :
    ((threadSystem lib).runFrom p (.deliver n answer :: between)).tasks[n]? =
      some ⟨input, .waiting body k'⟩ := by
  rw [System.runFrom_cons]
  refine System.task_runFrom_of_idle ?_ hbetween
  rw [System.step_deliver answer hwait, hnext]
  exact List.getElem?_set_self (List.getElem?_eq_some_iff.1 hwait).1

/-- A call that ends lowers the flag, and nothing is in flight. -/
theorem inFlight_of_ended {noSurfaces : Surfaces} {steps : List ClientStep}
    (h : ((threadSystem lib).run (createThreadClient noSurfaces) steps).world.isSubmitting = false) :
    ((threadSystem lib).run (createThreadClient noSurfaces) steps).inFlight = [] := by
  have hsys : (threadSystem lib).Exclusive submitting := exclusive_threadSystem
  have hexclusion := hsys.exclusion (s := createThreadClient noSurfaces) Bool.false_ne_true steps
  by_contra hbusy
  exact Bool.eq_false_iff.1 h (hexclusion.held_iff.2 hbusy)

/-- **A response that fits is told of**, whatever happens before its body comes. -/
theorem told_of_fits {noSurfaces : Surfaces} {steps : List ClientStep} {n : ℕ} {input : ClientInput}
    {payload : Dict String Json} {k : ClientAnswer → ClientCoroutine Surfaces PUnit}
    (hwait : ((threadSystem lib).run (createThreadClient noSurfaces) steps).tasks[n]? =
      some ⟨input, .waiting (.command command payload) k⟩)
    {response : CommandResponse} (hfits : response.Fits threadId runId command)
    (hframes : FramesEvents lib encode (response.events texts)) {between : List ClientStep}
    (hbetween : ∀ answer, .deliver n answer ∉ between) :
    ExchangeTold (runId ++ "-command") (responseShown lib texts runId command response)
      ((threadSystem lib).run (createThreadClient noSurfaces)
        (steps ++ .deliver n (httpAnswers texts encode notJson response).1 :: between))
      ((threadSystem lib).run (createThreadClient noSurfaces)
        (steps ++ .deliver n (httpAnswers texts encode notJson response).1 :: between ++
          [.deliver n (httpAnswers texts encode notJson response).2])) := by
  obtain ⟨subscriber, -, rfl⟩ := allGoOn_run lib noSurfaces steps _ _ _ _ hwait
  -- it is enough that the last answer leaves the state as it is told
  suffices htold : ∃ ids, ((threadSystem lib).run (createThreadClient noSurfaces)
      (steps ++ .deliver n (httpAnswers texts encode notJson response).1 :: between ++
        [.deliver n (httpAnswers texts encode notJson response).2])).world = _ from
    ⟨inFlight_of_ended (by obtain ⟨ids, htold⟩ := htold; rw [htold]), htold⟩
  have hall := allGoOn_run lib noSurfaces
    (steps ++ .deliver n (httpAnswers texts encode notJson response).1 :: between)
  rw [System.run_concat]
  rw [System.run_append] at hall ⊢
  by_cases hstream : ∃ outcome, response = .stream threadId runId command outcome
  · obtain ⟨outcome, rfl⟩ := hstream
    have hfirst : ∀ s : ThreadState Surfaces, (afterCommand lib subscriber (httpAnswers texts encode
        notJson (.stream threadId runId command outcome)).1).run s =
          (.waiting .text (afterText lib subscriber), s) := fun _ => rfl
    have htask := task_awaits lib hwait (hfirst _) hbetween
    obtain ⟨subscriber', hsubscriber, heq⟩ := hall _ _ _ _ htask
    rw [heq] at htask
    have hrun := run_streamed notJson hframes hsubscriber
    rw [System.step_deliver _ htask, hrun]
    exact ⟨_, rfl⟩
  · obtain ⟨status, hfirst, hsecond⟩ := run_refused lib texts encode notJson hfits
      (fun outcome h => hstream ⟨outcome, h⟩) subscriber
      ((threadSystem lib).run (createThreadClient noSurfaces) steps).world
    rw [System.step_deliver _ (task_awaits lib hwait hfirst hbetween)]
    exact ⟨_, congrArg Prod.snd (hsecond _)⟩

end

/-- **A command ends in one turn that tells what became of it**: for every command that a client of a
thread awaits, whatever the gateway answers to what was posted, and whatever else happens in the
thread before the body of the answer comes.  Of the outcome nothing but its view is shown. -/
theorem command_exchange_told {Surfaces : Type} {lib : ClientLibrary Surfaces}
    (noSurfaces : Surfaces) {lower : String → String} {ρ : Type}
    (deployment : CommandDeployment lower ρ) (draws : CommandDraws) (s : CommandState lower ρ)
    (texts : PyValue CommandRecord → String) (encode : AguiEvent → String) (notJson : AgentError)
    {steps between : List ClientStep} {n : ℕ} {input : ClientInput}
    {threadId runId command : String} {payload : Dict String Json}
    {k : ClientAnswer → ClientCoroutine Surfaces PUnit} {request : CommandRequest}
    (hwait : ((threadSystem lib).run (createThreadClient noSurfaces) steps).tasks[n]? =
      some ⟨input, .waiting (.command command payload) k⟩)
    (hbody : request.body = .ok (postedBody threadId runId command payload))
    (hframes : FramesEvents lib encode ((commands deployment draws request s).1.events texts))
    (hbetween : ∀ answer, .deliver n answer ∉ between) :
    let response := (commands deployment draws request s).1
    let answers := httpAnswers texts encode notJson response
    ExchangeTold (runId ++ "-command") (responseShown lib texts runId command response)
      ((threadSystem lib).run (createThreadClient noSurfaces)
        (steps ++ .deliver n answers.1 :: between))
      ((threadSystem lib).run (createThreadClient noSurfaces)
        (steps ++ .deliver n answers.1 :: between ++ [.deliver n answers.2])) :=
  told_of_fits hwait (commands_of_posted hbody) hframes hbetween

/-! ### An encoder -/

namespace Json

theorem newline_notMem_hex4 (n : ℕ) : '\n' ∉ hex4 n := by
  have hdigit : ∀ m < 16, Nat.digitChar m ≠ '\n' := by decide
  simp [hex4, (hdigit _ (Nat.mod_lt _ (by omega))).symm]

theorem newline_notMem_escapeChar (c : Char) : '\n' ∉ escapeChar c := by
  unfold escapeChar
  split_ifs with h1 h2 h3 h4 h5 h6 h7 h8 h9
  · decide
  · decide
  · decide
  · decide
  · decide
  · decide
  · decide
  · simpa using Ne.symm h3
  · simp [escapeUnit, newline_notMem_hex4]
  · simp [escapeUnit, newline_notMem_hex4]

theorem newline_notMem_quote (s : String) : '\n' ∉ quote s := by
  simp [quote, newline_notMem_escapeChar]

mutual

/-- A value is printed on one line. -/
theorem newline_notMem_dumps : ∀ v : Json, '\n' ∉ dumps v
  | .null => by decide
  | .bool true => by decide
  | .bool false => by decide
  | .number n => fun h => absurd (n.numeric _ h) (by decide)
  | .str s => newline_notMem_quote s
  | .arr [] => by decide
  | .arr (v :: l) => by simp [dumps, newline_notMem_dumps v, newline_notMem_dumpsItems l]
  | .obj [] => by decide
  | .obj ((k, v) :: l) => by
      simp [dumps, newline_notMem_quote k, newline_notMem_dumps v, newline_notMem_dumpsFields l]

theorem newline_notMem_dumpsItems : ∀ l : List Json, '\n' ∉ dumpsItems l
  | [] => by decide
  | v :: l => by simp [dumpsItems, newline_notMem_dumps v, newline_notMem_dumpsItems l]

theorem newline_notMem_dumpsFields : ∀ l : List (String × Json), '\n' ∉ dumpsFields l
  | [] => by decide
  | (k, v) :: l => by
      simp [dumpsFields, newline_notMem_quote k, newline_notMem_dumps v, newline_notMem_dumpsFields l]

end

end Json

/-- An event is printed, and framed. -/
def dumpsEncode (event : AguiEvent) : String :=
  String.ofList (framed dataMark '\n' event.wire.dumps)

/-- A library that tells nothing, and parses what is printed of these events. -/
def printedLibrary (events : List AguiEvent) : ClientLibrary PUnit where
  parse text :=
    match events.find? fun event => text = String.ofList event.wire.dumps with
    | some event => .ok event.wire
    | none => .error ⟨none, "SyntaxError"⟩
  typeError _ := ⟨none, "TypeError"⟩
  buildResumeArray _ _ := .ok []
  processMessages _ := pure ⟨⟩

/-- **Printed events are framed**, whatever they are. -/
theorem framesEvents_printed (events : List AguiEvent) :
    FramesEvents (printedLibrary events) dumpsEncode events := by
  intro event hevent
  refine ⟨event.wire.dumps, String.toList_ofList, Json.newline_notMem_dumps _, ?_⟩
  change (match events.find? (fun e => String.ofList event.wire.dumps = String.ofList e.wire.dumps) with
    | some e => Except.ok e.wire
    | none => Except.error _) = _
  cases hfind : events.find? fun e => String.ofList event.wire.dumps = String.ofList e.wire.dumps with
  | none => exact absurd (List.find?_eq_none.1 hfind event hevent) (by simp)
  | some e =>
      have hprinted := List.find?_some hfind
      have htext : event.wire.dumps = e.wire.dumps :=
        String.ofList_injective (of_decide_eq_true hprinted)
      have happend : event.wire.dumps ++ [] = e.wire.dumps ++ [] := congrArg (· ++ []) htext
      exact congrArg Except.ok (Json.dumps_append_inj _ _ Json.stops_nil Json.stops_nil happend).1.symm

/-- The click of a button that asks for a provision. -/
def provisionClick : A2uiAction := ⟨"/provision", some (.ofPairs (samplePayload .provision))⟩

/-- What the click posts. -/
def provisionPosted : CommandRequest where
  body := .ok (postedBody "t1" "r1" "/provision" (.ofPairs (samplePayload .provision)))
  origin := some "https://ops.example"
  principal := some ⟨"platformops", "user_bob"⟩
  source := none
  distinctKeys := by
    rintro value ⟨⟩
    have hvalid : ValidPayload .asciiOnly .provision (samplePayload .provision) :=
      samplePayload_valid .provision
    exact distinctKeys_commandJson hvalid.1

/-- The gateway with a workflow that takes every provision. -/
def acceptingCommands : CommandDeployment asciiLower RegistrationState :=
  { sampleCommands with provision := fun _ => pure (.obj [("status", .str "queued")]) }

/-- What the gateway answers to the click. -/
def provisionResponse : CommandResponse :=
  (commands acceptingCommands sampleDraws provisionPosted ⟨noOrganizations, .initial⟩).1

/-- The two answers the client gets. -/
def provisionAnswers : ClientAnswer × ClientAnswer :=
  httpAnswers (fun _ => "") dumpsEncode ⟨none, "SyntaxError"⟩ provisionResponse

/-- The click, its answer, and the end of another run. -/
def provisionSteps : List ClientStep :=
  [.spawn (.action provisionClick), .deliver 0 provisionAnswers.1,
    .environment (.finished 0 (.success none))]

/-- **A click is told of**, also where the end of another run comes in between. -/
theorem provision_click_told :
    let lib := printedLibrary (provisionResponse.events fun _ => "")
    ExchangeTold "r1-command" (responseShown lib (fun _ => "") "r1" "/provision" provisionResponse)
      ((threadSystem lib).run (createThreadClient ⟨⟩) provisionSteps)
      ((threadSystem lib).run (createThreadClient ⟨⟩)
        (provisionSteps ++ [.deliver 0 provisionAnswers.2])) := by
  intro lib
  have hwait : ((threadSystem lib).run (createThreadClient ⟨⟩)
      [.spawn (.action provisionClick)]).tasks[0]? =
        some ⟨.action provisionClick, .waiting
          (.command "/provision" (.ofPairs (samplePayload .provision))) (afterCommand lib 0)⟩ := by
    have hclick : (handleAction lib provisionClick).run (createThreadClient ⟨⟩) =
        (runAndLog (runCommand lib "/provision" (.ofPairs (samplePayload .provision)))).run
          (createThreadClient ⟨⟩) := rfl
    change [(⟨ClientInput.action provisionClick, ((handleAction lib provisionClick).run
      (createThreadClient ⟨⟩)).1⟩ : CallTask _ _ _ _ _ _)][0]? = _
    rw [hclick, run_runAndLog_runCommand]
    rfl
  have hbetween : ∀ answer, .deliver 0 answer ∉
      ([.environment (.finished 0 (.success none))] : List ClientStep) := by simp
  exact command_exchange_told ⟨⟩ acceptingCommands sampleDraws ⟨noOrganizations, .initial⟩
    (fun _ => "") dumpsEncode ⟨none, "SyntaxError"⟩ hwait rfl (framesEvents_printed _)
    hbetween

end PlatformOps
