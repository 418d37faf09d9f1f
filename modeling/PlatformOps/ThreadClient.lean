/-
**The browser's thread client.**

One thread of the browser has one client: a list of turns, the surfaces that were created for them,
and a flag that says that something was submitted.  A message that is sent and an action of a
surface both start with a test of the flag, and what they start runs in one function that raises the
flag, awaits a run of the agent or the answer to a command, and lowers it in the end, also where
that failed.

Of the code around it, `JSON.parse`, the processor of surfaces, the resume entries of the agent's
library and the texts of type errors are parameters.  A run of the agent is one request to it: while
it goes on the library tells the subscriber of the run about its events, and keeps the open
interrupts and the messages, which are steps of the environment, in any number and order.
Identifiers and time stamps of turns, the thread's own identifier and the listeners, which render
the state and start nothing, are left out.

Main definitions:

* `ThreadState`, `ClientRequest`, `ClientAnswer` — the client's state, what it awaits, and how that
  is answered;
* `onCustomEvent`, `onRunFinishedEvent` — what a subscriber does;
* `runAgent`, `runCommand`, `runAndLog`, `sendMessage`, `handleAction` — the client;
* `threadSystem` — one client, its inputs and its environment;
* `ClientInput.asks` — the request an input asks for;
* `RunsSerialised` — what it is for the runs of a client to be serialised.

Main results:

* `exclusive_threadSystem` — the flag guards a critical section;
* `awaiting_of_idle` — an idle client sends the request an input asks for;
* `thread_client_serialises` — **the client serialises its runs**, in every interleaving.
-/

import Mathlib.Data.List.DropRight
import PlatformOps.CriticalSection
import PlatformOps.Json

set_option relaxedAutoImplicit false
set_option autoImplicit false

namespace PlatformOps

/-! ### Texts and values of the browser -/

namespace JsString

/-- The characters `trim` removes: white space and line ends. -/
def isSpace (c : Char) : Bool :=
  let n := c.toNat
  9 ≤ n && n ≤ 13 || n = 0x20 || n = 0xA0 || n = 0x1680 || 0x2000 ≤ n && n ≤ 0x200A ||
    n = 0x2028 || n = 0x2029 || n = 0x202F || n = 0x205F || n = 0x3000 || n = 0xFEFF

def trim (text : String) : String :=
  String.ofList ((text.toList.dropWhile isSpace).rdropWhile isSpace)

def startsWith (text start : String) : Bool := start.toList.isPrefixOf text.toList

end JsString

namespace Json

/-- What a condition tests for.  Empty arrays and objects are true here, and a number has the text
it is printed with. -/
def jsTruthy : Json → Bool
  | .null => false
  | .bool b => b
  | .number n => n.text ≠ "0"
  | .str s => s ≠ ""
  | .arr _ => true
  | .obj _ => true

mutual

/-- `String(value)`.  An object that hides `toString` under a field has none. -/
def jsString : Json → Option String
  | .null => some "null"
  | .bool b => some (if b then "true" else "false")
  | .number n => some n.text
  | .str s => some s
  | .arr items => (jsItems items).map (String.intercalate ",")
  | .obj fields => if (fields.map Prod.fst).contains "toString" then none else some "[object Object]"

/-- The texts that `join` puts together. -/
def jsItems : List Json → Option (List String)
  | [] => some []
  | .null :: items => (jsItems items).map ("" :: ·)
  | item :: items => do
      let text ← jsString item
      let texts ← jsItems items
      pure (text :: texts)

end

end Json

/-! ### The client's state -/

inductive TurnKind
  | userMessage
  | clarificationRequired
  | approvalRequired
  | routeResolved
  | error
  deriving DecidableEq

/-- A `Turn`. -/
structure ClientTurn where
  kind : TurnKind
  text : String
  surfaceId : Option Json := none

/-- An open interrupt of the agent. -/
structure PendingInterrupt where
  id : String
  reason : Option String
  rest : Json

/-- A message of the agent. -/
structure AgentMessage where
  role : String
  content : String

/-- The state of a client, with the part of its agent it reads and writes, and the surface each of
its subscribers saw last. -/
structure ThreadState (Surfaces : Type) where
  turns : List ClientTurn
  isSubmitting : Bool
  surfacesById : Surfaces
  pendingInterrupts : List PendingInterrupt
  messages : List AgentMessage
  lastSurfaceIds : List (Option Json)

/-- A new client. -/
def createThreadClient {Surfaces : Type} (noSurfaces : Surfaces) : ThreadState Surfaces :=
  ⟨[], false, noSurfaces, [], [], []⟩

/-- What is thrown: its message, and the body of the answer where the agent's library adds it. -/
structure AgentError where
  payload : Option Json
  message : String

/-- What a resumed interrupt is answered with. -/
structure ResumeResponse where
  status : String
  payload : Option Json

/-- The code that is called: the library of the agent and of the surfaces, and the engine. -/
structure ClientLibrary (Surfaces : Type) where
  /-- `JSON.parse`. -/
  parse : String → Except AgentError Json
  /-- What is thrown where a value has the wrong type. -/
  typeError : Option Json → AgentError
  buildResumeArray : List PendingInterrupt → Dict String ResumeResponse →
    Except AgentError (List Json)
  processMessages : List Json → Action Surfaces AgentError PUnit

/-- The parameters of a run. -/
inductive RunParams
  | resume (entries : List Json)
  | forwardedProps (scope : Option String)

/-- What the client awaits: a run of the agent, the answer to a command, or the body of one. -/
inductive ClientRequest
  | run (params : RunParams)
  | command (command : String) (payload : Dict String Json)
  | json
  | text

/-- What a promise is resolved to: an answer has a status, a body its value or its text. -/
structure ClientReply where
  ok : Bool
  status : ℕ
  json : Json
  text : String

/-- A request completes or fails. -/
inductive ClientAnswer
  | resolved (reply : ClientReply)
  | rejected (err : AgentError)

variable {Surfaces : Type}

/-- What runs without awaiting anything. -/
abbrev ClientAction (Surfaces α : Type) : Type := Action (ThreadState Surfaces) AgentError α

/-- What may await requests. -/
abbrev ClientCoroutine (Surfaces α : Type) : Type :=
  Coroutine (ThreadState Surfaces) ClientRequest ClientAnswer AgentError α

/-! ### Turns -/

def setSubmitting (isSubmitting : Bool) : ClientAction Surfaces PUnit :=
  .modify fun s => { s with isSubmitting := isSubmitting }

def appendTurn (turn : ClientTurn) : ClientAction Surfaces PUnit :=
  .modify fun s => { s with turns := s.turns ++ [turn] }

/-- `describeAgentError`: the detail of the answer's body, if it is a text, or the message. -/
def describeAgentError (err : AgentError) : String :=
  match err.payload.bind (·.field "detail") with
  | some (.str detail) => if detail = "" then err.message else detail
  | _ => err.message

section Library

variable (lib : ClientLibrary Surfaces)

/-- A member of a value, which `null` has none of. -/
def member (value : Option Json) (name : String) : Except AgentError (Option Json) :=
  match value with
  | none => .error (lib.typeError value)
  | some .null => .error (lib.typeError value)
  | some v => .ok (v.field name)

/-- `String(value)`. -/
def stringOf (value : Json) : Except AgentError String :=
  match value.jsString with
  | some text => .ok text
  | none => .error (lib.typeError (some value))

/-- `summarizeResult`. -/
def summarizeResult (result : Option Json) : Except AgentError String :=
  match result.bind Json.asObject with
  | none => .ok "Result received"
  | some r =>
      if (r.get? "intent").isNone then .ok "Result received"
      else
        match r.get? "route" with
        | some route =>
            if route.jsTruthy then (stringOf lib route).map ("Routed to " ++ ·)
            else unrouted r
        | none => unrouted r
where
  unrouted (r : Dict String Json) : Except AgentError String :=
    match r.get? "unsupported_reason" with
    | none => .ok "No route yet -- unsupported"
    | some .null => .ok "No route yet -- unsupported"
    | some reason => (stringOf lib reason).map ("No route yet -- " ++ ·)

/-- `surfaceIdFromMessage`: the operator `in` is defined on objects and arrays only. -/
def surfaceIdFromMessage (message : Option Json) : Except AgentError (Option Json) :=
  match message with
  | some (.obj fields) =>
      match (Dict.ofPairs fields).get? "createSurface" with
      | some createSurface => member lib (some createSurface) "surfaceId"
      | none =>
          match (Dict.ofPairs fields).get? "updateComponents" with
          | some updateComponents => member lib (some updateComponents) "surfaceId"
          | none => .ok none
  | some (.arr _) => .ok none
  | _ => .error (lib.typeError message)

/-! ### Subscribers -/

/-- A subscriber is made for one run, and has seen no surface. -/
def newSubscriber : ClientAction Surfaces ℕ := do
  let subscriber ← .read fun s => s.lastSurfaceIds.length
  .modify fun s => { s with lastSurfaceIds := s.lastSurfaceIds ++ [none] }
  pure subscriber

/-- The surface a subscriber saw last. -/
def lastSurfaceId (subscriber : ℕ) : ClientAction Surfaces (Option Json) :=
  .read fun s => (s.lastSurfaceIds[subscriber]?).join

/-- `lastSurfaceId = surfaceId ?? lastSurfaceId`. -/
def seeSurface (subscriber : ℕ) : Option Json → ClientAction Surfaces PUnit
  | none => pure ⟨⟩
  | some .null => pure ⟨⟩
  | some surfaceId =>
      .modify fun s => { s with lastSurfaceIds := s.lastSurfaceIds.set subscriber (some surfaceId) }

def onCustomEvent (subscriber : ℕ) (name : String) (value : Option Json) :
    ClientAction Surfaces PUnit :=
  if JsString.startsWith name "a2ui." then do
    let surfaceId ← .ofExcept (surfaceIdFromMessage lib value)
    seeSurface subscriber surfaceId
    .focus (·.surfacesById) (fun surfaces s => { s with surfacesById := surfaces })
      (lib.processMessages value.toList)
  else pure ⟨⟩

/-- How a run ended. -/
inductive RunOutcome
  | success (result : Option Json)
  | interrupt (interrupts : List PendingInterrupt)

def onRunFinishedEvent (subscriber : ℕ) : RunOutcome → ClientAction Surfaces PUnit
  | .success result => do
      let text ← .ofExcept (summarizeResult lib result)
      let surfaceId ← lastSurfaceId subscriber
      appendTurn { kind := .routeResolved, text := text, surfaceId := surfaceId }
  | .interrupt interrupts => do
      let surfaceId ← lastSurfaceId subscriber
      appendTurn {
        kind :=
          if interrupts.head?.bind PendingInterrupt.reason = some "approval.required" then
            .approvalRequired
          else .clarificationRequired
        text := "Input needed"
        surfaceId := surfaceId }

/-! ### Requests -/

/-- Await a promise: what it is rejected with is thrown. -/
def awaitPromise (request : ClientRequest) : ClientCoroutine Surfaces ClientReply :=
  .await request fun
    | .resolved reply => .ret reply
    | .rejected err => .raise err

/-- `agent.runAgent`. -/
def runAgent (params : RunParams) : ClientCoroutine Surfaces PUnit := do
  let _ ← awaitPromise (.run params)
  pure ⟨⟩

/-- One line of the answer to a command. -/
def readLine (subscriber : ℕ) (line : String) : ClientAction Surfaces PUnit :=
  if JsString.startsWith line "data: " then do
    let event ← .ofExcept (lib.parse (String.ofList (line.toList.drop 6)))
    let type ← .ofExcept (member lib (some event) "type")
    if type.bind Json.asString = some "CUSTOM" then
      match event.field "name" with
      | none => pure ⟨⟩
      | some .null => pure ⟨⟩
      | some (.str name) => onCustomEvent lib subscriber name (event.field "value")
      | some name => .raise (lib.typeError (some name))
    else if type.bind Json.asString = some "RUN_FINISHED" then
      onRunFinishedEvent lib subscriber (.success (event.field "result"))
    else pure ⟨⟩
  else pure ⟨⟩

/-- The lines of an answer, one after another. -/
def readLines (subscriber : ℕ) : List String → ClientAction Surfaces PUnit
  | [] => pure ⟨⟩
  | line :: lines => do
      readLine lib subscriber line
      readLines subscriber lines

/-- What a failed command is described by: the detail of its body, or its status. -/
def errorDetail (status : ℕ) : ClientCoroutine Surfaces String :=
  let statusLine := "HTTP " ++ toString status
  .tryCatch
    (do
      let body ← awaitPromise .json
      let detail ← .ofExcept (member lib (some body.json) "detail")
      match detail with
      | some (.str detail) => pure (if detail = "" then statusLine else detail)
      | _ => pure statusLine)
    -- a body that is not JSON keeps the status line
    fun _ => pure statusLine

def runCommand (command : String) (payload : Dict String Json) (subscriber : ℕ) :
    ClientCoroutine Surfaces PUnit := do
  let response ← awaitPromise (.command command payload)
  if response.ok then
    let body ← awaitPromise .text
    .ofAction (readLines lib subscriber ((body.text.toList.splitOn '\n').map String.ofList))
  else
    let detail ← errorDetail lib response.status
    .raise ⟨none, detail⟩

/-! ### The client -/

def runAndLog (run : ℕ → ClientCoroutine Surfaces PUnit) : ClientCoroutine Surfaces PUnit := do
  .ofAction (setSubmitting true)
  let subscriber ← .ofAction newSubscriber
  .tryFinally
    (.tryCatch (run subscriber) fun err =>
      .ofAction (appendTurn { kind := .error, text := describeAgentError err }))
    (.ofAction (setSubmitting false))

/-- The resume entries for one interrupt that is answered with a payload. -/
def resumeEntries (interrupt : PendingInterrupt) (payload : Option Json) :
    Except AgentError (List Json) :=
  lib.buildResumeArray [interrupt] (Dict.empty.set interrupt.id ⟨"resolved", payload⟩)

/-- An action of a surface. -/
structure A2uiAction where
  name : String
  context : Option (Dict String Json)

/-- The email address of an action, if it is a text with something in it. -/
def A2uiAction.email (action : A2uiAction) : Option String :=
  match action.context.bind (·.get? "email") with
  | some (.str email) => if JsString.trim email = "" then none else some email
  | _ => none

def handleAction (action : A2uiAction) : ClientCoroutine Surfaces PUnit :=
  .get fun s =>
    if s.isSubmitting then pure ⟨⟩
    else if action.name = "guest.login.submit" then
      match action.email with
      | none => .ofAction (appendTurn {
          kind := .error
          text := "Enter an email address before requesting a sign-in link." })
      | some email => runAndLog (runCommand lib "/login" (Dict.empty.set "email" (.str email)))
    else if JsString.startsWith action.name "/" then
      runAndLog (runCommand lib action.name (action.context.getD Dict.empty))
    else
      match s.pendingInterrupts.find? (·.id = action.name) with
      | none => pure ⟨⟩
      | some interrupt => do
          let resume ← .ofExcept (resumeEntries lib interrupt (action.context.map fun context =>
            .obj context.entries))
          runAndLog fun _ => runAgent (.resume resume)

def buildForwardedProps (scope : String) : Option String :=
  if JsString.trim scope = "" then none else some (JsString.trim scope)

def sendMessage (text scope : String) : ClientCoroutine Surfaces PUnit :=
  .get fun s =>
    if s.isSubmitting then pure ⟨⟩
    else do
      .ofAction (appendTurn { kind := .userMessage, text := text })
      match s.pendingInterrupts with
      | [interrupt] =>
          let resume ← .ofExcept (resumeEntries lib interrupt (some (.obj [("value", .str text)])))
          runAndLog fun _ => runAgent (.resume resume)
      | _ :: _ :: _ =>
          .ofAction (appendTurn {
            kind := .error
            text := "Multiple pending inputs are open. " ++
              "Resolve them from the cards before sending a new message." })
      | [] =>
          .ofAction (.modify fun s => { s with messages := s.messages ++ [⟨"user", text⟩] })
          runAndLog fun _ => runAgent (.forwardedProps (buildForwardedProps scope))

/-! ### One client and what happens to it -/

/-- An input of the browser. -/
inductive ClientInput
  | message (text scope : String)
  | action (action : A2uiAction)

/-- What the library of the agent does on its own: it tells a subscriber about an event, or keeps
the interrupts and the messages. -/
inductive AgentEvent
  | custom (subscriber : ℕ) (name : String) (value : Option Json)
  | finished (subscriber : ℕ) (outcome : RunOutcome)
  | state (pendingInterrupts : List PendingInterrupt) (messages : List AgentMessage)

def ClientInput.main : ClientInput → ClientCoroutine Surfaces PUnit
  | .message text scope => sendMessage lib text scope
  | .action click => handleAction lib click

/-- What a subscriber throws is the library's to handle. -/
def AgentEvent.apply (event : AgentEvent) (s : ThreadState Surfaces) : ThreadState Surfaces :=
  match event with
  | .custom subscriber name value => (onCustomEvent lib subscriber name value s).2
  | .finished subscriber outcome => (onRunFinishedEvent lib subscriber outcome s).2
  | .state pendingInterrupts messages =>
      { s with pendingInterrupts := pendingInterrupts, messages := messages }

def threadSystem : System (ThreadState Surfaces) ClientRequest ClientAnswer AgentError PUnit
    ClientInput AgentEvent where
  main := ClientInput.main lib
  environment := AgentEvent.apply lib

/-! ### The flag is kept -/

variable {lib}

theorem keeps_seeSurface (subscriber : ℕ) (surfaceId : Option Json) :
    (seeSurface subscriber surfaceId : ClientAction Surfaces PUnit).Keeps
      ThreadState.isSubmitting := by
  intro s
  unfold seeSurface
  split
  · rfl
  · rfl
  · rfl

theorem keeps_onCustomEvent (subscriber : ℕ) (name : String) (value : Option Json) :
    (onCustomEvent lib subscriber name value).Keeps ThreadState.isSubmitting := by
  unfold onCustomEvent
  refine Action.Keeps.ite ?_ ((Action.readOnly_pure _).keeps _)
  refine ((Action.readOnly_ofExcept _).keeps _).bind fun surfaceId => ?_
  exact (keeps_seeSurface subscriber surfaceId).bind fun _ => Action.keeps_focus fun _ _ => rfl

theorem keeps_appendTurn (turn : ClientTurn) :
    (appendTurn turn : ClientAction Surfaces PUnit).Keeps ThreadState.isSubmitting :=
  Action.keeps_modify fun _ => rfl

theorem keeps_onRunFinishedEvent (subscriber : ℕ) (outcome : RunOutcome) :
    (onRunFinishedEvent lib subscriber outcome).Keeps ThreadState.isSubmitting := by
  cases outcome with
  | success result =>
      refine ((Action.readOnly_ofExcept _).keeps _).bind fun text => ?_
      exact ((Action.readOnly_read _).keeps _).bind fun surfaceId => keeps_appendTurn _
  | interrupt interrupts =>
      exact ((Action.readOnly_read _).keeps _).bind fun surfaceId => keeps_appendTurn _

theorem keeps_readLine (subscriber : ℕ) (line : String) :
    (readLine lib subscriber line).Keeps ThreadState.isSubmitting := by
  unfold readLine
  refine Action.Keeps.ite ?_ ((Action.readOnly_pure _).keeps _)
  refine ((Action.readOnly_ofExcept _).keeps _).bind fun event => ?_
  refine ((Action.readOnly_ofExcept _).keeps _).bind fun type => ?_
  refine Action.Keeps.ite ?_ ?_
  · split
    · exact (Action.readOnly_pure _).keeps _
    · exact (Action.readOnly_pure _).keeps _
    · exact keeps_onCustomEvent subscriber _ _
    · exact (Action.readOnly_raise _).keeps _
  · exact Action.Keeps.ite (keeps_onRunFinishedEvent subscriber _) ((Action.readOnly_pure _).keeps _)

theorem keeps_readLines (subscriber : ℕ) (lines : List String) :
    (readLines lib subscriber lines).Keeps ThreadState.isSubmitting := by
  induction lines with
  | nil => exact (Action.readOnly_pure _).keeps _
  | cons line lines ih => exact (keeps_readLine subscriber line).bind fun _ => ih

theorem isSubmitting_apply (event : AgentEvent) (s : ThreadState Surfaces) :
    (event.apply lib s).isSubmitting = s.isSubmitting := by
  cases event with
  | custom subscriber name value => exact keeps_onCustomEvent subscriber name value s
  | finished subscriber outcome => exact keeps_onRunFinishedEvent subscriber outcome s
  | state pendingInterrupts messages => rfl

/-! ### The flag guards a critical section -/

/-- The body of an answer is read where the answer came: its text, or the value of an error. -/
def ClientRequest.Continues : ClientRequest → ClientAnswer → ClientRequest → Prop
  | .command _ _, .resolved reply, .text => reply.ok = true
  | .command _ _, .resolved reply, .json => reply.ok = false
  | _, _, _ => False

/-- The section the flag guards. -/
def submitting : CriticalSection (ThreadState Surfaces) ClientRequest ClientAnswer where
  held s := s.isSubmitting = true
  next := ClientRequest.Continues

variable {last : Option (ClientRequest × ClientAnswer)} {s : ThreadState Surfaces}

/-- An action that keeps the flag keeps the section held. -/
theorem sustains_of_keeps {α : Type} {x : ClientAction Surfaces α}
    (hx : x.Keeps ThreadState.isSubmitting) (hs : s.isSubmitting = true) :
    (Coroutine.ofAction x : ClientCoroutine Surfaces α).Sustains submitting
      (fun _ t => t.isSubmitting = true) last s :=
  Coroutine.sustains_ofAction.2 ((hx s).trans hs)

/-- A promise is awaited inside the section, and what it is rejected with is thrown. -/
theorem sustains_awaitPromise_bind {α : Type} {request : ClientRequest}
    {f : ClientReply → ClientCoroutine Surfaces α}
    {Q : Except AgentError α → ThreadState Surfaces → Prop} (hs : s.isSubmitting = true)
    (hlast : ∀ a ∈ last, a.1.Continues a.2 request)
    (hresolved : ∀ reply t, t.isSubmitting = true →
      (f reply).Sustains submitting Q (some (request, .resolved reply)) t)
    (hrejected : ∀ err t, t.isSubmitting = true → Q (.error err) t) :
    (awaitPromise request >>= f).Sustains submitting Q last s := by
  refine ⟨hs, hlast, fun answer t ht => ?_⟩
  cases answer with
  | resolved reply => exact hresolved reply t ht
  | rejected err => exact hrejected err t ht

theorem sustains_runAgent (params : RunParams) (hs : s.isSubmitting = true) :
    (runAgent params).Sustains submitting (fun _ t => t.isSubmitting = true) none s :=
  sustains_awaitPromise_bind hs (fun _ ha => by cases ha) (fun _ _ ht => ht) fun _ _ ht => ht

theorem sustains_errorDetail (status : ℕ) (hs : s.isSubmitting = true)
    (hlast : ∀ a ∈ last, a.1.Continues a.2 .json) :
    (errorDetail lib status).Sustains submitting (fun _ t => t.isSubmitting = true) last s := by
  refine Coroutine.Sustains.tryCatch (Q := fun _ (t : ThreadState Surfaces) =>
    t.isSubmitting = true) ?_ (fun _ _ ht => ht) fun _ _ _ ht => ht
  refine sustains_awaitPromise_bind hs hlast (fun body t ht => ?_) fun _ _ ht => ht
  refine Coroutine.sustains_ofExcept_bind (fun detail _ => ?_) fun _ _ => ht
  split
  · exact ht
  · exact ht

theorem sustains_runCommand (command : String) (payload : Dict String Json) (subscriber : ℕ)
    (hs : s.isSubmitting = true) :
    (runCommand lib command payload subscriber).Sustains submitting
      (fun _ t => t.isSubmitting = true) none s := by
  refine sustains_awaitPromise_bind hs (fun _ ha => by cases ha) (fun response t ht => ?_)
    fun _ _ ht => ht
  cases hok : response.ok with
  | true =>
      rw [if_pos rfl]
      refine sustains_awaitPromise_bind ht ?_ (fun body t ht => ?_) fun _ _ ht => ht
      · rintro _ ⟨⟩
        exact hok
      · exact sustains_of_keeps (keeps_readLines subscriber _) ht
  | false =>
      rw [if_neg Bool.false_ne_true]
      refine (sustains_errorDetail response.status ht ?_).bind (fun _ _ _ ht => ht) fun _ _ ht => ht
      rintro _ ⟨⟩
      exact hok

/-- **What is logged runs inside the section**, and leaves it however it ends. -/
theorem sustains_runAndLog {run : ℕ → ClientCoroutine Surfaces PUnit}
    (hrun : ∀ subscriber s, s.isSubmitting = true →
      (run subscriber).Sustains submitting (fun _ t => t.isSubmitting = true) none s) :
    (runAndLog run).Sustains submitting (fun _ t => ¬ t.isSubmitting = true) none s := by
  refine (Coroutine.sustains_ofAction_bind_of_ok rfl).2 ?_
  refine (Coroutine.sustains_ofAction_bind_of_ok rfl).2 ?_
  refine Coroutine.Sustains.tryFinally (Q := fun _ t => t.isSubmitting = true) ?_
    fun _ _ _ _ => Coroutine.sustains_ofAction.2 Bool.false_ne_true
  refine (hrun _ _ rfl).tryCatch (fun _ _ ht => ht) fun err last t ht => ?_
  exact sustains_of_keeps (keeps_appendTurn _) ht

/-- A resumed run is logged, or the library throws before anything is submitted. -/
theorem sustains_resume (interrupt : PendingInterrupt) (payload : Option Json)
    (hs : ¬ s.isSubmitting = true) :
    (Coroutine.ofExcept (resumeEntries lib interrupt payload) >>= fun resume =>
      runAndLog fun _ => runAgent (.resume resume)).Sustains submitting
        (fun _ t => ¬ t.isSubmitting = true) none s :=
  Coroutine.sustains_ofExcept_bind
    (fun _ _ => sustains_runAndLog fun _ _ ht => sustains_runAgent _ ht) fun _ _ => hs

/-- A message that finds the flag lowered. -/
theorem sustains_sendMessage (text scope : String) (hs : ¬ s.isSubmitting = true) :
    (sendMessage lib text scope).Sustains submitting (fun _ t => ¬ t.isSubmitting = true)
      none s := by
  change (if s.isSubmitting = true then _ else _ : ClientCoroutine Surfaces PUnit).Sustains _ _ _ _
  rw [if_neg hs]
  refine (Coroutine.sustains_ofAction_bind_of_ok rfl).2 ?_
  cases s.pendingInterrupts with
  | nil =>
      refine (Coroutine.sustains_ofAction_bind_of_ok rfl).2 ?_
      exact sustains_runAndLog fun _ _ ht => sustains_runAgent _ ht
  | cons interrupt interrupts =>
      cases interrupts with
      | nil => exact sustains_resume interrupt _ hs
      | cons other interrupts => exact hs

/-- An action that finds the flag lowered. -/
theorem sustains_handleAction (action : A2uiAction) (hs : ¬ s.isSubmitting = true) :
    (handleAction lib action).Sustains submitting (fun _ t => ¬ t.isSubmitting = true) none s := by
  change (if s.isSubmitting = true then _ else _ : ClientCoroutine Surfaces PUnit).Sustains _ _ _ _
  rw [if_neg hs]
  split
  · cases action.email with
    | none => exact hs
    | some email =>
        exact sustains_runAndLog fun subscriber _ ht => sustains_runCommand _ _ subscriber ht
  · split
    · exact sustains_runAndLog fun subscriber _ ht => sustains_runCommand _ _ subscriber ht
    · cases s.pendingInterrupts.find? (·.id = action.name) with
      | none => exact hs
      | some interrupt => exact sustains_resume interrupt _ hs

/-- An input that finds the flag raised ends at once. -/
theorem run_of_submitting (input : ClientInput) (hs : s.isSubmitting = true) :
    (input.main lib).run s = (.returned ⟨⟩, s) := by
  cases input with
  | message text scope =>
      change (if s.isSubmitting = true then _ else _ : ClientCoroutine Surfaces PUnit).run s = _
      rw [if_pos hs]
      rfl
  | action click =>
      change (if s.isSubmitting = true then _ else _ : ClientCoroutine Surfaces PUnit).run s = _
      rw [if_pos hs]
      rfl

/-- **The flag guards a critical section**: every input enters it or ends at once. -/
theorem exclusive_threadSystem : (threadSystem lib).Exclusive submitting where
  enters input s hs := by
    cases input with
    | message text scope => exact sustains_sendMessage text scope hs
    | action click => exact sustains_handleAction click hs
  refuses input s hs := ⟨⟨⟩, run_of_submitting input hs⟩
  environment event s := by
    change (event.apply lib s).isSubmitting = true ↔ s.isSubmitting = true
    rw [isSubmitting_apply]

/-! ### What an idle client sends -/

variable (lib) in
/-- A run that resumes an interrupt, if the library makes the entries for it. -/
def resumeRequest (interrupt : PendingInterrupt) (payload : Option Json) : Option ClientRequest :=
  (resumeEntries lib interrupt payload).toOption.map fun resume => .run (.resume resume)

variable (lib) in
/-- The request an input asks for: a message for a run, which resumes the open interrupt where there
is one, a login and a command for a command, and any other action for the interrupt it names. -/
def ClientInput.asks (s : ThreadState Surfaces) : ClientInput → Option ClientRequest
  | .message text scope =>
      match s.pendingInterrupts with
      | [] => some (.run (.forwardedProps (buildForwardedProps scope)))
      | [interrupt] => resumeRequest lib interrupt (some (.obj [("value", .str text)]))
      | _ :: _ :: _ => none
  | .action click =>
      if click.name = "guest.login.submit" then
        click.email.map fun email => .command "/login" (Dict.empty.set "email" (.str email))
      else if JsString.startsWith click.name "/" then
        some (.command click.name (click.context.getD Dict.empty))
      else
        (s.pendingInterrupts.find? (·.id = click.name)).bind fun interrupt =>
          resumeRequest lib interrupt (click.context.map fun context => .obj context.entries)

theorem awaiting_resume (interrupt : PendingInterrupt) (payload : Option Json) :
    ((Coroutine.ofExcept (resumeEntries lib interrupt payload) >>= fun resume =>
      runAndLog fun _ => runAgent (.resume resume)).run s).1.awaiting =
        resumeRequest lib interrupt payload := by
  unfold resumeRequest
  cases resumeEntries lib interrupt payload with
  | ok resume => rfl
  | error err => rfl

/-- **An idle client sends what an input asks for.** -/
theorem awaiting_of_idle (input : ClientInput) (hs : ¬ s.isSubmitting = true) :
    ((input.main lib).run s).1.awaiting = input.asks lib s := by
  cases input with
  | message text scope =>
      change ((if s.isSubmitting = true then _ else _ : ClientCoroutine Surfaces PUnit).run
        s).1.awaiting = _
      rw [if_neg hs, ClientInput.asks]
      change (Coroutine.run (match s.pendingInterrupts with | [_] => _ | _ :: _ :: _ => _ | [] => _)
        _).1.awaiting = _
      cases s.pendingInterrupts with
      | nil => rfl
      | cons interrupt interrupts =>
          cases interrupts with
          | nil => exact awaiting_resume interrupt _
          | cons other interrupts => rfl
  | action click =>
      change ((if s.isSubmitting = true then _ else _ : ClientCoroutine Surfaces PUnit).run
        s).1.awaiting = _
      rw [if_neg hs, ClientInput.asks]
      split
      · cases click.email with
        | none => rfl
        | some email => rfl
      · split
        · rfl
        · cases s.pendingInterrupts.find? (·.id = click.name) with
          | none => rfl
          | some interrupt => exact awaiting_resume interrupt _

/-! ### Serialised runs -/

/-- The runs of a client are serialised: one request at most is in flight, the flag is up exactly
while one is, an input that arrives meanwhile changes nothing and sends nothing, what follows the
completion or failure of a request is the body of that answer or an idle client, and an idle client
sends what an input asks for. -/
structure RunsSerialised (lib : ClientLibrary Surfaces)
    (p : Pool (ThreadState Surfaces) ClientRequest ClientAnswer AgentError PUnit ClientInput) :
    Prop where
  one_in_flight : p.inFlight.length ≤ 1
  submitting_iff : p.world.isSubmitting = true ↔ p.inFlight ≠ []
  refused : p.inFlight ≠ [] → ∀ input, ((threadSystem lib).step p (.spawn input)).world = p.world ∧
    ((threadSystem lib).step p (.spawn input)).inFlight = p.inFlight
  settled : ∀ (n : ℕ) (input : ClientInput) (request : ClientRequest)
    (k : ClientAnswer → ClientCoroutine Surfaces PUnit) (answer : ClientAnswer),
      p.tasks[n]? = some ⟨input, .waiting request k⟩ →
      (((threadSystem lib).step p (.deliver n answer)).inFlight = [] ∧
        ((threadSystem lib).step p (.deliver n answer)).world.isSubmitting = false) ∨
      ∃ body, request.Continues answer body ∧
        ((threadSystem lib).step p (.deliver n answer)).inFlight = [body]
  accepted : p.inFlight = [] → ∀ input, ((threadSystem lib).step p (.spawn input)).inFlight =
    (input.asks lib p.world).toList

/-- **The client serialises its runs**, in every interleaving of messages, actions, completions and
failures of requests, and what the agent's library does. -/
theorem thread_client_serialises (noSurfaces : Surfaces)
    (steps : List (Step ClientAnswer ClientInput AgentEvent)) :
    RunsSerialised lib ((threadSystem lib).run (createThreadClient noSurfaces) steps) := by
  have hsys : (threadSystem lib).Exclusive submitting := exclusive_threadSystem
  have hp := hsys.exclusion (s := createThreadClient noSurfaces) Bool.false_ne_true steps
  generalize (threadSystem lib).run (createThreadClient noSurfaces) steps = p at hp
  exact {
    one_in_flight := hp.length_inFlight_le_one
    submitting_iff := hp.held_iff
    refused := fun hbusy input => hp.spawn hsys hbusy input
    settled := fun n input request k answer hwait =>
      (hp.deliver hwait answer).imp_left fun h => ⟨h.1, Bool.eq_false_iff.2 h.2⟩
    accepted := fun hidle input => by
      rw [System.inFlight_spawn, hidle, List.nil_append]
      exact congrArg Option.toList (awaiting_of_idle input fun hs => hp.held_iff.1 hs hidle) }

end Library

end PlatformOps
