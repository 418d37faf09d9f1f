/-
**The endpoint of the runs.**

A browser posts a run.  The body is read and validated; one that is no JSON or no valid input is
refused, and whatever else reading it raises escapes.  A run with resume entries answers a
clarification: there has to be one entry, its payload has to have an answer, and the interrupt and
the answer are passed to the harness.  A run without entries starts with the text of its last
message and a target.  Of what the harness raises, value errors are answered with a client error.

The payload is whatever the browser sent.  Its two fields are read as those of an object, whatever
it is, and the first that is true is passed on, whatever it is: a payload that is a list makes the
endpoint fail, and an answer that is a number reaches the harness.

Main definitions:

* `RunAgentInput`, `ResumeEntry`, `RunsFault` — what is posted, and what is answered but a stream;
* `readRunInput` — reading and validating a body;
* `extractText`, `extractAnswer`, `extractScopeHint` — reading the input;
* `harnessRequest`, `runs` — what is passed to the harness, and the endpoint;
* `runsCall` — the call of the harness that the endpoint makes;
* `RefusesCleanly` — a resume is refused with a client error, or its answer is a text;
* `Json.Answers`, `ReadablePayload` — the answer of a payload, and payloads whose answer is a text.

Main results:

* `runs_eq_call` — the endpoint runs its call of the harness;
* `harnessRequest_cases`, `run_serveInput_of_resume` — what becomes of a resume, and of a text that
  is passed on;
* `refusesCleanly_iff` — **a resume is refused cleanly, or passed on as it should be, exactly if the
  body is read, or is no JSON, and the payload of its only entry is readable**.
-/

import PlatformOps.HarnessRuns

set_option relaxedAutoImplicit false
set_option autoImplicit false

namespace PlatformOps

/-! ### Inputs -/

/-- An entry that resumes a run.  A payload that is left out is null. -/
structure ResumeEntry where
  interruptId : String
  payload : Json

/-- The input of a run: the contents of its messages, where they are texts, the entries that resume
it, and what the client forwards. -/
structure RunAgentInput where
  threadId : String
  runId : String
  messages : List (Option String)
  resume : List ResumeEntry
  forwardedProps : Json

/-- What a run ends with but a stream: an error of the protocol, or a fault that escapes. -/
inductive RunsFault
  | httpError (status : ℕ) (detail : String)
  | escapes (fault : Fault)
  deriving DecidableEq

/-- The texts of values and of errors from outside, and which of these are value errors. -/
structure PythonTexts where
  repr : String → String
  str : Json → String
  validationText : String → String → String
  isValueError : String → Bool

/-! ### Reading an input -/

/-- The input in a body, as `RunAgentInput.model_validate` reads it.  A body that is no JSON, or no
valid input, is refused; whatever else is raised escapes. -/
def readRunInput (validate : Json → Option RunAgentInput) (body : RequestBody) :
    Except RunsFault RunAgentInput :=
  match body with
  | .error .jsonDecodeError => .error (.httpError 400 "invalid run body")
  | .error (.raised error) => .error (.escapes (.external error))
  | .ok value =>
      match validate value with
      | some input => .ok input
      | none => .error (.httpError 400 "invalid run body")

/-- `_extract_text`. -/
def extractText (messages : List (Option String)) : Except RunsFault String :=
  match messages.getLast? with
  | none => .error (.httpError 400 "messages must contain a user message")
  | some none => .error (.httpError 400 "last message must have text content")
  | some (some text) =>
      if text = "" then .error (.httpError 400 "last message must have text content") else .ok text

/-- `payload.get`: only an object has it. -/
def payloadGet (payload : Json) (key : String) : Except RunsFault Json :=
  match payload.asObject with
  | some fields => .ok ((fields.get? key).getD .null)
  | none => .error (.escapes (.attributeError "get"))

/-- `_extract_answer`: the first of the two fields that is true, whatever it is. -/
def extractAnswer (resume : List ResumeEntry) : Except RunsFault (String × Json) :=
  match resume with
  | [entry] => do
      let payload := if entry.payload.truthy then entry.payload else .obj []
      let choice ← payloadGet payload "selected_choice"
      let answer ← if choice.truthy then .ok choice else payloadGet payload "value"
      if answer.truthy then .ok (entry.interruptId, answer)
      else .error (.httpError 400 "resume payload missing an answer")
  | _ => .error (.httpError 400 "exactly one resume entry expected")

/-- `ScopeHint.model_validate`: the tenant. -/
def readTenant (value : Json) : Option TenantRef :=
  match (value.field "org").bind Json.asString, (value.field "bu").bind Json.asString with
  | some org, some bu =>
      if horg : org ≠ "" then if hbu : bu ≠ "" then some ⟨org, bu, horg, hbu⟩ else none else none
  | _, _ => none

/-- `ScopeHint.model_validate`: a part that may be left out. -/
def readPart : Option Json → Option (Option String)
  | none | some .null => some none
  | some (.str part) => some (some part)
  | some _ => none

/-- `ScopeHint.model_validate`. -/
def readScopeHint (value : Json) : Option ScopeHint := do
  let tenant ← (value.field "tenant").bind readTenant
  let project ← readPart (value.field "project")
  let workspace ← readPart (value.field "workspace")
  pure ⟨tenant, project, workspace⟩

/-- The text of these characters is not empty if there are any. -/
theorem ofList_ne_empty {chars : List Char} (h : chars ≠ []) : String.ofList chars ≠ "" := by
  intro hempty
  have hlist := congrArg String.toList hempty
  simp only [String.toList_ofList, String.toList_empty] at hlist
  exact h hlist

/-- `parse_scope_hint`: a target as `org:bu/project/workspace`. -/
def parseScopeHint (value : String) : Except String ScopeHint :=
  match value.toList.splitOn '/' with
  | [tenant, project, workspace] =>
      if tenant ≠ [] ∧ project ≠ [] ∧ workspace ≠ [] then
        match tenant.splitOn ':' with
        | [org, bu] =>
            if h : org ≠ [] ∧ bu ≠ [] then
              .ok ⟨⟨String.ofList org, String.ofList bu, ofList_ne_empty h.1, ofList_ne_empty h.2⟩,
                some (String.ofList project), some (String.ofList workspace)⟩
            else .error "scope tenant must use org:bu"
        | _ => .error "scope tenant must use org:bu"
      else .error "scope must use org:bu/project/workspace"
  | _ => .error "scope must use org:bu/project/workspace"

/-- `_extract_scope_hint`: the target that a browser sent, as an object or as a text. -/
def extractScopeHint (forwardedProps : Json) : Except RunsFault (Option ScopeHint) :=
  match (forwardedProps.field "scopeHint").getD .null with
  | .null =>
      match (forwardedProps.field "scope").getD .null with
      | .null => .ok none
      | .str value =>
          if value = "" then
            .error (.httpError 400 "scope forwardedProp must use org:bu/project/workspace")
          else
            match parseScopeHint value with
            | .ok hint => .ok (some hint)
            | .error detail => .error (.httpError 400 detail)
      | _ => .error (.httpError 400 "scope forwardedProp must use org:bu/project/workspace")
  | structured =>
      match readScopeHint structured with
      | some hint => .ok (some hint)
      | none => .error (.httpError 400 "invalid scopeHint forwardedProp")

/-! ### The endpoint -/

/-- What is passed to the harness. -/
inductive HarnessRequest
  | resume (interruptId : String) (answer : Json)
  | start (text : String) (scopeHint : Option ScopeHint)

/-- What a run passes to the harness. -/
def harnessRequest (input : RunAgentInput) : Except RunsFault HarnessRequest :=
  match input.resume with
  | [] => do
      let text ← extractText input.messages
      let scopeHint ← extractScopeHint input.forwardedProps
      pure (.start text scopeHint)
  | entry :: entries => do
      let (interruptId, answer) ← extractAnswer (entry :: entries)
      pure (.resume interruptId answer)

/-- The text of an error of the harness. -/
def HarnessError.message (repr : String → String) : HarnessError → String
  | .sessionExpired sessionId => "session " ++ repr sessionId ++ " is expired"
  | .noPending requestId => "no pending clarification for request " ++ repr requestId
  | .interruptMismatch interruptId requestId =>
      "interrupt " ++ repr interruptId ++ " does not match the pending " ++
        "clarification for request " ++ repr requestId
  | .actorMismatch => "resume actor does not match the actor who started this run"
  | .emptyAnswer => "clarification answer must not be empty"
  | .roundCapReached =>
      "clarification round cap (" ++ toString maxClarificationRounds ++ ") already reached"

section

variable (texts : PythonTexts) (env : HarnessEnv)

/-- What the endpoint makes of a fault: a value error is a client error. -/
def answerRunsFault : Fault → RunsFault
  | .valueError error => .httpError 400 (error.message texts.repr)
  | .validationError model field => .httpError 400 (texts.validationText model field)
  | .attributeError name => .escapes (.attributeError name)
  | .external error =>
      if texts.isValueError error then .httpError 400 error else .escapes (.external error)

/-- The text an answer becomes where it is interpolated. -/
def answerText : Json → String
  | .str text => text
  | answer => texts.str answer

/-- The call of the harness. -/
def serve (actor : ActorSession) (threadId : String) : HarnessRequest → Harness HarnessEvent
  | .resume interruptId answer =>
      resumeClarification env actor threadId interruptId (answerText texts answer)
  | .start text scopeHint => startRun env actor threadId text scopeHint

/-- A coroutine of the endpoint. -/
abbrev Endpoint := Coroutine HarnessState Await Answer RunsFault

/-- What `runs` does with a valid input. -/
def serveInput (actor : ActorSession) (input : RunAgentInput) : Endpoint HarnessEvent :=
  match harnessRequest input with
  | .error fault => .raise fault
  | .ok request => (serve texts env actor input.threadId request).mapError (answerRunsFault texts)

variable (validate : Json → Option RunAgentInput)

/-- `runs`. -/
def runs (actor : ActorSession) (body : RequestBody) : Endpoint HarnessEvent :=
  match readRunInput validate body with
  | .error fault => .raise fault
  | .ok input => serveInput texts env actor input

/-- The call of the harness for what the endpoint passes on. -/
def HarnessRequest.call (actor : ActorSession) (threadId : String) : HarnessRequest → HarnessCall
  | .resume interruptId answer => .resume actor threadId interruptId (answerText texts answer)
  | .start text scopeHint => .start actor threadId text scopeHint

/-- The call of the harness for a body, unless it is refused before. -/
def runsCall (actor : ActorSession) (body : RequestBody) : Except RunsFault HarnessCall := do
  let input ← readRunInput validate body
  let request ← harnessRequest input
  pure (request.call texts actor input.threadId)

/-! ### Clean refusals -/

/-- Whatever a run passes on as an answer is a text.  Unless the input has no entries, which makes
it no resume, it passes a known interrupt with that text to the harness, or it is a bad request and
changes nothing. -/
structure RefusesCleanly (actor : ActorSession) (body : RequestBody) (s : HarnessState) :
    Prop where
  passesText : ∀ input interruptId answer, readRunInput validate body = .ok input →
    harnessRequest input = .ok (.resume interruptId answer) →
    ∃ text, answer = .str text ∧ text ≠ ""
  settles : (∀ input, readRunInput validate body = .ok input → input.resume ≠ []) →
    (∃ input interruptId text pending, readRunInput validate body = .ok input ∧
      harnessRequest input = .ok (.resume interruptId (.str text)) ∧
      ResumeValid s actor input.threadId interruptId text pending) ∨
    ∃ detail, (runs texts env validate actor body).run s = (.raised (.httpError 400 detail), s)

end

/-- This is the answer of an object: its choice, or its value if it has no choice that is true. -/
def Json.Answers (payload answer : Json) : Prop :=
  answer.truthy = true ∧
    (payload.field "selected_choice" = some answer ∨
      (∀ choice, payload.field "selected_choice" = some choice → choice.truthy = false) ∧
        payload.field "value" = some answer)

/-- There is nothing in the payload, or it is an object and its answer, if it has one, is a text. -/
def ReadablePayload (payload : Json) : Prop :=
  payload.truthy = true →
    (∃ fields, payload = .obj fields) ∧
      ∀ answer, payload.Answers answer → ∃ text, answer = .str text

/-! ### What is read of a payload -/

theorem Json.Answers.unique {payload answer answer' : Json} (h : payload.Answers answer)
    (h' : payload.Answers answer') : answer' = answer := by
  obtain ⟨htrue, hchoice | ⟨hnone, hvalue⟩⟩ := h
  · obtain ⟨-, hchoice' | ⟨hnone', -⟩⟩ := h'
    · rw [hchoice] at hchoice'
      exact (Option.some.inj hchoice').symm
    · rw [hnone' answer hchoice] at htrue
      cases htrue
  · obtain ⟨htrue', hchoice' | ⟨-, hvalue'⟩⟩ := h'
    · rw [hnone answer' hchoice'] at htrue'
      cases htrue'
    · rw [hvalue] at hvalue'
      exact (Option.some.inj hvalue').symm

/-- Only an object has an answer. -/
theorem Json.Answers.exists_fields {payload answer : Json} (h : payload.Answers answer) :
    ∃ fields, payload = .obj fields := by
  cases payload with
  | obj fields => exact ⟨fields, rfl⟩
  | _ => obtain ⟨-, hchoice | ⟨-, hvalue⟩⟩ := h <;> contradiction

/-- An object that has an answer is true. -/
theorem Json.Answers.truthy_payload {payload answer : Json} (h : payload.Answers answer) :
    payload.truthy = true := by
  obtain ⟨fields, rfl⟩ := h.exists_fields
  cases fields with
  | nil => obtain ⟨-, hchoice | ⟨-, hvalue⟩⟩ := h <;> contradiction
  | cons field fields => rfl

/-- What is read of an object: its answer, if it has one. -/
theorem extractAnswer_obj (interruptId : String) (fields : List (String × Json)) :
    (∃ answer, (Json.obj fields).Answers answer ∧
        extractAnswer [⟨interruptId, .obj fields⟩] = .ok (interruptId, answer)) ∨
      (∀ answer, ¬ (Json.obj fields).Answers answer) ∧
        extractAnswer [⟨interruptId, .obj fields⟩] =
          .error (.httpError 400 "resume payload missing an answer") := by
  have hpayload :
      (if (Json.obj fields).truthy then Json.obj fields else .obj []) = .obj fields := by
    cases fields with
    | nil => rfl
    | cons field fields => rfl
  have hget : ∀ key, payloadGet (.obj fields) key =
      .ok (((Json.obj fields).field key).getD .null) := fun _ => rfl
  have hread : extractAnswer [⟨interruptId, .obj fields⟩] =
      let choice := ((Json.obj fields).field "selected_choice").getD .null
      let answer := if choice.truthy then choice else ((Json.obj fields).field "value").getD .null
      if answer.truthy then .ok (interruptId, answer)
      else .error (.httpError 400 "resume payload missing an answer") := by
    unfold extractAnswer
    simp only [hpayload, hget, bind, Except.bind]
    by_cases hchoice : (((Json.obj fields).field "selected_choice").getD .null).truthy = true
    · simp only [hchoice, if_true]
    · simp only [hchoice, if_false, Bool.false_eq_true]
  have hgetD : ∀ key, (((Json.obj fields).field key).getD .null).truthy = true →
      (Json.obj fields).field key = some (((Json.obj fields).field key).getD .null) := by
    intro key htrue
    cases hfield : (Json.obj fields).field key with
    | none =>
        rw [hfield] at htrue
        cases htrue
    | some v => rfl
  rw [hread]
  dsimp only
  by_cases hchoice : (((Json.obj fields).field "selected_choice").getD .null).truthy = true
  · refine .inl ⟨_, ⟨hchoice, .inl (hgetD _ hchoice)⟩, ?_⟩
    simp only [hchoice, if_true]
  · have hfalse : ∀ choice, (Json.obj fields).field "selected_choice" = some choice →
        choice.truthy = false := by
      intro choice hsome
      rw [hsome] at hchoice
      exact Bool.eq_false_iff.2 hchoice
    simp only [hchoice, if_false, Bool.false_eq_true]
    by_cases hvalue : (((Json.obj fields).field "value").getD .null).truthy = true
    · refine .inl ⟨_, ⟨hvalue, .inr ⟨hfalse, hgetD _ hvalue⟩⟩, ?_⟩
      simp only [hvalue, if_true]
    · refine .inr ⟨?_, by simp only [hvalue, if_false, Bool.false_eq_true]⟩
      rintro answer ⟨htrue, hsome | ⟨-, hsome⟩⟩
      · rw [hfalse answer hsome] at htrue
        cases htrue
      · rw [hsome] at hvalue
        exact hvalue htrue

/-- **What is read of an entry**: the answer of its payload, or that there is none.  A payload that
is true and no object makes the endpoint fail. -/
theorem extractAnswer_cases (entry : ResumeEntry) :
    (∃ answer, entry.payload.Answers answer ∧
        extractAnswer [entry] = .ok (entry.interruptId, answer)) ∨
      (entry.payload.truthy = true → ∃ fields, entry.payload = .obj fields) ∧
        (∀ answer, ¬ entry.payload.Answers answer) ∧
        extractAnswer [entry] = .error (.httpError 400 "resume payload missing an answer") ∨
      entry.payload.truthy = true ∧ (¬ ∃ fields, entry.payload = .obj fields) ∧
        extractAnswer [entry] = .error (.escapes (.attributeError "get")) := by
  obtain ⟨interruptId, payload⟩ := entry
  by_cases hobject : ∃ fields, payload = .obj fields
  · obtain ⟨fields, rfl⟩ := hobject
    rcases extractAnswer_obj interruptId fields with h | ⟨hnone, herror⟩
    · exact .inl h
    · exact .inr (.inl ⟨fun _ => ⟨fields, rfl⟩, hnone, herror⟩)
  · have hnone : ∀ answer, ¬ payload.Answers answer := fun _ h => hobject h.exists_fields
    by_cases htrue : payload.truthy = true
    · refine .inr (.inr ⟨htrue, hobject, ?_⟩)
      have hget : ∀ key, payloadGet payload key = .error (.escapes (.attributeError "get")) := by
        intro key
        cases payload with
        | obj fields => exact absurd ⟨fields, rfl⟩ hobject
        | _ => rfl
      unfold extractAnswer
      simp only [htrue, if_true, hget]
      rfl
    · refine .inr (.inl ⟨fun h => absurd h htrue, hnone, ?_⟩)
      unfold extractAnswer
      simp only [htrue]
      rfl

/-! ### What is done with a resume -/

section

variable {texts : PythonTexts} {env : HarnessEnv} {validate : Json → Option RunAgentInput}
  {actor : ActorSession} {body : RequestBody} {input : RunAgentInput} {s : HarnessState}

/-- A resume with any other number of entries than one is a bad request. -/
theorem harnessRequest_of_many (h : input.resume ≠ []) (hmany : ∀ entry, input.resume ≠ [entry]) :
    harnessRequest input = .error (.httpError 400 "exactly one resume entry expected") := by
  unfold harnessRequest
  match hresume : input.resume with
  | [] => exact absurd hresume h
  | [entry] => exact absurd hresume (hmany entry)
  | entry :: entry' :: entries => rfl

theorem harnessRequest_of_one {entry : ResumeEntry} (h : input.resume = [entry]) :
    harnessRequest input =
      (extractAnswer [entry]).map fun p => .resume p.1 p.2 := by
  unfold harnessRequest
  rw [h]
  cases hanswer : extractAnswer [entry] with
  | ok answer => simp only [hanswer]; rfl
  | error fault => simp only [hanswer]; rfl

/-- A run without entries passes on no answer. -/
theorem harnessRequest_of_none {interruptId : String} {answer : Json} (h : input.resume = []) :
    harnessRequest input ≠ .ok (.resume interruptId answer) := by
  unfold harnessRequest
  rw [h]
  intro hok
  simp only [bind_eq_ok_iff] at hok
  obtain ⟨text, -, scopeHint, -, hpure⟩ := hok
  cases hpure

theorem run_serveInput_of_error {fault : RunsFault} (h : harnessRequest input = .error fault) :
    (serveInput texts env actor input).run s = (.raised fault, s) := by
  unfold serveInput
  rw [h]
  rfl

/-- **A text that is passed on resumes its clarification, or is refused and changes nothing.** -/
theorem run_serveInput_of_resume {interruptId text : String}
    (h : harnessRequest input = .ok (.resume interruptId (.str text))) :
    (∃ pending, ResumeValid s actor input.threadId interruptId text pending) ∨
      ∃ detail, (serveInput texts env actor input).run s =
        (.raised (.httpError 400 detail), s) := by
  by_cases hvalid : ∃ pending, ResumeValid s actor input.threadId interruptId text pending
  · exact .inl hvalid
  · obtain ⟨error, hraised⟩ := run_resume_of_not_valid env (not_exists.1 hvalid)
    refine .inr ⟨error.message texts.repr, ?_⟩
    unfold serveInput
    rw [h]
    dsimp only
    rw [Coroutine.run_mapError]
    unfold serve answerText
    rw [hraised]
    rfl

/-- **What becomes of a resume**: the answer of its only entry is passed on, or it is a bad request,
or its payload is no object and the endpoint fails. -/
theorem harnessRequest_cases (h : input.resume ≠ []) :
    (∃ entry answer, input.resume = [entry] ∧ entry.payload.Answers answer ∧
        harnessRequest input = .ok (.resume entry.interruptId answer)) ∨
      (∃ detail, harnessRequest input = .error (.httpError 400 detail) ∧
        ∀ entry, input.resume = [entry] → ReadablePayload entry.payload) ∨
      ∃ entry, input.resume = [entry] ∧ ¬ ReadablePayload entry.payload ∧
        harnessRequest input = .error (.escapes (.attributeError "get")) := by
  by_cases hone : ∃ entry, input.resume = [entry]
  · obtain ⟨entry, hentry⟩ := hone
    have hrequest := harnessRequest_of_one hentry
    rcases extractAnswer_cases entry with ⟨answer, hanswer, hok⟩ | ⟨hobject, hnone, herror⟩ |
      ⟨htrue, hno, hfails⟩
    · rw [hok] at hrequest
      exact .inl ⟨entry, answer, hentry, hanswer, hrequest⟩
    · rw [herror] at hrequest
      refine .inr (.inl ⟨_, hrequest, fun entry' hentry' htrue => ?_⟩)
      rw [hentry] at hentry'
      cases hentry'
      exact ⟨hobject htrue, fun answer hanswer => absurd hanswer (hnone answer)⟩
    · rw [hfails] at hrequest
      exact .inr (.inr ⟨entry, hentry, fun hreadable => hno (hreadable htrue).1, hrequest⟩)
  · refine .inr (.inl ⟨_, harnessRequest_of_many h (not_exists.1 hone), fun entry hentry => ?_⟩)
    exact absurd ⟨entry, hentry⟩ hone

/-- A payload with this answer is readable exactly if the answer is a text, which is not empty. -/
theorem Json.Answers.readable_iff {payload answer : Json} (h : payload.Answers answer) :
    ReadablePayload payload ↔ ∃ text, answer = .str text ∧ text ≠ "" := by
  constructor
  · intro hreadable
    obtain ⟨text, rfl⟩ := (hreadable h.truthy_payload).2 answer h
    refine ⟨text, rfl, ?_⟩
    rintro rfl
    exact absurd h.1 (by decide)
  · rintro ⟨text, rfl, -⟩ -
    exact ⟨h.exists_fields, fun answer' h' => ⟨text, h.unique h'⟩⟩

/-! ### Reading a body -/

theorem runs_of_read (h : readRunInput validate body = .ok input) :
    runs texts env validate actor body = serveInput texts env actor input := by
  unfold runs
  rw [h]

theorem run_runs_of_error {fault : RunsFault} (h : readRunInput validate body = .error fault) :
    (runs texts env validate actor body).run s = (.raised fault, s) := by
  unfold runs
  rw [h]
  rfl

/-- **The endpoint runs its call of the harness**, and answers what that raises. -/
theorem runs_eq_call :
    runs texts env validate actor body =
      match runsCall texts validate actor body with
      | .error fault => .raise fault
      | .ok call => (callCoroutine env call).mapError (answerRunsFault texts) := by
  unfold runs runsCall
  cases readRunInput validate body with
  | error fault => rfl
  | ok input =>
      unfold serveInput
      simp only [bind, Except.bind]
      cases harnessRequest input with
      | error fault => rfl
      | ok request => cases request <;> rfl

/-- A body is read as this input exactly if it is JSON that is valid. -/
theorem readRunInput_eq_ok_iff :
    readRunInput validate body = .ok input ↔
      ∃ value, body = .ok value ∧ validate value = some input := by
  unfold readRunInput
  match body with
  | .error .jsonDecodeError => simp
  | .error (.raised error) => simp
  | .ok value => cases hvalid : validate value <;> simp [hvalid]

/-- **A body that is not read is a bad request**, unless reading it raises something else. -/
theorem readRunInput_error_cases {fault : RunsFault}
    (h : readRunInput validate body = .error fault) :
    body.Decodes ∧ (∃ detail, fault = .httpError 400 detail) ∨
      ¬ body.Decodes ∧ ∃ error, fault = .escapes (.external error) := by
  match body with
  | .error .jsonDecodeError =>
      cases h
      exact .inl ⟨fun _ h => (nomatch h), _, rfl⟩
  | .error (.raised error) =>
      cases h
      exact .inr ⟨fun hdecodes => hdecodes error rfl, _, rfl⟩
  | .ok value =>
      refine .inl ⟨RequestBody.Decodes.ok value, ?_⟩
      unfold readRunInput at h
      dsimp only at h
      split at h
      · cases h
      · cases h
        exact ⟨_, rfl⟩

/-- A body that is not read passes on no answer, and is refused cleanly if it is a bad request. -/
theorem refusesCleanly_of_error {fault : RunsFault} (h : readRunInput validate body = .error fault) :
    RefusesCleanly texts env validate actor body s ↔ body.Decodes := by
  have hrun : (runs texts env validate actor body).run s = (.raised fault, s) := run_runs_of_error h
  rcases readRunInput_error_cases h with ⟨hdecodes, detail, rfl⟩ | ⟨hdecodes, error, rfl⟩
  · refine iff_of_true ⟨fun input interruptId answer hread => ?_, fun _ => .inr ⟨detail, hrun⟩⟩
      hdecodes
    rw [h] at hread
    cases hread
  · have hnone : ∀ input, readRunInput validate body ≠ .ok input := by
      intro input hread
      rw [h] at hread
      cases hread
    refine iff_of_false (fun hclean => ?_) hdecodes
    rcases hclean.settles fun input hread => absurd hread (hnone input) with
      ⟨input, -, -, -, hread, -⟩ | ⟨detail, hraised⟩
    · exact hnone input hread
    · rw [hrun] at hraised
      cases hraised

/-- An input that was read is refused cleanly, or passed on as it should be, exactly if the payload
of its only entry is readable. -/
theorem refusesCleanly_of_read (hread : readRunInput validate body = .ok input) :
    RefusesCleanly texts env validate actor body s ↔
      ∀ entry, input.resume = [entry] → ReadablePayload entry.payload := by
  have hsame : ∀ input', readRunInput validate body = .ok input' → input' = input := fun input' h =>
    Except.ok.inj (h.symm.trans hread)
  have hrun : (runs texts env validate actor body).run s = (serveInput texts env actor input).run s :=
    congrArg (Coroutine.run · s) (runs_of_read hread)
  by_cases hresume : input.resume = []
  · refine iff_of_true ⟨?_, fun h => absurd hresume (h input hread)⟩ fun entry hentry => ?_
    · intro input' interruptId answer hread' hpassed
      obtain rfl := hsame input' hread'
      exact absurd hpassed (harnessRequest_of_none hresume)
    · rw [hresume] at hentry
      cases hentry
  have hisResume : ∀ input', readRunInput validate body = .ok input' → input'.resume ≠ [] :=
    fun input' h => hsame input' h ▸ hresume
  rcases harnessRequest_cases hresume with ⟨entry, answer, hentry, hanswer, hpassed⟩ |
    ⟨detail, hrefused, hreadable⟩ | ⟨entry, hentry, hunreadable, hfails⟩
  · have hiff : (∀ entry, input.resume = [entry] → ReadablePayload entry.payload) ↔
        ∃ text, answer = .str text ∧ text ≠ "" := by
      rw [← hanswer.readable_iff]
      constructor
      · exact fun h => h entry hentry
      · intro h entry' hentry'
        rw [hentry] at hentry'
        cases hentry'
        exact h
    rw [hiff]
    constructor
    · exact fun h => h.passesText _ _ _ hread hpassed
    · rintro ⟨text, rfl, hne⟩
      refine ⟨fun input' interruptId answer' hread' hpassed' => ?_, fun _ => ?_⟩
      · obtain rfl := hsame input' hread'
        rw [hpassed] at hpassed'
        cases hpassed'
        exact ⟨text, rfl, hne⟩
      · rcases run_serveInput_of_resume hpassed with ⟨pending, hvalid⟩ | ⟨detail, hraised⟩
        · exact .inl ⟨_, _, text, pending, hread, hpassed, hvalid⟩
        · exact .inr ⟨detail, hrun.trans hraised⟩
  · refine iff_of_true ⟨fun input' interruptId answer hread' hpassed => ?_, fun _ => ?_⟩ hreadable
    · obtain rfl := hsame input' hread'
      rw [hrefused] at hpassed
      cases hpassed
    · exact .inr ⟨detail, hrun.trans (run_serveInput_of_error hrefused)⟩
  · refine iff_of_false (fun h => ?_) fun h => hunreadable (h entry hentry)
    -- the failure is neither passed on nor answered with a client error
    rcases h.settles hisResume with ⟨input', interruptId, text, pending, hread', hpassed, -⟩ |
      ⟨detail, hraised⟩
    · obtain rfl := hsame input' hread'
      rw [hfails] at hpassed
      cases hpassed
    · rw [hrun, run_serveInput_of_error hfails] at hraised
      cases hraised

/-- **A resume is refused cleanly, or passed on as it should be, exactly if its body is read, or is
no JSON, and the payload of its only entry is readable.** -/
theorem refusesCleanly_iff :
    RefusesCleanly texts env validate actor body s ↔
      body.Decodes ∧ ∀ value input entry, body = .ok value → validate value = some input →
        input.resume = [entry] → ReadablePayload entry.payload := by
  cases hread : readRunInput validate body with
  | error fault =>
      rw [refusesCleanly_of_error hread]
      refine (and_iff_left fun value input entry hvalue hvalid => ?_).symm
      have hok := readRunInput_eq_ok_iff.2 ⟨value, hvalue, hvalid⟩
      rw [hread] at hok
      cases hok
  | ok input =>
      obtain ⟨value, rfl, hvalid⟩ := readRunInput_eq_ok_iff.1 hread
      rw [refusesCleanly_of_read hread, and_iff_right (RequestBody.Decodes.ok value)]
      constructor
      · rintro h value' input' entry ⟨⟩ hvalid' hentry
        rw [hvalid] at hvalid'
        cases hvalid'
        exact h entry hentry
      · exact fun h entry hentry => h value input entry rfl hvalid hentry

end

/-! ### A validator of a kind -/

/-- A list under a key that has to be there. -/
def listAt (value : Json) (key : String) : Option (List Json) :=
  match value.field key with
  | some (.arr items) => some items
  | _ => none

/-- A message has an id, and its content is read if it is a text. -/
def readMessage (message : Json) : Option (Option String) :=
  ((message.field "id").bind Json.asString).map fun _ =>
    (message.field "content").bind Json.asString

/-- An entry that resumes has an interrupt and one of two statuses. -/
def readResumeEntry (entry : Json) : Option ResumeEntry :=
  match (entry.field "interruptId").bind Json.asString,
    (entry.field "status").bind Json.asString with
  | some interruptId, some status =>
      if status = "resolved" ∨ status = "cancelled" then
        some ⟨interruptId, (entry.field "payload").getD .null⟩
      else none
  | _, _ => none

/-- The entries that resume, if there are any. -/
def readResume (value : Json) : Option (List ResumeEntry) :=
  match value.field "resume" with
  | none | some .null => some []
  | some (.arr entries) => entries.mapM readResumeEntry
  | some _ => none

/-- A validator of inputs with everything the protocol asks for. -/
def sampleValidate (value : Json) : Option RunAgentInput := do
  let threadId ← (value.field "threadId").bind Json.asString
  let runId ← (value.field "runId").bind Json.asString
  let _ ← value.field "state"
  let messages ← (listAt value "messages").bind fun messages => messages.mapM readMessage
  let _ ← listAt value "tools"
  let _ ← listAt value "context"
  let forwardedProps ← value.field "forwardedProps"
  let resume ← readResume value
  pure ⟨threadId, runId, messages, resume, forwardedProps⟩

/-! ### Payloads that are not readable -/

/-- The body of a resume of the first question of a thread with this payload. -/
def resumeBody (payload : Json) : Json :=
  .obj [("threadId", .str "thread"), ("runId", .str "run"), ("state", .obj []),
    ("messages", .arr []), ("tools", .arr []), ("context", .arr []), ("forwardedProps", .obj []),
    ("resume", .arr [.obj [("interruptId", .str "0"), ("status", .str "resolved"),
      ("payload", payload)]])]

/-- What is read of it. -/
def resumeWith (payload : Json) : RunAgentInput :=
  ⟨"thread", "run", [], [⟨"0", payload⟩], .obj []⟩

theorem readRunInput_resumeBody (payload : Json) :
    readRunInput sampleValidate (.ok (resumeBody payload)) = .ok (resumeWith payload) := rfl

/-- A harness in which this question waits for Alice. -/
def askedHarness : HarnessState where
  pending := .ofPairs [("thread", ⟨"0", "alice", none, .intake ⟨"set this up", 0⟩⟩)]
  now := 0
  minted := 1

/-- Texts of a kind. -/
def plainTexts : PythonTexts := ⟨id, fun _ => "7", fun _ _ => "", fun _ => false⟩

/-- **Not every resume is refused cleanly**: a payload that is a list makes the endpoint fail with
an attribute error, and an answer that is a number takes the clarification out of the table. -/
theorem malformed_resumes_not_refused :
    (runs plainTexts countingEnv sampleValidate (hourSession "alice")
        (.ok (resumeBody (.arr [.str "provision"])))).run askedHarness =
      (.raised (.escapes (.attributeError "get")), askedHarness) ∧
      ¬ RefusesCleanly plainTexts countingEnv sampleValidate (hourSession "alice")
        (.ok (resumeBody (.arr [.str "provision"]))) askedHarness ∧
      ((runs plainTexts countingEnv sampleValidate (hourSession "alice")
        (.ok (resumeBody (.obj [("value", .number (.ofNat 7))])))).run askedHarness).2.pending =
          .empty ∧
      ¬ RefusesCleanly plainTexts countingEnv sampleValidate (hourSession "alice")
        (.ok (resumeBody (.obj [("value", .number (.ofNat 7))]))) askedHarness := by
  have hfails : harnessRequest (resumeWith (.arr [.str "provision"])) =
      .error (.escapes (.attributeError "get")) := rfl
  have hraised : (runs plainTexts countingEnv sampleValidate (hourSession "alice")
      (.ok (resumeBody (.arr [.str "provision"])))).run askedHarness =
        (.raised (.escapes (.attributeError "get")), askedHarness) :=
    (congrArg (Coroutine.run · askedHarness) (runs_of_read (readRunInput_resumeBody _))).trans
      (run_serveInput_of_error hfails)
  have hnumber : harnessRequest (resumeWith (.obj [("value", .number (.ofNat 7))])) =
      .ok (.resume "0" (.number (.ofNat 7))) := by
    rw [harnessRequest_of_one rfl]
    rfl
  have hread : ∀ {payload input}, readRunInput sampleValidate (.ok (resumeBody payload)) =
      .ok input → input = resumeWith payload := fun h =>
    (Except.ok.inj (h.symm.trans (readRunInput_resumeBody _)))
  refine ⟨hraised, fun h => ?_, by decide, fun h => ?_⟩
  · rcases h.settles fun input hinput => by simp [hread hinput, resumeWith] with
      ⟨input, interruptId, text, pending, hinput, hpassed, -⟩ | ⟨detail, hclean⟩
    · obtain rfl := hread hinput
      rw [hfails] at hpassed
      cases hpassed
    · rw [hraised] at hclean
      cases hclean
  · obtain ⟨text, htext, -⟩ := h.passesText _ _ _ (readRunInput_resumeBody _) hnumber
    cases htext

end PlatformOps
