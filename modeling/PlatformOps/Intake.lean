/-
**The intake workflow.**

A request is classified, by an exact prefix or by one call of the model, and the intent is routed.
Where the model names no intent the workflow ends with a question: the graph keeps nothing between
two rounds, and the caller asks again with the answer appended to the text.

Main definitions:

* `Model`, `AIMessage`, `ToolCall`, `Fault` — what the workflows know of a model, and what they may
  raise;
* `matchTier2Prefix`, `classifyWorkflow`, `resolveRoute`, `intakeRequest` — the workflow.

Main results:

* `classifyWorkflow_cases` — **the classifier names an intent or asks one question**;
* `intakeRequest_cases` — so does the workflow, and it routes exactly the intents with a route.
-/

import PlatformOps.Json

set_option relaxedAutoImplicit false
set_option autoImplicit false

namespace PlatformOps

/-! ### Fallible values -/

theorem bind_eq_ok_iff {ε α β : Type} {x : Except ε α} {f : α → Except ε β} {b : β} :
    x >>= f = .ok b ↔ ∃ a, x = .ok a ∧ f a = .ok b := by
  cases x with
  | error e => simp [Bind.bind, Except.bind]
  | ok a => simp [Bind.bind, Except.bind]

theorem map_eq_ok_iff {ε α β : Type} {x : Except ε α} {f : α → β} {b : β} :
    f <$> x = .ok b ↔ ∃ a, x = .ok a ∧ f a = b := by
  cases x with
  | error e => simp [Functor.map, Except.map]
  | ok a => simp [Functor.map, Except.map]

theorem map_isOk_iff {ε α β : Type} {x : Except ε α} {f : α → β} :
    (∃ b, f <$> x = .ok b) ↔ ∃ a, x = .ok a := by
  constructor
  · rintro ⟨b, h⟩
    obtain ⟨a, ha, -⟩ := map_eq_ok_iff.1 h
    exact ⟨a, ha⟩
  · rintro ⟨a, rfl⟩
    exact ⟨f a, rfl⟩

/-! ### Requests and decisions -/

/-- What a request can be about. -/
inductive Intent
  | provision
  | inquiry
  | complianceCheck
  deriving DecidableEq

/-- The text of an intent. -/
def Intent.value : Intent → String
  | .provision => "provision"
  | .inquiry => "inquiry"
  | .complianceCheck => "compliance_check"

/-- Every intent. -/
def Intent.all : List Intent := [.provision, .inquiry, .complianceCheck]

/-- A question to the user. -/
structure ClarificationQuestion where
  field : String
  question : String
  choices : List String
  deriving DecidableEq

/-- A request for classification, and how many answers its text contains. -/
structure IntakeRequest where
  rawText : String
  clarificationRound : ℕ
  deriving DecidableEq

/-- What the intake decided. -/
structure IntakeDecision where
  intent : Option Intent
  clarificationQuestions : List ClarificationQuestion
  route : Option String
  readyToRoute : Bool
  mutationRequested : Bool
  approvalRequired : Bool
  unsupportedReason : Option String
  evidence : List String
  deriving DecidableEq

/-- The decision with the defaults of every field. -/
def IntakeDecision.blank : IntakeDecision where
  intent := none
  clarificationQuestions := []
  route := none
  readyToRoute := false
  mutationRequested := false
  approvalRequired := false
  unsupportedReason := none
  evidence := []

/-! ### Models -/

/-- The errors the harness raises itself. -/
inductive HarnessError
  | sessionExpired (sessionId : String)
  | noPending (requestId : String)
  | interruptMismatch (interruptId requestId : String)
  | actorMismatch
  | emptyAnswer
  | roundCapReached
  deriving DecidableEq

/-- What a call may raise: an error of the harness, a value that fails validation at a field, a
value without an attribute, or whatever the model or the workflow engine raised. -/
inductive Fault
  | valueError (error : HarnessError)
  | validationError (model field : String)
  | attributeError (name : String)
  | external (error : String)
  deriving DecidableEq

/-- A tool call, as the dictionary the model returned. -/
abbrev ToolCall := Dict String Json

/-- A response of the model. -/
structure AIMessage where
  toolCalls : List ToolCall

/-- A model answers a list of messages, each a role and a text, or raises. -/
abbrev Model := List (String × String) → Except Fault AIMessage

/-- `call.get("args", {})`. -/
def ToolCall.args (call : ToolCall) : Json := (call.get? "args").getD (.obj [])

/-- The name a tool call gives is this one. -/
def ToolCall.named (call : ToolCall) (name : String) : Bool :=
  (call.get? "name").bind Json.asString = some name

/-- The text of a question: the one the model gave where it gave one, otherwise the default.  A
question that is not a string fails validation. -/
def questionText (given : Option Json) (default : String) : Except Fault String :=
  match given with
  | none => .ok default
  | some v =>
      if v.truthy then
        match v with
        | .str s => .ok s
        | _ => .error (.validationError "ClarificationQuestion" "question")
      else .ok default

/-! ### Classification -/

/-- The candidates, as the model is told them. -/
def candidates : List String := Intent.all.map Intent.value

/-- Exact prefixes, in order: an intent's text, a colon and a blank. -/
def tier2Prefixes : List (String × Intent) := Intent.all.map fun i => (i.value ++ ": ", i)

/-- The intent whose prefix the text has. -/
def matchTier2Prefix (rawText : String) : Option Intent :=
  (tier2Prefixes.find? fun p => p.1.toList.isPrefixOf rawText.toList).map Prod.snd

/-- The question asked where the model gave none. -/
def defaultIntentQuestion : String :=
  "Could not determine which workflow handles this -- please clarify."

/-- The question about the intent. -/
def clarification (question : String) : ClarificationQuestion :=
  ⟨"intent", question, candidates⟩

/-- A decision that asks one question. -/
def askedDecision (question : String) : IntakeDecision :=
  { IntakeDecision.blank with clarificationQuestions := [clarification question] }

/-- A decision that names an intent, before it is routed. -/
def namedDecision (intent : Intent) : IntakeDecision :=
  { IntakeDecision.blank with intent := some intent }

/-- The prompt of the classifier. -/
def classifierPrompt (rawText : String) : List (String × String) :=
  [("system",
    "Classify the user's request into exactly one of these intents: " ++
      "('provision', 'inquiry', 'compliance_check'). Call select_intent exactly once, with " ++
      "intent set to one of those exact values if you're confident, or clarifying_question set " ++
      "instead if none fit -- never guess an intent outside that list."),
    ("user", rawText)]

/-- The intent with this text. -/
def Intent.ofValue (text : String) : Option Intent := Intent.all.find? fun i => i.value = text

/-- Read the first tool call of the classifier. -/
def readIntentCall (call : ToolCall) : Except Fault IntakeDecision :=
  match call.args.asObject with
  | none => .error (.attributeError "get")
  | some args =>
      match (args.get? "intent").bind fun v => v.asString.bind Intent.ofValue with
      | some intent => .ok (namedDecision intent)
      | none =>
          askedDecision <$> questionText (args.get? "clarifying_question") defaultIntentQuestion

/-- Read the classifier's response: without a tool call the question is the default one. -/
def readIntentResponse (response : AIMessage) : Except Fault IntakeDecision :=
  match response.toolCalls with
  | [] => .ok (askedDecision defaultIntentQuestion)
  | call :: _ => readIntentCall call

/-- Classify a request: by its prefix, or by one call of the model. -/
def classifyWorkflow (request : IntakeRequest) (model : Model) : Except Fault IntakeDecision :=
  match matchTier2Prefix request.rawText with
  | some intent => .ok (namedDecision intent)
  | none => model (classifierPrompt request.rawText) >>= readIntentResponse

/-! ### Routing -/

/-- The route of an intent, where it has one. -/
def resolveRouteId : Intent → Option String
  | .complianceCheck => some "compliance_check"
  | .provision => some "provision"
  | .inquiry => none

/-- Decide the route of a classified request; a decision without an intent is passed on. -/
def resolveRoute (decision : IntakeDecision) : IntakeDecision :=
  match decision.intent with
  | none => decision
  | some intent =>
      match resolveRouteId intent with
      | some route =>
          { decision with
            route := some route
            readyToRoute := true
            mutationRequested := intent = .provision
            approvalRequired := false
            evidence := decision.evidence ++
              ["resolved route='" ++ route ++ "' for intent='" ++ intent.value ++ "'"] }
      | none =>
          { decision with
            route := none
            readyToRoute := false
            mutationRequested := intent = .provision
            unsupportedReason :=
              some ("no workflow implemented for intent '" ++ intent.value ++ "' yet")
            evidence := decision.evidence ++
              ["no route available for intent='" ++ intent.value ++ "'"] }

/-- The intake workflow: classify, then route. -/
def intakeRequest (request : IntakeRequest) (model : Model) : Except Fault IntakeDecision :=
  resolveRoute <$> classifyWorkflow request model

/-! ### What the workflow can decide -/

/-- A decision of the classifier: an intent, or one question. -/
def NamesOrAsks (decision : IntakeDecision) : Prop :=
  (∃ intent, decision = namedDecision intent) ∨ ∃ question, decision = askedDecision question

theorem readIntentCall_cases {call : ToolCall} {decision : IntakeDecision}
    (h : readIntentCall call = .ok decision) : NamesOrAsks decision := by
  unfold readIntentCall at h
  split at h
  · cases h
  · split at h
    · rename_i intent _
      cases h
      exact Or.inl ⟨intent, rfl⟩
    · obtain ⟨question, -, rfl⟩ := map_eq_ok_iff.1 h
      exact Or.inr ⟨question, rfl⟩

/-- **The classifier names an intent or asks one question.** -/
theorem classifyWorkflow_cases {request : IntakeRequest} {model : Model}
    {decision : IntakeDecision} (h : classifyWorkflow request model = .ok decision) :
    NamesOrAsks decision := by
  unfold classifyWorkflow at h
  split at h
  · rename_i intent _
    cases h
    exact Or.inl ⟨intent, rfl⟩
  · obtain ⟨response, -, hread⟩ := bind_eq_ok_iff.1 h
    unfold readIntentResponse at hread
    split at hread
    · cases hread
      exact Or.inr ⟨defaultIntentQuestion, rfl⟩
    · exact readIntentCall_cases hread

@[simp] theorem resolveRoute_askedDecision (question : String) :
    resolveRoute (askedDecision question) = askedDecision question := rfl

@[simp] theorem clarificationQuestions_resolveRoute (decision : IntakeDecision) :
    (resolveRoute decision).clarificationQuestions = decision.clarificationQuestions := by
  unfold resolveRoute
  split
  · rfl
  · split <;> rfl

/-- **The workflow asks one question, or routes an intent.** -/
theorem intakeRequest_cases {request : IntakeRequest} {model : Model} {decision : IntakeDecision}
    (h : intakeRequest request model = .ok decision) :
    (∃ question, decision = askedDecision question) ∨
      ∃ intent, decision = resolveRoute (namedDecision intent) := by
  obtain ⟨classified, hc, rfl⟩ := map_eq_ok_iff.1 h
  rcases classifyWorkflow_cases hc with ⟨intent, rfl⟩ | ⟨question, rfl⟩
  · exact Or.inr ⟨intent, rfl⟩
  · exact Or.inl ⟨question, resolveRoute_askedDecision question⟩

end PlatformOps
