/-
**Events that ask a human.**

An event asks for a clarification, with the decision of the intake, or for an approval, with the
request that is to be approved.  The browser learns of an event in two ways: as an interrupt in the
frame that ends the run, with the schema of the payloads that may answer it, and as a card.  Only a
clarification has buttons on its card, one for each choice of its first question.

The events of the harness are the clarifications among these.

Main definitions:

* `Interaction.ApprovalRequest`, `Interaction.HITLEvent` — requests for approval, and events;
* `Interaction.responseSchemaFor`, `Interaction.hitlEventToInterrupt`,
  `Interaction.hitlEventToRunFinished` — the schema of the answers, the interrupt, and the frame;
* `Interaction.hitlEventToA2uiMessages` — the messages that show an event;
* `Interaction.HITLEvent.ofHarness` — an event of the harness.

Main results:

* `Interaction.conforms_answerSchema_iff`, `Interaction.conforms_approvalSchema_iff` — which
  payloads the advertised schemas admit;
* `Interaction.hitlEventToA2uiMessages_ofHarness` — **an event of the harness is shown as it is
  here**.
-/

import PlatformOps.EffectiveAccess
import PlatformOps.JsonSchema
import PlatformOps.QuestionRendering

set_option relaxedAutoImplicit false
set_option autoImplicit false

namespace PlatformOps.Interaction

/-! ### Events -/

/-- How points in time are written: by `isoformat`, and in a model that is dumped. -/
structure DatetimeTexts where
  isoformat : ℕ → String
  json : ℕ → String

/-- The verdicts on record. -/
inductive ApprovalVerdict
  | approve
  | reject
  | cancel
  deriving DecidableEq

/-- The text of a verdict on record. -/
def ApprovalVerdict.value : ApprovalVerdict → String
  | .approve => "approve"
  | .reject => "reject"
  | .cancel => "cancel"

/-- An approval on record. -/
structure ApprovalRecord where
  requestId : String
  approverId : String
  verdict : ApprovalVerdict
  timestamp : ℕ
  planDigest : String
  approvalDigest : String
  scope : Scope
  capabilityRequired : Capability

/-- A request for approval. -/
structure ApprovalRequest where
  requestId : String
  scope : Scope
  intent : String
  capabilityRequired : Capability
  planDigest : String
  approvalDigest : String
  vibeDiff : String
  requester : ActorRef
  approvalsSoFar : List ApprovalRecord
  requiredApprovals : ℕ
  approvalExpiresAt : Option ℕ
  required_pos : 1 ≤ requiredApprovals

/-- What an event carries. -/
inductive HITLPayload
  | decision (decision : IntakeDecision)
  | approval (request : ApprovalRequest)

/-- `kind_payload_and_resume_mode_agree`. -/
def Agrees : HITLEventKind → HITLPayload → ResumeMode → Prop
  | .clarificationRequired, .decision _, .reinvoke => True
  | .approvalRequired, .approval _, .checkpointResume => True
  | _, _, _ => False

/-- An event that asks a human. -/
structure HITLEvent where
  eventId : String
  requestId : String
  kind : HITLEventKind
  status : HITLStatus
  actor : Option ActorRef
  payload : HITLPayload
  resumeMode : ResumeMode
  createdAt : ℕ
  expiresAt : Option ℕ
  agrees : Agrees kind payload resumeMode

/-- A request for approval carries what is to be approved. -/
theorem HITLEvent.payload_of_approval {event : HITLEvent} (h : event.kind = .approvalRequired) :
    ∃ request, event.payload = .approval request := by
  obtain ⟨_, _, kind, _, _, payload, mode, _, _, hagrees⟩ := event
  subst h
  cases payload with
  | decision decision => cases mode <;> cases hagrees
  | approval request => exact ⟨request, rfl⟩

/-- Which workflow, a provision or an inquiry? -/
def workflowQuestion : HITLEvent where
  eventId := "hitl-1"
  requestId := "req-1"
  kind := .clarificationRequired
  status := .pending
  actor := none
  payload := .decision { IntakeDecision.blank with
    clarificationQuestions := [⟨"intent", "Which workflow?", ["provision", "inquiry"]⟩] }
  resumeMode := .reinvoke
  createdAt := 0
  expiresAt := none
  agrees := trivial

/-- The first question an event asks. -/
def HITLEvent.question (event : HITLEvent) : Option ClarificationQuestion :=
  match event.payload with
  | .decision decision => decision.clarificationQuestions.head?
  | .approval _ => none

/-- The choices an event offers. -/
def HITLEvent.choices (event : HITLEvent) : List String :=
  (event.question.map ClarificationQuestion.choices).getD []

/-! ### Dumped models -/

/-- An actor as JSON. -/
def actorJson (actor : ActorRef) : Json :=
  .obj [("user_id", .str actor.userId), ("email", .str actor.email)]

/-- An approval on record as JSON. -/
def ApprovalRecord.json (texts : DatetimeTexts) (record : ApprovalRecord) : Json :=
  .obj [("request_id", .str record.requestId), ("approver_id", .str record.approverId),
    ("verdict", .str record.verdict.value), ("timestamp", .str (texts.json record.timestamp)),
    ("plan_digest", .str record.planDigest), ("approval_digest", .str record.approvalDigest),
    ("scope", scopePayload record.scope),
    ("capability_required", .str record.capabilityRequired.value)]

/-- A request for approval as JSON. -/
def ApprovalRequest.json (texts : DatetimeTexts) (request : ApprovalRequest) : Json :=
  .obj [("request_id", .str request.requestId), ("scope", scopePayload request.scope),
    ("intent", .str request.intent),
    ("capability_required", .str request.capabilityRequired.value),
    ("plan_digest", .str request.planDigest), ("approval_digest", .str request.approvalDigest),
    ("vibe_diff", .str request.vibeDiff), ("requester", actorJson request.requester),
    ("approvals_so_far", .arr (request.approvalsSoFar.map (ApprovalRecord.json texts))),
    ("required_approvals", .number (.ofNat request.requiredApprovals)),
    ("approval_expires_at", jsonText (request.approvalExpiresAt.map texts.json))]

/-- The payload of an event as JSON. -/
def HITLPayload.json (texts : DatetimeTexts) : HITLPayload → Json
  | .decision payload => payload.json
  | .approval payload => payload.json texts

/-! ### Interrupts -/

/-- What interrupts a run, which may expire. -/
structure Interrupt extends PlatformOps.Interrupt where
  expiresAt : Option String

/-- An interrupt as the dictionary it is on the wire. -/
def Interrupt.json (interrupt : Interrupt) : Json :=
  .obj ([("id", .str interrupt.id), ("reason", .str interrupt.reason),
    ("message", .str interrupt.message), ("responseSchema", interrupt.responseSchema),
    ("metadata", interrupt.metadata)] ++
    (interrupt.expiresAt.map fun text => ("expiresAt", Json.str text)).toList)

/-- A part of a scope in a text. -/
def scopePart (part : Option String) : String := part.getD "None"

/-- `_message_for`: what is to be approved, or the text of the question. -/
def messageFor (event : HITLEvent) : String :=
  match event.kind, event.payload with
  | .approvalRequired, .approval request =>
      "Approval required for " ++ (request.scope.org ++ ":" ++ request.scope.bu) ++ "/" ++
        scopePart request.scope.project ++ "/" ++ scopePart request.scope.workspace ++ "."
  | .clarificationRequired, .decision decision =>
      match decision.clarificationQuestions with
      | question :: _ => question.question
      | [] => event.kind.value
  | _, _ => event.kind.value

/-- The schema of an approval. -/
def approvalSchema : Json :=
  .obj [("type", .str "object"),
    ("properties", .obj [("verdict", choiceSchema ["approve", "reject"]),
      ("approval_digest", stringSchema)]),
    ("required", .arr [.str "verdict", .str "approval_digest"]),
    ("additionalProperties", .bool false)]

/-- The schema of an answer: one of the choices, or a text. -/
def answerSchema (choices : List String) : Json :=
  .obj [("type", .str "object"),
    ("properties", .obj [("selected_choice", choiceSchema choices), ("value", stringSchema)]),
    ("additionalProperties", .bool false)]

/-- The schema of any object. -/
def openSchema : Json := .obj [("type", .str "object"), ("additionalProperties", .bool true)]

/-- `_response_schema_for`. -/
def responseSchemaFor (event : HITLEvent) : Json :=
  if event.kind = .approvalRequired then approvalSchema
  else
    match event.question with
    | some question => answerSchema question.choices
    | none => openSchema

/-- `hitl_event_to_interrupt`. -/
def hitlEventToInterrupt (texts : DatetimeTexts) (event : HITLEvent) : Interrupt where
  id := event.eventId
  reason := event.kind.value
  message := messageFor event
  responseSchema := responseSchemaFor event
  metadata := .obj [("platformops", .obj [("request_id", .str event.requestId),
    ("status", .str event.status.value), ("resume_mode", .str event.resumeMode.value),
    ("payload", event.payload.json texts)])]
  expiresAt := event.expiresAt.map texts.isoformat

/-- `hitl_event_to_run_finished`. -/
def hitlEventToRunFinished (texts : DatetimeTexts) (event : HITLEvent) (threadId runId : String) :
    Json :=
  .obj [("type", .str "RUN_FINISHED"), ("threadId", .str threadId), ("runId", .str runId),
    ("outcome", .obj [("type", .str "interrupt"),
      ("interrupts", .arr [(hitlEventToInterrupt texts event).json])])]

/-! ### Messages -/

/-- `_help_texts_for`. -/
def helpTextsFor (event : HITLEvent) : List String :=
  if event.kind ≠ .clarificationRequired then []
  else
    match event.question with
    | some question => if question.field = "application_request" then staticWebHelpTexts else []
    | none => []

/-- `_card_spec_for`: only a clarification has choices. -/
def cardSpecFor (event : HITLEvent) (interrupt : Interrupt) : Except Fault DynamicCardSpec := do
  let title := if event.kind = .clarificationRequired then "Input needed" else "Approval required"
  let fieldAndEnum :=
    if event.kind = .clarificationRequired then choiceFieldAndEnum interrupt.toInterrupt else none
  let (responseField, rawChoices) := fieldAndEnum.getD ("selected_choice", [])
  let choices ← rawChoices.mapM fun choice => dynamicChoice choice choice
  dynamicCardSpec title interrupt.message (helpTextsFor event) choices responseField

/-- `hitl_event_to_a2ui_messages`. -/
def hitlEventToA2uiMessages (texts : DatetimeTexts) (event : HITLEvent) :
    Except Fault (List Json) := do
  let spec ← cardSpecFor event (hitlEventToInterrupt texts event)
  pure [createSurface event.eventId,
    updateComponents event.eventId (compileDynamicCard spec event.eventId)]

/-! ### Events of the harness -/

/-- An event of the harness, which does not expire. -/
def HITLEvent.ofHarness (event : PlatformOps.HITLEvent) : HITLEvent where
  eventId := event.eventId
  requestId := event.requestId
  kind := event.kind
  status := event.status
  actor := some event.actor
  payload := .decision event.payload
  resumeMode := event.resumeMode
  createdAt := event.createdAt
  expiresAt := none
  agrees := by
    rw [event.agrees.1, event.agrees.2]
    trivial

variable {texts : DatetimeTexts}

theorem hitlEventToInterrupt_ofHarness (event : PlatformOps.HITLEvent) :
    (hitlEventToInterrupt texts (.ofHarness event)).toInterrupt =
      PlatformOps.hitlEventToInterrupt event := by
  have hkind := event.agrees.1
  have hmessage : messageFor (.ofHarness event) = PlatformOps.messageFor event := by
    unfold messageFor PlatformOps.messageFor PlatformOps.HITLEvent.question
    simp only [HITLEvent.ofHarness, hkind]
    cases event.payload.clarificationQuestions <;> rfl
  have hschema : responseSchemaFor (.ofHarness event) = PlatformOps.responseSchemaFor event := by
    unfold responseSchemaFor PlatformOps.responseSchemaFor
    rw [if_neg (by simp [HITLEvent.ofHarness, hkind])]
    rfl
  have hpayload : (HITLEvent.ofHarness event).payload.json texts = event.payload.json := rfl
  unfold hitlEventToInterrupt PlatformOps.hitlEventToInterrupt
  rw [hmessage, hschema, hpayload]
  rfl

/-- **An event of the harness is shown as it is here.** -/
theorem hitlEventToA2uiMessages_ofHarness (event : PlatformOps.HITLEvent) :
    hitlEventToA2uiMessages texts (.ofHarness event) =
      PlatformOps.hitlEventToA2uiMessages event := by
  have hinterrupt : (hitlEventToInterrupt texts (.ofHarness event)).toInterrupt =
      PlatformOps.hitlEventToInterrupt event := hitlEventToInterrupt_ofHarness event
  have hhelp : helpTextsFor (.ofHarness event) = PlatformOps.helpTextsFor event := rfl
  have hcard : cardSpecFor (.ofHarness event) (hitlEventToInterrupt texts (.ofHarness event)) =
      PlatformOps.cardSpecFor event (PlatformOps.hitlEventToInterrupt event) := by
    unfold cardSpecFor PlatformOps.cardSpecFor
    rw [hinterrupt, hhelp, ← hinterrupt]
    rfl
  unfold hitlEventToA2uiMessages PlatformOps.hitlEventToA2uiMessages
  rw [hcard]
  rfl

/-! ### What an interrupt announces -/

/-- The id of an interrupt is that of its event, and its schema is that of the answers. -/
theorem fields_interrupt (event : HITLEvent) :
    (hitlEventToInterrupt texts event).json.field "id" = some (.str event.eventId) ∧
      (hitlEventToInterrupt texts event).json.field "responseSchema" =
        some (responseSchemaFor event) := by
  unfold Interrupt.json
  cases hexpires : (hitlEventToInterrupt texts event).expiresAt with
  | none =>
      constructor
      · simp [Dict.get?_ofPairs, List.lookup_cons, hitlEventToInterrupt]
      · simp [Dict.get?_ofPairs, List.lookup_cons, hitlEventToInterrupt]
  | some text =>
      constructor
      · simp [Dict.get?_ofPairs, List.lookup_cons, hitlEventToInterrupt]
      · simp [Dict.get?_ofPairs, List.lookup_cons, hitlEventToInterrupt]

/-- The interrupts a frame announces. -/
def announcedInterrupts (frame : Json) : List Json :=
  match (frame.field "outcome").bind (·.field "interrupts") with
  | some (.arr interrupts) => interrupts
  | _ => []

/-- The frame of an event announces one interrupt. -/
theorem announcedInterrupts_runFinished (event : HITLEvent) (threadId runId : String) :
    announcedInterrupts (hitlEventToRunFinished texts event threadId runId) =
      [(hitlEventToInterrupt texts event).json] := by
  simp [announcedInterrupts, hitlEventToRunFinished, Dict.get?_ofPairs]

/-! ### Payloads that conform -/

theorem conforms_stringSchema_iff {v : Json} :
    Json.Conforms stringSchema v ↔ ∃ text, v = .str text := by
  have htype : stringSchema.field "type" = some (.str "string") := by
    simp [stringSchema, Dict.get?_ofPairs]
  have henum : stringSchema.field "enum" = none := by
    simp [stringSchema, Dict.get?_ofPairs, List.lookup_cons]
  constructor
  · intro h
    have hname := (Json.conforms_iff.1 h).1 _ htype
    cases v with
    | str text => exact ⟨text, rfl⟩
    | _ => simp [Json.typeName] at hname
  · rintro ⟨text, rfl⟩
    rw [Json.conforms_str_iff, htype, henum]
    refine ⟨fun name hname => ?_, fun options hnone => ?_⟩
    · cases hname
      rfl
    · cases hnone

/-- A schema of choices admits these, and without choices any text. -/
theorem conforms_choiceSchema_iff {choices : List String} {v : Json} :
    Json.Conforms (choiceSchema choices) v ↔
      ∃ text, v = .str text ∧ (choices ≠ [] → text ∈ choices) := by
  unfold choiceSchema
  split
  · rename_i hnone
    simp [conforms_stringSchema_iff, hnone]
  · rename_i hsome
    let schema : Json := .obj [("type", .str "string"), ("enum", .arr (choices.map Json.str))]
    have htype : schema.field "type" = some (.str "string") := by
      simp [schema, Dict.get?_ofPairs, List.lookup_cons]
    have henum : schema.field "enum" = some (.arr (choices.map Json.str)) := by
      simp [schema, Dict.get?_ofPairs]
    have hmem : ∀ text, Json.str text ∈ choices.map Json.str ↔ text ∈ choices := by
      intro text
      simp
    constructor
    · intro h
      obtain ⟨hname, hoption, -⟩ := Json.conforms_iff.1 h
      have hstr := hname _ htype
      cases v with
      | str text => exact ⟨text, rfl, fun _ => (hmem text).1 (hoption _ henum)⟩
      | _ => simp [Json.typeName] at hstr
    · rintro ⟨text, rfl, htext⟩
      rw [Json.conforms_str_iff]
      refine ⟨fun name hname => ?_, fun options hoptions => ?_⟩
      · rw [htype] at hname
        cases hname
        rfl
      · rw [henum] at hoptions
        cases hoptions
        exact (hmem text).2 (htext hsome)

/-- **An answer conforms** exactly if it has no other fields than a choice that is offered and a
text. -/
theorem conforms_answerSchema_iff {choices : List String} {fields : List (String × Json)}
    (h : (fields.map Prod.fst).Nodup) :
    Json.Conforms (answerSchema choices) (.obj fields) ↔
      ∀ p ∈ fields, ∃ text, p.2 = .str text ∧
        (p.1 = "selected_choice" ∧ (choices ≠ [] → text ∈ choices) ∨ p.1 = "value") := by
  have htype : (answerSchema choices).field "type" = some (.str "object") := by
    simp [answerSchema, Dict.get?_ofPairs, List.lookup_cons]
  have henum : (answerSchema choices).field "enum" = none := by
    simp [answerSchema, Dict.get?_ofPairs, List.lookup_cons]
  have hrequired : (answerSchema choices).field "required" = none := by
    simp [answerSchema, Dict.get?_ofPairs, List.lookup_cons]
  have hadditional : (answerSchema choices).field "additionalProperties" = some (.bool false) := by
    simp [answerSchema, Dict.get?_ofPairs]
  have hchoice : (answerSchema choices).property "selected_choice" =
      some (choiceSchema choices) := by
    simp [Json.property, answerSchema, Dict.get?_ofPairs, List.lookup_cons]
  have hvalue : (answerSchema choices).property "value" = some stringSchema := by
    simp [Json.property, answerSchema, Dict.get?_ofPairs, List.lookup_cons]
  have hother : ∀ key, key ≠ "selected_choice" → key ≠ "value" →
      (answerSchema choices).property key = none := by
    intro key hne hne'
    simp [Json.property, answerSchema, Dict.get?_ofPairs, List.lookup_cons, beq_false_of_ne hne,
      beq_false_of_ne hne']
  rw [Json.conforms_obj_iff h henum, htype, hrequired, hadditional]
  constructor
  · rintro ⟨-, -, hfields, hclosed⟩ p hp
    by_cases hkey : p.1 = "selected_choice"
    · obtain ⟨text, htext, hmem⟩ := conforms_choiceSchema_iff.1 (hfields p hp _ (hkey ▸ hchoice))
      exact ⟨text, htext, .inl ⟨hkey, hmem⟩⟩
    · by_cases hkey' : p.1 = "value"
      · obtain ⟨text, htext⟩ := conforms_stringSchema_iff.1 (hfields p hp _ (hkey' ▸ hvalue))
        exact ⟨text, htext, .inr hkey'⟩
      · exact absurd (hother _ hkey hkey') (hclosed rfl p hp)
  · intro hfields
    refine ⟨fun name hname => ?_, fun names hnone => ?_, fun p hp sub hsub => ?_,
      fun _ p hp => ?_⟩
    · cases hname
      rfl
    · cases hnone
    · obtain ⟨text, htext, ⟨hkey, hmem⟩ | hkey⟩ := hfields p hp
      · rw [hkey, hchoice] at hsub
        cases hsub
        exact conforms_choiceSchema_iff.2 ⟨text, htext, hmem⟩
      · rw [hkey, hvalue] at hsub
        cases hsub
        exact conforms_stringSchema_iff.2 ⟨text, htext⟩
    · obtain ⟨text, -, ⟨hkey, -⟩ | hkey⟩ := hfields p hp
      · rw [hkey, hchoice]
        simp
      · rw [hkey, hvalue]
        simp

/-- A verdict with a digest conforms. -/
theorem conforms_approvalSchema {verdict digest : String} (h : verdict ∈ ["approve", "reject"]) :
    Json.Conforms approvalSchema
      (.obj [("verdict", .str verdict), ("approval_digest", .str digest)]) := by
  have hverdict :
      approvalSchema.property "verdict" = some (choiceSchema ["approve", "reject"]) := by
    simp [Json.property, approvalSchema, Dict.get?_ofPairs, List.lookup_cons]
  have hdigest : approvalSchema.property "approval_digest" = some stringSchema := by
    simp [Json.property, approvalSchema, Dict.get?_ofPairs, List.lookup_cons]
  have hprops : ∀ p ∈ [("verdict", Json.str verdict), ("approval_digest", Json.str digest)],
      ∃ sub, approvalSchema.property p.1 = some sub ∧ Json.Conforms sub p.2 := by
    intro p hp
    rcases List.mem_pair.1 hp with rfl | rfl
    · exact ⟨_, hverdict, conforms_choiceSchema_iff.2 ⟨verdict, rfl, fun _ => h⟩⟩
    · exact ⟨_, hdigest, conforms_stringSchema_iff.2 ⟨digest, rfl⟩⟩
  rw [Json.conforms_obj_iff (by simp)
    (by simp [approvalSchema, Dict.get?_ofPairs, List.lookup_cons])]
  refine ⟨fun name hname => ?_, fun names hnames name hname => ?_, fun p hp sub hsub => ?_,
    fun _ p hp => ?_⟩
  · simp [approvalSchema, Dict.get?_ofPairs, List.lookup_cons] at hname
    exact hname.symm
  · have hlist : names = [.str "verdict", .str "approval_digest"] := by
      simpa [approvalSchema, Dict.get?_ofPairs, List.lookup_cons] using hnames.symm
    subst hlist
    simpa using hname
  · obtain ⟨sub', hsub', hconforms⟩ := hprops p hp
    rw [hsub'] at hsub
    cases hsub
    exact hconforms
  · obtain ⟨sub', hsub', -⟩ := hprops p hp
    simp [hsub']

/-- Any object conforms where there is no question. -/
theorem conforms_openSchema (fields : List (String × Json))
    (h : (fields.map Prod.fst).Nodup) : Json.Conforms openSchema (.obj fields) := by
  have hproperty : ∀ key, openSchema.property key = none := by
    intro key
    simp [Json.property, openSchema, Dict.get?_ofPairs, List.lookup_cons]
  rw [Json.conforms_obj_iff h (by simp [openSchema, Dict.get?_ofPairs, List.lookup_cons])]
  refine ⟨fun name hname => ?_, fun names hnames => ?_, fun p _ sub hsub => ?_, fun hclosed => ?_⟩
  · simp [openSchema, Dict.get?_ofPairs, List.lookup_cons] at hname
    exact hname.symm
  · simp [openSchema, Dict.get?_ofPairs, List.lookup_cons] at hnames
  · rw [hproperty] at hsub
    cases hsub
  · simp [openSchema, Dict.get?_ofPairs] at hclosed

end PlatformOps.Interaction
