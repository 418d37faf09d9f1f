/-
**Answers typed in a terminal.**

The terminal shows an event and reads one line.  For a clarification the line is the answer, for an
approval it is a verdict; the answer becomes the payload of a resume entry.  The interrupt of the
event has advertised a schema for this payload.  Neither the prompt nor the entry looks at it, and
the prompt takes a line that is none of the choices for an answer all the same.

Main definitions:

* `Interaction.HITLResponse`, `Interaction.promptHitlResponse` — responses, and the prompt;
* `Interaction.hitlResponseToResumeEntry` — the resume entry of a response;
* `Interaction.AnswerConforms` — the payload conforms to the schema of the event;
* `Interaction.HITLEvent.Offers` — the line is an answer that the event offers.

Main results:

* `Interaction.answerConforms_approval` — a verdict always conforms;
* `Interaction.answerConforms_iff` — **what is typed conforms exactly if the event offers it**.
-/

import PlatformOps.InteractionEvents

set_option relaxedAutoImplicit false
set_option autoImplicit false

namespace PlatformOps.Interaction

/-! ### Responses -/

/-- What a human may decide. -/
inductive HITLVerdict
  | answer
  | approve
  | reject
  | cancel
  deriving DecidableEq

/-- The text of a verdict. -/
def HITLVerdict.value : HITLVerdict → String
  | .answer => "answer"
  | .approve => "approve"
  | .reject => "reject"
  | .cancel => "cancel"

/-- The response of a human. -/
structure HITLResponse where
  eventId : String
  requestId : String
  responder : ActorRef
  verdict : HITLVerdict
  value : Option String
  selectedChoice : Option String
  approvalDigest : Option String
  respondedAt : ℕ

/-- A response as the dictionary it is dumped to, in the order of its fields. -/
def HITLResponse.fields (texts : DatetimeTexts) (response : HITLResponse) : List (String × Json) :=
  [("event_id", .str response.eventId), ("request_id", .str response.requestId),
    ("responder", actorJson response.responder), ("verdict", .str response.verdict.value),
    ("value", jsonText response.value), ("selected_choice", jsonText response.selectedChoice),
    ("approval_digest", jsonText response.approvalDigest),
    ("responded_at", .str (texts.json response.respondedAt))]

/-- The value is null. -/
def isNull : Json → Bool
  | .null => true
  | _ => false

/-- The fields of an answer. -/
def answerFields : List String := ["selected_choice", "value"]

/-- The fields of a verdict on an approval. -/
def approvalVerdictFields : List String := ["verdict", "approval_digest"]

/-- The payload of a response: the fields for its verdict, without those that are null. -/
def HITLResponse.payload (texts : DatetimeTexts) (response : HITLResponse) :
    List (String × Json) :=
  let fields := if response.verdict = .answer then answerFields else approvalVerdictFields
  ((response.fields texts).filter fun p => p.1 ∈ fields).filter fun p => !isNull p.2

/-- `hitl_response_to_resume_entry`. -/
def hitlResponseToResumeEntry (texts : DatetimeTexts) (response : HITLResponse) : Json :=
  if response.verdict = .cancel then
    .obj [("interruptId", .str response.eventId), ("status", .str "cancelled")]
  else
    .obj [("interruptId", .str response.eventId), ("status", .str "resolved"),
      ("payload", .obj (response.payload texts))]

/-! ### The prompt -/

/-- The words that approve. -/
def approvingWords : List String := ["y", "yes", "approve", "approved"]

/-- `prompt_hitl_response`: what is typed, without the blanks around it, is the answer of a
clarification or the verdict on an approval. -/
def promptHitlResponse (lower : String → String) (event : HITLEvent) (responder : ActorRef)
    (line : String) (now : ℕ) : HITLResponse :=
  match event.kind with
  | .clarificationRequired =>
      let selected := strip line
      let answer := if selected = "" then none else some selected
      ⟨event.eventId, event.requestId, responder, .answer, answer, answer, none, now⟩
  | .approvalRequired =>
      let approved := lower (strip line) ∈ approvingWords
      let digest := match event.payload with
        | .approval request => some request.approvalDigest
        | .decision _ => none
      ⟨event.eventId, event.requestId, responder, if approved then .approve else .reject, none,
        none, digest, now⟩

/-! ### Conformance -/

section

variable (lower : String → String) (texts : DatetimeTexts) (event : HITLEvent)
  (responder : ActorRef) (line : String) (now : ℕ)

/-- The payload of the resume entry for the typed line conforms to the schema that the interrupt of
the event advertises. -/
def AnswerConforms : Prop :=
  ∃ payload schema,
    (hitlResponseToResumeEntry texts (promptHitlResponse lower event responder line now)).field
        "payload" = some payload ∧
      (hitlEventToInterrupt texts event).json.field "responseSchema" = some schema ∧
      Json.Conforms schema payload

/-- The line is an answer that the event offers: no answer, any answer where there are no choices,
or one of the choices.  Of an approval every line is a verdict. -/
def HITLEvent.Offers : Prop :=
  event.kind = .clarificationRequired → event.choices ≠ [] → strip line ≠ "" →
    strip line ∈ event.choices

variable {lower texts event responder line now}

theorem payload_resumeEntry {response : HITLResponse} (h : response.verdict ≠ .cancel) :
    (hitlResponseToResumeEntry texts response).field "payload" =
      some (.obj (response.payload texts)) := by
  unfold hitlResponseToResumeEntry
  rw [if_neg h]
  simp [Dict.get?_ofPairs]

/-- What is typed conforms if the payload does. -/
theorem answerConforms_iff_payload
    (h : (promptHitlResponse lower event responder line now).verdict ≠ .cancel) :
    AnswerConforms lower texts event responder line now ↔
      Json.Conforms (responseSchemaFor event)
        (.obj ((promptHitlResponse lower event responder line now).payload texts)) := by
  unfold AnswerConforms
  simp only [payload_resumeEntry h, (fields_interrupt event).2, Option.some.injEq]
  constructor
  · rintro ⟨_, _, rfl, rfl, hconforms⟩
    exact hconforms
  · intro hconforms
    exact ⟨_, _, rfl, rfl, hconforms⟩

/-- **A verdict on an approval always conforms.** -/
theorem answerConforms_approval (h : event.kind = .approvalRequired) :
    AnswerConforms lower texts event responder line now := by
  obtain ⟨request, hrequest⟩ := event.payload_of_approval h
  have hresponse : ∃ verdict : HITLVerdict, (verdict = .approve ∨ verdict = .reject) ∧
      promptHitlResponse lower event responder line now =
        ⟨event.eventId, event.requestId, responder, verdict, none, none,
          some request.approvalDigest, now⟩ := by
    unfold promptHitlResponse
    rw [h, hrequest]
    by_cases happroved : lower (strip line) ∈ approvingWords
    · exact ⟨.approve, .inl rfl, by simp [happroved]⟩
    · exact ⟨.reject, .inr rfl, by simp [happroved]⟩
  obtain ⟨verdict, hverdict, hresponse⟩ := hresponse
  have hcancel : verdict ≠ .cancel := by rcases hverdict with rfl | rfl <;> simp
  rw [answerConforms_iff_payload (by rw [hresponse]; exact hcancel), hresponse]
  unfold responseSchemaFor
  rw [if_pos h]
  rcases hverdict with rfl | rfl
  · exact conforms_approvalSchema (List.mem_cons_self ..)
  · exact conforms_approvalSchema (List.mem_cons_of_mem _ (List.mem_cons_self ..))

/-- What is typed for a clarification is sent twice, or not at all. -/
theorem payload_prompt_clarification (h : event.kind = .clarificationRequired) :
    (promptHitlResponse lower event responder line now).payload texts =
      if strip line = "" then []
      else [("value", .str (strip line)), ("selected_choice", .str (strip line))] := by
  unfold promptHitlResponse
  rw [h]
  by_cases hempty : strip line = ""
  · simp only [hempty, if_true]
    rfl
  · simp only [hempty, if_false]
    rfl

/-- What is typed for a clarification conforms exactly if the clarification offers it. -/
theorem answerConforms_clarification_iff (h : event.kind = .clarificationRequired) :
    AnswerConforms lower texts event responder line now ↔ event.Offers line := by
  have hverdict : (promptHitlResponse lower event responder line now).verdict ≠ .cancel := by
    unfold promptHitlResponse
    rw [h]
    simp
  have hpayload : (promptHitlResponse lower event responder line now).payload texts = _ :=
    payload_prompt_clarification h
  rw [answerConforms_iff_payload hverdict, hpayload]
  unfold responseSchemaFor HITLEvent.Offers HITLEvent.choices
  rw [if_neg (by simp [h])]
  have hnodup : ((if strip line = "" then []
      else [("value", Json.str (strip line)), ("selected_choice", .str (strip line))]).map
        Prod.fst).Nodup := by
    split
    · simp
    · simp
  cases hquestion : event.question with
  | none => simp [conforms_openSchema _ hnodup]
  | some question =>
      dsimp only
      rw [conforms_answerSchema_iff hnodup]
      by_cases hempty : strip line = ""
      · simp [hempty]
      · simp [hempty, h]

/-- **What is typed conforms to the advertised schema exactly if the event offers it.** -/
theorem answerConforms_iff :
    AnswerConforms lower texts event responder line now ↔ event.Offers line := by
  cases hkind : event.kind with
  | approvalRequired =>
      refine iff_of_true (answerConforms_approval hkind) fun h => ?_
      rw [hkind] at h
      cases h
  | clarificationRequired => exact answerConforms_clarification_iff hkind

end

/-! ### An answer that is not offered -/

/-- **An audit is typed where it is not offered**, and the payload does not conform. -/
theorem audit_not_conforming :
    ¬ ∀ (lower : String → String) (texts : DatetimeTexts) (event : HITLEvent)
      (responder : ActorRef) (line : String) (now : ℕ),
      AnswerConforms lower texts event responder line now := by
  intro h
  have hconforms := h id ⟨fun _ => "", fun _ => ""⟩ workflowQuestion ⟨"bob", "bob@example.com"⟩
    "audit" 0
  have hoffers := (answerConforms_clarification_iff rfl).1 hconforms
  exact absurd (hoffers rfl (by decide) (by decide)) (by decide)

end PlatformOps.Interaction
