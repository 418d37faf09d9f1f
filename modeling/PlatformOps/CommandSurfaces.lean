/-
**What a browser sees of a command.**

A handler ends with an outcome of any kind: the whole state of a graph with its approvals, proofs and
principals, a projection of a pending review, or anything else.  It is never rendered wholesale.  Of
a mapping four fields are shown, or the id and the name of an organization that a review activated;
of a pending review its projection is shown, and of anything else nothing.

The outcomes are values of the language, nested in any way, so that what a surface reads of them is
visible in its definition.  The surfaces factor through a small view of the outcome, and two outcomes
with one view cannot be told apart.

Main definitions:

* `PyValue` — values of the language;
* `OnboardingReviewProjection`, `OnboardingReviewOutcomeProjection`, `fromActive` — projections;
* `commandOutcomeToA2uiMessages`, `onboardingReviewToA2uiMessages`, `commandResultToA2uiMessages` —
  the surfaces;
* `commandStream` — the stream that answers a command;
* `CommandView`, `commandView` — what is shown of an outcome;
* `AgreeOnShown` — two outcomes that agree on what may be shown;
* `CommandOutcome.value`, `CommandResponse.frames` — the outcomes of the handlers, and what is streamed
  of a response.

Main results:

* `commandResultToA2uiMessages_eq` — **a surface shows nothing but the view**;
* `commandView_eq` — outcomes that agree on what may be shown have one view;
* `command_responses_agree` — **two outcomes that agree on what may be shown are answered alike**;
* `frames_review`, `frames_onboarding` — what the outcomes of the handlers tell.
-/

import PlatformOps.Commands
import PlatformOps.QuestionRendering

set_option relaxedAutoImplicit false
set_option autoImplicit false

namespace PlatformOps

/-! ### Projections -/

/-- The statuses of a review. -/
inductive OnboardingReviewStatus
  | pending
  | activated
  deriving DecidableEq

/-- The text of a status. -/
def OnboardingReviewStatus.value : OnboardingReviewStatus → String
  | .pending => "pending"
  | .activated => "activated"

/-- What an administrator is shown of a pending request, with its status. -/
structure OnboardingReviewProjection extends PendingOnboardingReviewProjection where
  status : OnboardingReviewStatus

/-- What an administrator is shown of an active organization. -/
structure OnboardingReviewOutcomeProjection where
  organizationId : String
  organizationName : String
  status : OnboardingReviewStatus
  organizationId_length : 5 ≤ organizationId.length
  organizationName_length : 1 ≤ organizationName.length

/-- `from_active`.  The id and the name of an organization are those the projection accepts. -/
def fromActive (organization : ActiveOrganization) : OnboardingReviewOutcomeProjection where
  organizationId := organization.organizationId
  organizationName := organization.organizationName
  status := .activated
  organizationId_length := organization.organizationId_length
  organizationName_length := organization.nameFits.1

/-! ### Values -/

/-- Values of the language, of which the instances of other classes are in `α`. -/
inductive PyValue (α : Type)
  | none
  | bool (b : Bool)
  | number (n : NumberText)
  | text (s : String)
  | list (items : List (PyValue α))
  | dict (entries : List (PyValue α × PyValue α))
  | review (projection : OnboardingReviewProjection)
  | organization (organization : ActiveOrganization)
  | object (x : α)

namespace PyValue

variable {α : Type}

/-- The value is this text. -/
def isText (key : String) : PyValue α → Bool
  | .text s => s = key
  | _ => false

/-- The value is `None`. -/
def isNone : PyValue α → Bool
  | .none => true
  | _ => false

/-- `get` of a mapping; nothing is in anything else. -/
def get (value : PyValue α) (key : String) : PyValue α :=
  match value with
  | .dict entries => ((entries.find? fun p => p.1.isText key).map Prod.snd).getD .none
  | _ => .none

/-- The value is a mapping. -/
def isDict : PyValue α → Bool
  | .dict _ => true
  | _ => false

/-- The value is a projection of a pending review. -/
def isReview : PyValue α → Bool
  | .review _ => true
  | _ => false

/-- The organization a value is, if it is one. -/
def asOrganization : PyValue α → Option ActiveOrganization
  | .organization carried => some carried
  | _ => Option.none

/-- The text of a value: a text is its own, the others are given. -/
def str (texts : PyValue α → String) : PyValue α → String
  | .text s => s
  | value => texts value

end PyValue

/-! ### Surfaces -/

section

variable {α : Type} (texts : PyValue α → String)

/-- The fields of an outcome that are shown. -/
def commandOutcomeFields : List String := ["status", "request_id", "scope_id", "message"]

/-- The ids of components. -/
def componentIds (components : List Json) : List Json :=
  components.filterMap fun component => component.field "id"

/-- The fields that are shown of a command: those of the outcome that are not `None` overwrite those
every command has, or go last. -/
def shownFields (command : String) (outcome : PyValue α) : Dict String (PyValue α) :=
  let shown := commandOutcomeFields.filterMap fun key =>
    if (outcome.get key).isNone then none else some (key, outcome.get key)
  shown.foldl (fun fields p => fields.set p.1 p.2)
    (.ofPairs [("command", .text command), ("status", .text "completed")])

/-- `command_outcome_to_a2ui_messages`. -/
def commandOutcomeToA2uiMessages (surfaceId command : String) (outcome : PyValue α) : List Json :=
  let safe := if outcome.isDict then outcome else .dict []
  let fields := (shownFields command safe).entries.map fun p =>
    textComponent ("field-" ++ p.1) (p.1 ++ ": " ++ p.2.str texts)
  let root := .obj [("id", .str "root"), ("component", .str "Column"),
    ("children", .arr (componentIds fields))]
  [createSurface surfaceId, updateComponents surfaceId (root :: fields)]

/-- The component is a button. -/
def isButtonComponent (component : Json) : Bool :=
  (component.field "component").bind Json.asString = some "Button"

/-- `_text_column`. -/
def textColumn (surfaceId : String) (lines : List (String × String)) (extra : List Json) :
    List Json :=
  let fields := lines.map fun p => textComponent ("field-" ++ p.1) p.2
  let root := .obj [("id", .str "root"), ("component", .str "Column"),
    ("children", .arr (componentIds fields ++ componentIds (extra.filter isButtonComponent)))]
  [createSurface surfaceId, updateComponents surfaceId (root :: (fields ++ extra))]

/-- The text of a truth value. -/
def boolText (b : Bool) : String := if b then "True" else "False"

/-- `onboarding_review_to_a2ui_messages` of an active organization. -/
def reviewOutcomeToA2uiMessages (surfaceId : String)
    (projection : OnboardingReviewOutcomeProjection) : List Json :=
  textColumn surfaceId
    [("title", "Organization activated"),
      ("organization_name", "organization_name: " ++ projection.organizationName),
      ("organization_id", "organization_id: " ++ projection.organizationId),
      ("status", "status: " ++ projection.status.value)] []

/-- The button that approves a request, and its label. -/
def approveComponents (requestId : String) : List Json :=
  [textComponent "approve-label" "Approve",
    .obj [("id", .str "approve"), ("component", .str "Button"), ("child", .str "approve-label"),
      ("action", .obj [("event", .obj [("name", .str ControlPlaneCommand.reviewOnboarding.value),
        ("context", .obj [("request_id", .str requestId)])])])]]

/-- `onboarding_review_to_a2ui_messages` of a pending review: approving it is offered where the
identity is proved. -/
def onboardingReviewToA2uiMessages (surfaceId : String) (projection : OnboardingReviewProjection) :
    List Json :=
  let extra :=
    if projection.status = .pending ∧ projection.identityProofRecorded = true then
      approveComponents projection.requestId
    else []
  textColumn surfaceId
    [("title", "Organization onboarding review"),
      ("request_id", "request_id: " ++ projection.requestId),
      ("organization_name", "organization_name: " ++ projection.organizationName),
      ("identity_boundary", "identity_boundary: " ++ projection.identityBoundaryKind ++ " " ++
        projection.identityBoundaryReference),
      ("identity_proof_recorded",
        "identity_proof_recorded: " ++ boolText projection.identityProofRecorded),
      ("status", "status: " ++ projection.status.value)] extra

/-- `command_result_to_a2ui_messages`. -/
def commandResultToA2uiMessages (surfaceId command : String) (outcome : PyValue α) : List Json :=
  match outcome with
  | .review projection => onboardingReviewToA2uiMessages surfaceId projection
  | outcome =>
      if command = ControlPlaneCommand.reviewOnboarding.value ∧ outcome.isDict = true then
        match (outcome.get "organization").asOrganization with
        | some organization => reviewOutcomeToA2uiMessages surfaceId (fromActive organization)
        | none => commandOutcomeToA2uiMessages texts surfaceId command outcome
      else commandOutcomeToA2uiMessages texts surfaceId command outcome

/-! ### The stream -/

/-- What is streamed. -/
inductive AguiEvent
  | runStarted (threadId runId : String)
  | custom (name : String) (value : Json)
  | runFinished (threadId runId : String) (outcome : Json)

/-- A message as an event, named by what it holds. -/
def customEvent (message : Json) : AguiEvent :=
  .custom (if (message.field "createSurface").isSome then "a2ui.createSurface"
    else "a2ui.updateComponents") message

/-- `command_stream`: what `encode` makes of the events. -/
def commandStream (encode : AguiEvent → String) (threadId runId : String) (messages : List Json) :
    List String :=
  (([AguiEvent.runStarted threadId runId] ++ messages.map customEvent) ++
    [AguiEvent.runFinished threadId runId (.obj [("type", .str "success")])]).map encode

/-- The messages that answer a command. -/
def commandMessages (runId command : String) (outcome : PyValue α) : List Json :=
  commandResultToA2uiMessages texts (runId ++ "-command") command outcome

end

/-! ### Views -/

/-- What is shown of an outcome. -/
inductive CommandView (α : Type)
  | pendingReview (projection : OnboardingReviewProjection)
  | activated (organizationId organizationName : String)
  | fields (status requestId scopeId message : PyValue α)

section

variable {α : Type}

/-- The id and the name of the organization a mapping carries. -/
def carriedOrganization (outcome : PyValue α) : Option (String × String) :=
  (outcome.get "organization").asOrganization.map fun organization =>
    (organization.organizationId, organization.organizationName)

/-- What is shown of the outcome of a command. -/
def commandView (command : String) (outcome : PyValue α) : CommandView α :=
  match outcome with
  | .review projection => .pendingReview projection
  | outcome =>
      match if command = "/review-onboard-org" then carriedOrganization outcome else none with
      | some (organizationId, organizationName) => .activated organizationId organizationName
      | none =>
          .fields (outcome.get "status") (outcome.get "request_id") (outcome.get "scope_id")
            (outcome.get "message")

/-- A mapping with these fields. -/
def fieldsValue (status requestId scopeId message : PyValue α) : PyValue α :=
  .dict [(.text "status", status), (.text "request_id", requestId), (.text "scope_id", scopeId),
    (.text "message", message)]

/-- The messages of a view. -/
def CommandView.messages (texts : PyValue α → String) (surfaceId command : String) :
    CommandView α → List Json
  | .pendingReview projection => onboardingReviewToA2uiMessages surfaceId projection
  | .activated organizationId organizationName =>
      textColumn surfaceId
        [("title", "Organization activated"),
          ("organization_name", "organization_name: " ++ organizationName),
          ("organization_id", "organization_id: " ++ organizationId),
          ("status", "status: activated")] []
  | .fields status requestId scopeId message =>
      commandOutcomeToA2uiMessages texts surfaceId command
        (fieldsValue status requestId scopeId message)

/-! ### A surface shows the view -/

variable {texts : PyValue α → String} {surfaceId command : String}

/-- What is not a mapping has no fields. -/
theorem get_of_not_isDict {outcome : PyValue α} (h : outcome.isDict = false) (key : String) :
    outcome.get key = .none := by
  cases outcome with
  | dict entries => cases h
  | _ => rfl

/-- The generic surface reads the fields that are shown and nothing else. -/
theorem commandOutcomeToA2uiMessages_congr {outcome outcome' : PyValue α}
    (h : ∀ key ∈ commandOutcomeFields, outcome.get key = outcome'.get key) :
    commandOutcomeToA2uiMessages texts surfaceId command outcome =
      commandOutcomeToA2uiMessages texts surfaceId command outcome' := by
  have hsafe : ∀ (o : PyValue α) (key : String),
      (if o.isDict then o else .dict []).get key = o.get key := by
    intro o key
    by_cases hdict : o.isDict = true
    · rw [if_pos hdict]
    · rw [if_neg hdict, get_of_not_isDict (Bool.eq_false_iff.2 hdict)]
      rfl
  have hfields : shownFields command (if outcome.isDict then outcome else .dict []) =
      shownFields command (if outcome'.isDict then outcome' else .dict []) := by
    unfold shownFields
    have hshown : ∀ key ∈ commandOutcomeFields,
        (if outcome.isDict then outcome else .dict []).get key =
          (if outcome'.isDict then outcome' else .dict []).get key := by
      intro key hkey
      rw [hsafe, hsafe, h key hkey]
    rw [List.filterMap_congr fun key hkey => by rw [hshown key hkey]]
  unfold commandOutcomeToA2uiMessages
  dsimp only
  rw [hfields]

/-- The view of an outcome that is no projection. -/
theorem commandView_of_not_isReview {outcome : PyValue α} (h : outcome.isReview = false) :
    commandView command outcome =
      match if command = "/review-onboard-org" then carriedOrganization outcome else none with
      | some (organizationId, organizationName) => .activated organizationId organizationName
      | none =>
          .fields (outcome.get "status") (outcome.get "request_id") (outcome.get "scope_id")
            (outcome.get "message") := by
  cases outcome with
  | review projection => cases h
  | _ => rfl

/-- What holds of the fields that are shown. -/
theorem forall_commandOutcomeFields {p : String → Prop} :
    (∀ key ∈ commandOutcomeFields, p key) ↔
      p "status" ∧ p "request_id" ∧ p "scope_id" ∧ p "message" := by
  simp [commandOutcomeFields]

theorem get_fieldsValue (outcome : PyValue α) :
    ∀ key ∈ commandOutcomeFields, outcome.get key =
      (fieldsValue (outcome.get "status") (outcome.get "request_id") (outcome.get "scope_id")
        (outcome.get "message")).get key :=
  forall_commandOutcomeFields.2 ⟨rfl, rfl, rfl, rfl⟩

/-- **A surface shows nothing but the view.** -/
theorem commandResultToA2uiMessages_eq (outcome : PyValue α) :
    commandResultToA2uiMessages texts surfaceId command outcome =
      (commandView command outcome).messages texts surfaceId command := by
  have hgeneric : commandOutcomeToA2uiMessages texts surfaceId command outcome =
      commandOutcomeToA2uiMessages texts surfaceId command
        (fieldsValue (outcome.get "status") (outcome.get "request_id") (outcome.get "scope_id")
          (outcome.get "message")) :=
    commandOutcomeToA2uiMessages_congr (get_fieldsValue outcome)
  by_cases hreview : outcome.isReview = true
  · cases outcome with
    | review projection => rfl
    | _ => cases hreview
  · have hresult : commandResultToA2uiMessages texts surfaceId command outcome =
        if command = ControlPlaneCommand.reviewOnboarding.value ∧ outcome.isDict = true then
          match (outcome.get "organization").asOrganization with
          | some organization => reviewOutcomeToA2uiMessages surfaceId (fromActive organization)
          | none => commandOutcomeToA2uiMessages texts surfaceId command outcome
        else commandOutcomeToA2uiMessages texts surfaceId command outcome := by
      cases outcome with
      | review projection => exact absurd rfl hreview
      | _ => rfl
    rw [hresult, commandView_of_not_isReview (Bool.eq_false_iff.2 hreview)]
    by_cases hcommand : command = "/review-onboard-org"
    · cases horganization : (outcome.get "organization").asOrganization with
      | none =>
          have hnone : carriedOrganization outcome = none := by
            simp [carriedOrganization, horganization]
          rw [if_pos hcommand, hnone]
          dsimp only [CommandView.messages]
          rw [← hgeneric]
          split
          · rfl
          · rfl
      | some organization =>
          have hsome : carriedOrganization outcome =
              some (organization.organizationId, organization.organizationName) := by
            simp [carriedOrganization, horganization]
          have hdict : outcome.isDict = true := by
            by_contra hno
            rw [get_of_not_isDict (Bool.eq_false_iff.2 hno)] at horganization
            cases horganization
          rw [if_pos hcommand, hsome, if_pos ⟨hcommand, hdict⟩]
          rfl
    · rw [if_neg hcommand, if_neg fun h => hcommand h.1]
      exact hgeneric

/-! ### Outcomes that cannot be told apart -/

/-- **The outcomes agree on what may be shown**: both are mappings with the same shown fields and, of
a review, with the same id and name of an organization, if any; or both are the same projection of a
pending review; or both are of any other kind. -/
inductive AgreeOnShown (command : String) : PyValue α → PyValue α → Prop
  | mappings {entries entries' : List (PyValue α × PyValue α)}
      (fields : ∀ key ∈ commandOutcomeFields,
        (PyValue.dict entries).get key = (PyValue.dict entries').get key)
      (organization : command = "/review-onboard-org" →
        carriedOrganization (.dict entries) = carriedOrganization (.dict entries')) :
      AgreeOnShown command (.dict entries) (.dict entries')
  | reviews (projection : OnboardingReviewProjection) :
      AgreeOnShown command (.review projection) (.review projection)
  | others {outcome outcome' : PyValue α} (h : outcome.isDict = false ∧ outcome.isReview = false)
      (h' : outcome'.isDict = false ∧ outcome'.isReview = false) :
      AgreeOnShown command outcome outcome'

/-- What is neither a mapping nor a projection has the view without fields. -/
theorem commandView_other {outcome : PyValue α}
    (h : outcome.isDict = false ∧ outcome.isReview = false) :
    commandView command outcome = .fields .none .none .none .none := by
  have hnone : carriedOrganization outcome = none := by
    rw [carriedOrganization, get_of_not_isDict h.1]
    rfl
  simp only [commandView_of_not_isReview h.2, hnone, ite_self, get_of_not_isDict h.1]

/-- Outcomes that agree on what may be shown have one view. -/
theorem commandView_eq {outcome outcome' : PyValue α} (h : AgreeOnShown command outcome outcome') :
    commandView command outcome = commandView command outcome' := by
  cases h with
  | @mappings entries entries' hfields horganization =>
      have hcarried :
          (if command = "/review-onboard-org" then carriedOrganization (.dict entries) else none) =
            if command = "/review-onboard-org" then carriedOrganization (.dict entries')
            else none := by
        split
        · exact horganization ‹_›
        · rfl
      obtain ⟨hstatus, hrequest, hscope, hmessage⟩ := forall_commandOutcomeFields.1 hfields
      rw [commandView_of_not_isReview rfl, commandView_of_not_isReview rfl, hcarried, hstatus,
        hrequest, hscope, hmessage]
  | reviews projection => rfl
  | others hother hother' => rw [commandView_other hother, commandView_other hother']

/-- Outcomes that agree on what may be shown have the same messages. -/
theorem commandMessages_congr {runId : String} {outcome outcome' : PyValue α}
    (h : AgreeOnShown command outcome outcome') :
    commandMessages texts runId command outcome = commandMessages texts runId command outcome' := by
  unfold commandMessages
  rw [commandResultToA2uiMessages_eq, commandResultToA2uiMessages_eq, commandView_eq h]

/-- **Two outcomes of a command that agree on what may be shown are answered alike**, whatever else
they contain: the messages are the same, and so is the stream. -/
theorem command_responses_agree (texts : PyValue α → String) (encode : AguiEvent → String)
    (threadId runId command : String) (outcome outcome' : PyValue α)
    (h : AgreeOnShown command outcome outcome') :
    commandMessages texts runId command outcome = commandMessages texts runId command outcome' ∧
      commandStream encode threadId runId (commandMessages texts runId command outcome) =
        commandStream encode threadId runId (commandMessages texts runId command outcome') :=
  ⟨commandMessages_congr h, congrArg (commandStream encode threadId runId) (commandMessages_congr h)⟩

/-- Accepted, as reviewed by Alice. -/
def acceptedByAlice : PyValue Empty :=
  .dict [(.text "status", .text "accepted"), (.text "reviewer", .text "alice")]

/-- Accepted, as reviewed by Bob, with an approval. -/
def acceptedByBob : PyValue Empty :=
  .dict [(.text "approval", .dict [(.text "digest", .text "a2"), (.text "by", .text "bob")]),
    (.text "status", .text "accepted"), (.text "reviewer", .text "bob"), (.text "scope_id", .none)]

/-- Who reviewed it cannot be told. -/
theorem accepted_responses_agree :
    AgreeOnShown "/provision" acceptedByAlice acceptedByBob ∧
      commandMessages (fun _ => "") "r1" "/provision" acceptedByAlice =
        commandMessages (fun _ => "") "r1" "/provision" acceptedByBob ∧
      commandStream (fun _ => "") "t1" "r1"
          (commandMessages (fun _ => "") "r1" "/provision" acceptedByAlice) =
        commandStream (fun _ => "") "t1" "r1"
          (commandMessages (fun _ => "") "r1" "/provision" acceptedByBob) := by
  have hagree : AgreeOnShown "/provision" acceptedByAlice acceptedByBob := by
    exact .mappings (forall_commandOutcomeFields.2 ⟨rfl, rfl, rfl, rfl⟩)
      fun h => absurd h (by decide)
  exact ⟨hagree, command_responses_agree _ _ "t1" "r1" "/provision" _ _ hagree⟩

end

/-! ### The outcomes of the handlers -/

/-- The records that the outcomes of the handlers contain. -/
inductive CommandRecord
  | registrationPending (message : String)
  | applicant (applicant : AuthenticatedApplicant)
  | start (onboarding : OrganizationOnboardingStart)
  | request (request : OrganizationOnboardingRequest)
  | proof (proof : IdentityBoundaryVerificationEvidence)
  | approval (approval : OrganizationOnboardingApproval)
  | membership (membership : OrganizationMembership)

/-- A value that may be missing. -/
def orNone {α β : Type} (f : β → PyValue α) : Option β → PyValue α
  | some b => f b
  | none => .none

mutual

/-- A JSON value. -/
def PyValue.ofJson {α : Type} : Json → PyValue α
  | .null => .none
  | .bool b => .bool b
  | .number n => .number n
  | .str s => .text s
  | .arr items => .list (PyValue.ofItems items)
  | .obj fields => .dict (PyValue.ofFields fields)

/-- The items of a JSON list. -/
def PyValue.ofItems {α : Type} : List Json → List (PyValue α)
  | [] => []
  | item :: items => PyValue.ofJson item :: PyValue.ofItems items

/-- The fields of a JSON object. -/
def PyValue.ofFields {α : Type} : List (String × Json) → List (PyValue α × PyValue α)
  | [] => []
  | (key, v) :: fields => (.text key, PyValue.ofJson v) :: PyValue.ofFields fields

end

/-- The outcome of a handler. -/
def CommandOutcome.value : CommandOutcome → PyValue CommandRecord
  | .registrationPending answer => .object (.registrationPending answer)
  | .onboarding state =>
      .dict [(.text "applicant", .object (.applicant state.applicant)),
        (.text "onboarding", .object (.start state.onboarding)),
        (.text "reviewer", orNone (fun x => .object (.applicant x)) state.reviewer),
        (.text "request", orNone (fun x => .object (.request x)) state.request),
        (.text "identity_proof", orNone (fun x => .object (.proof x)) state.identityProof),
        (.text "approval", orNone (fun x => .object (.approval x)) state.approval),
        (.text "organization", orNone .organization state.organization)]
  | .review state =>
      .dict [(.text "request_id", .text state.requestId),
        (.text "reviewer", .object (.applicant state.reviewer)),
        (.text "request", orNone (fun x => .object (.request x)) state.request),
        (.text "proof", orNone (fun x => .object (.proof x)) state.proof),
        (.text "approval", orNone (fun x => .object (.approval x)) state.approval),
        (.text "organization", orNone .organization state.organization)]
  | .pendingReview projection => .review ⟨projection, .pending⟩
  | .membership record => .dict [(.text "membership", .object (.membership record))]
  | .provision result => PyValue.ofJson result

/-- What a response streams, if it is a stream. -/
def CommandResponse.frames (texts : PyValue CommandRecord → String) (encode : AguiEvent → String) :
    CommandResponse → Option (List String)
  | .stream threadId runId command outcome =>
      some (commandStream encode threadId runId
        (commandMessages texts runId command outcome.value))
  | _ => none

section

variable {texts : PyValue CommandRecord → String} {encode : AguiEvent → String}
  {threadId runId : String}

/-- **A review tells nothing but the organization it activated**: not who asked for it, who reviewed
it, or what was approved. -/
theorem frames_review {state : ReviewState} {organization : ActiveOrganization}
    (h : state.organization = some organization) :
    (CommandResponse.stream threadId runId "/review-onboard-org" (.review state)).frames texts
        encode =
      some (commandStream encode threadId runId
        (reviewOutcomeToA2uiMessages (runId ++ "-command") (fromActive organization))) := by
  have horganization : ((CommandOutcome.review state).value.get "organization").asOrganization =
      some organization := by
    have hget : (CommandOutcome.review state).value.get "organization" =
        orNone .organization state.organization := rfl
    rw [hget, h]
    rfl
  have hview : commandView "/review-onboard-org" (CommandOutcome.review state).value =
      .activated organization.organizationId organization.organizationName := by
    rw [commandView_of_not_isReview rfl, if_pos rfl, carriedOrganization, horganization]
    rfl
  unfold CommandResponse.frames commandMessages
  dsimp only
  rw [commandResultToA2uiMessages_eq, hview]
  rfl

/-- **An onboarding tells nothing but that it is completed**, whatever its state. -/
theorem frames_onboarding (state state' : OrganizationOnboardingState) :
    (CommandResponse.stream threadId runId "/onboard-org" (.onboarding state)).frames texts encode =
      (CommandResponse.stream threadId runId "/onboard-org" (.onboarding state')).frames texts
        encode := by
  have hagree : AgreeOnShown "/onboard-org" (CommandOutcome.onboarding state).value
      (CommandOutcome.onboarding state').value := by
    exact .mappings (forall_commandOutcomeFields.2 ⟨rfl, rfl, rfl, rfl⟩)
      fun h => absurd h (by decide)
  unfold CommandResponse.frames
  dsimp only
  rw [commandMessages_congr hagree]

end

end PlatformOps
