/-
**Rendering the questions of the harness.**

A clarification event is shown as a card: its interrupt supplies the message and the choices, and a
card has bounds on the length of every text and admits no angle bracket.  The card is validated when
it is built, which is after the harness has stored the question.  The texts of the workflows fit a
card, but a question can also be worded by the model, and then nothing bounds its text.

Main definitions:

* `DynamicChoice`, `DynamicCardSpec`, `compileDynamicCard` — cards, which are valid by construction,
  and their components;
* `Interrupt`, `hitlEventToInterrupt` — the interrupt of an event;
* `hitlEventToA2uiMessages` — the messages that show an event;
* `HarnessQuestion` — the questions the workflows ask with a model;
* `ShowsQuestions`, `AsksUnshowable` — the steps whose questions are shown, and the steps that ask
  a question with a text that does not fit a card.

Main results:

* `renders_iff` — an event is shown exactly if its question fits a card;
* `HarnessQuestion.fits_iff` — a question of the workflows fits a card exactly if its text does;
* `questions_shown_iff` — **the questions of a run are shown exactly if no step asks with a text
  that does not fit, as is the case if no model words such a text**.
-/

import PlatformOps.OpenQuestions
import PlatformOps.PythonText

set_option relaxedAutoImplicit false
set_option autoImplicit false

namespace PlatformOps

/-! ### Cards -/

/-- The text has an angle bracket. -/
def hasMarkup (text : String) : Bool := text.toList.any fun c => c = '<' || c = '>'

/-- The text has no angle bracket and at most this many characters. -/
def PlainWithin (bound : ℕ) (text : String) : Prop :=
  text.length ≤ bound ∧ hasMarkup text = false

instance (bound : ℕ) : DecidablePred (PlainWithin bound) := fun _ =>
  inferInstanceAs (Decidable (_ ∧ _))

theorem PlainWithin.ofList {bound : ℕ} (chars : List Char)
    (h : chars.length ≤ bound ∧ (chars.any fun c => c = '<' || c = '>') = false) :
    PlainWithin bound (String.ofList chars) := by
  unfold PlainWithin hasMarkup
  rw [String.length_ofList, String.toList_ofList]
  exact h

theorem PlainWithin.append {bound bound' : ℕ} {text text' : String} (h : PlainWithin bound text)
    (h' : PlainWithin bound' text') : PlainWithin (bound + bound') (text ++ text') := by
  unfold PlainWithin hasMarkup at *
  rw [String.length_append, String.toList_append, List.any_append, h.2, h'.2]
  exact ⟨Nat.add_le_add h.1 h'.1, rfl⟩

theorem PlainWithin.mono {bound bound' : ℕ} {text : String} (h : PlainWithin bound text)
    (hle : bound ≤ bound') : PlainWithin bound' text := ⟨h.1.trans hle, h.2⟩

/-- A choice of a card. -/
structure DynamicChoice where
  label : String
  value : String
  labelFits : FitsLength 1 80 label
  valueFits : FitsLength 1 120 value

/-- Validate a choice. -/
def dynamicChoice (label value : String) : Except Fault DynamicChoice :=
  if hlabel : FitsLength 1 80 label then
    if hvalue : FitsLength 1 120 value then .ok ⟨label, value, hlabel, hvalue⟩
    else .error (.validationError "DynamicChoice" "value")
  else .error (.validationError "DynamicChoice" "label")

/-- The texts of a card that a reader sees. -/
def cardTexts (title message : String) (helpTexts : List String) (choices : List DynamicChoice) :
    List String :=
  [title, message] ++ helpTexts ++ choices.map DynamicChoice.label

/-- A card. -/
structure DynamicCardSpec where
  title : String
  message : String
  helpTexts : List String
  choices : List DynamicChoice
  choiceResponseField : String
  titleFits : FitsLength 1 80 title
  messageFits : FitsLength 1 1200 message
  helpTextsFit : helpTexts.length ≤ 8
  choicesFit : choices.length ≤ 8
  fieldFits : FitsLength 1 80 choiceResponseField
  plain : ∀ text ∈ cardTexts title message helpTexts choices, hasMarkup text = false

/-- Validate a card: the fields first, and then the card as a whole, which is no field. -/
def dynamicCardSpec (title message : String) (helpTexts : List String)
    (choices : List DynamicChoice) (choiceResponseField : String) : Except Fault DynamicCardSpec :=
  if htitle : FitsLength 1 80 title then
    if hmessage : FitsLength 1 1200 message then
      if hhelp : helpTexts.length ≤ 8 then
        if hchoices : choices.length ≤ 8 then
          if hfield : FitsLength 1 80 choiceResponseField then
            if hplain : ∀ text ∈ cardTexts title message helpTexts choices,
                hasMarkup text = false then
              .ok ⟨title, message, helpTexts, choices, choiceResponseField, htitle, hmessage, hhelp,
                hchoices, hfield, hplain⟩
            else .error (.validationError "DynamicCardSpec" "")
          else .error (.validationError "DynamicCardSpec" "choice_response_field")
        else .error (.validationError "DynamicCardSpec" "choices")
      else .error (.validationError "DynamicCardSpec" "help_texts")
    else .error (.validationError "DynamicCardSpec" "message")
  else .error (.validationError "DynamicCardSpec" "title")

theorem dynamicChoice_eq_ok_iff {label value : String} {choice : DynamicChoice} :
    dynamicChoice label value = .ok choice ↔ choice.label = label ∧ choice.value = value := by
  unfold dynamicChoice
  constructor
  · intro h
    split at h
    · split at h
      · cases h
        exact ⟨rfl, rfl⟩
      · cases h
    · cases h
  · rintro ⟨rfl, rfl⟩
    rw [dif_pos choice.labelFits, dif_pos choice.valueFits]

theorem dynamicCardSpec_isOk_iff {title message : String} {helpTexts : List String}
    {choices : List DynamicChoice} {choiceResponseField : String} :
    (∃ spec, dynamicCardSpec title message helpTexts choices choiceResponseField = .ok spec) ↔
      FitsLength 1 80 title ∧ FitsLength 1 1200 message ∧ helpTexts.length ≤ 8 ∧
        choices.length ≤ 8 ∧ FitsLength 1 80 choiceResponseField ∧
        ∀ text ∈ cardTexts title message helpTexts choices, hasMarkup text = false := by
  unfold dynamicCardSpec
  constructor
  · rintro ⟨spec, h⟩
    split at h
    · split at h
      · split at h
        · split at h
          · split at h
            · split at h
              · exact ⟨‹_›, ‹_›, ‹_›, ‹_›, ‹_›, ‹_›⟩
              · cases h
            · cases h
          · cases h
        · cases h
      · cases h
    · cases h
  · rintro ⟨htitle, hmessage, hhelp, hchoices, hfield, hplain⟩
    rw [dif_pos htitle, dif_pos hmessage, dif_pos hhelp, dif_pos hchoices, dif_pos hfield,
      dif_pos hplain]
    exact ⟨_, rfl⟩

/-- A text component. -/
def textComponent (id text : String) : Json :=
  .obj [("id", .str id), ("component", .str "Text"), ("text", .str text)]

/-- The label of a choice, and the button that reports it under the id of its surface. -/
def choiceComponents (surfaceId responseField : String) (index : ℕ) (choice : DynamicChoice) :
    List Json :=
  let buttonId := "choice-" ++ toString index
  let labelId := buttonId ++ "-label"
  [textComponent labelId choice.label,
    .obj [("id", .str buttonId), ("component", .str "Button"), ("child", .str labelId),
      ("action", .obj [("event", .obj [("name", .str surfaceId),
        ("context", .obj [(responseField, .str choice.value)])])])]]

/-- The components of a card. -/
def compileDynamicCard (spec : DynamicCardSpec) (surfaceId : String) : List Json :=
  let helps := spec.helpTexts.zipIdx
  let choices := spec.choices.zipIdx
  let children :=
    ["title", "message"] ++ helps.map (fun p => "help-" ++ toString p.2) ++
      choices.map fun p => "choice-" ++ toString p.2
  [.obj [("id", .str "root"), ("component", .str "Card"), ("child", .str "content")],
    .obj [("id", .str "content"), ("component", .str "Column"),
      ("children", .arr (children.map Json.str))],
    .obj [("id", .str "title"), ("component", .str "Text"), ("text", .str spec.title),
      ("variant", .str "h3")],
    textComponent "message" spec.message] ++
    helps.map (fun p => textComponent ("help-" ++ toString p.2) p.1) ++
    choices.flatMap fun p => choiceComponents surfaceId spec.choiceResponseField p.2 p.1

/-! ### Interrupts -/

/-- The text of a kind. -/
def HITLEventKind.value : HITLEventKind → String
  | .clarificationRequired => "clarification.required"
  | .approvalRequired => "approval.required"

/-- The text of a status. -/
def HITLStatus.value : HITLStatus → String
  | .pending => "pending"
  | .answered => "answered"
  | .approved => "approved"
  | .rejected => "rejected"
  | .expired => "expired"
  | .cancelled => "cancelled"

/-- The text of a mode. -/
def ResumeMode.value : ResumeMode → String
  | .reinvoke => "reinvoke"
  | .checkpointResume => "checkpoint_resume"

/-- A question as JSON. -/
def ClarificationQuestion.json (question : ClarificationQuestion) : Json :=
  .obj [("field", .str question.field), ("question", .str question.question),
    ("choices", .arr (question.choices.map Json.str))]

/-- A decision as JSON. -/
def IntakeDecision.json (decision : IntakeDecision) : Json :=
  .obj [("intent", jsonText (decision.intent.map Intent.value)),
    ("clarification_questions",
      .arr (decision.clarificationQuestions.map ClarificationQuestion.json)),
    ("route", jsonText decision.route), ("ready_to_route", .bool decision.readyToRoute),
    ("mutation_requested", .bool decision.mutationRequested),
    ("approval_required", .bool decision.approvalRequired),
    ("unsupported_reason", jsonText decision.unsupportedReason),
    ("evidence", .arr (decision.evidence.map Json.str))]

/-- What interrupts a run. -/
structure Interrupt where
  id : String
  reason : String
  message : String
  responseSchema : Json
  metadata : Json

/-- The question an event asks. -/
def HITLEvent.question (event : HITLEvent) : Option ClarificationQuestion :=
  event.payload.clarificationQuestions.head?

/-- `_message_for`: the text of the question, or the kind where there is none. -/
def messageFor (event : HITLEvent) : String :=
  match event.question with
  | some question => question.question
  | none => event.kind.value

/-- The schema of one text. -/
def stringSchema : Json := .obj [("type", .str "string")]

/-- The schema of one of these choices; without choices, of any text. -/
def choiceSchema (choices : List String) : Json :=
  if choices = [] then stringSchema
  else .obj [("type", .str "string"), ("enum", .arr (choices.map Json.str))]

/-- `_response_schema_for`: a choice or a text, where there is a question. -/
def responseSchemaFor (event : HITLEvent) : Json :=
  match event.question with
  | some question =>
      .obj [("type", .str "object"),
        ("properties", .obj [("selected_choice", choiceSchema question.choices),
          ("value", stringSchema)]),
        ("additionalProperties", .bool false)]
  | none => .obj [("type", .str "object"), ("additionalProperties", .bool true)]

/-- `hitl_event_to_interrupt`. -/
def hitlEventToInterrupt (event : HITLEvent) : Interrupt where
  id := event.eventId
  reason := event.kind.value
  message := messageFor event
  responseSchema := responseSchemaFor event
  metadata := .obj [("platformops", .obj [("request_id", .str event.requestId),
    ("status", .str event.status.value), ("resume_mode", .str event.resumeMode.value),
    ("payload", event.payload.json)])]

/-- The elements of a list that are texts. -/
def Json.texts : Json → List String
  | .arr items => items.filterMap Json.asString
  | _ => []

/-- `_choice_field_and_enum`: the choices of an interrupt, if it has any. -/
def choiceFieldAndEnum (interrupt : Interrupt) : Option (String × List String) :=
  let schema := (interrupt.responseSchema.field "properties").bind (·.field "selected_choice")
  match schema.bind (·.field "enum") with
  | some choices => if choices.truthy then some ("selected_choice", choices.texts) else none
  | none => none

theorem texts_map_str (texts : List String) : (Json.arr (texts.map Json.str)).texts = texts := by
  simp only [Json.texts, List.filterMap_map]
  induction texts with
  | nil => rfl
  | cons text texts ih =>
      rw [List.filterMap_cons_some (by rfl), ih]

/-- The choices are read back from the schema. -/
theorem choiceFieldAndEnum_interrupt (event : HITLEvent) :
    choiceFieldAndEnum (hitlEventToInterrupt event) =
      match event.question with
      | some question =>
          if question.choices = [] then none else some ("selected_choice", question.choices)
      | none => none := by
  unfold choiceFieldAndEnum hitlEventToInterrupt responseSchemaFor
  cases event.question with
  | none => simp [Json.field, Json.asObject, Dict.get?_ofPairs, List.lookup_cons]
  | some question =>
      by_cases hchoices : question.choices = []
      · simp [Json.field, Json.asObject, Dict.get?_ofPairs, List.lookup_cons, choiceSchema, stringSchema,
          hchoices]
      · have hlist := texts_map_str question.choices
        simp [Json.field, Json.asObject, Dict.get?_ofPairs, List.lookup_cons, choiceSchema, hchoices,
          Json.truthy, hlist]

/-! ### Messages -/

/-- The version of the messages. -/
def a2uiVersion : String := "v0.9"

/-- The catalog the components are from. -/
def basicCatalogId : String := "https://a2ui.org/specification/v0_9/catalogs/basic/catalog.json"

/-- The help for the inputs of a static site. -/
def staticWebHelpTexts : List String :=
  ["Need help with these details?",
    "Built frontend package: where your compiled website files are stored, " ++
      "for example s3://releases/invoices-ui.tar.gz.",
    "Website address: the domain users should open, for example " ++ "invoices.dev.example.com.",
    "If you do not have a custom domain yet, say: use the generated " ++ "CloudFront URL for now.",
    "If you only have source code, say where it is, for example: GitHub repo " ++
      "org/invoices-ui on branch main."]

/-- `_create_surface`. -/
def createSurface (surfaceId : String) : Json :=
  .obj [("version", .str a2uiVersion),
    ("createSurface", .obj [("surfaceId", .str surfaceId), ("catalogId", .str basicCatalogId)])]

/-- `_update_components`. -/
def updateComponents (surfaceId : String) (components : List Json) : Json :=
  .obj [("version", .str a2uiVersion),
    ("updateComponents", .obj [("surfaceId", .str surfaceId), ("components", .arr components)])]

/-- `_help_texts_for`: help is offered for the inputs of an application only. -/
def helpTextsFor (event : HITLEvent) : List String :=
  if event.kind ≠ .clarificationRequired then []
  else
    match event.question with
    | some question => if question.field = "application_request" then staticWebHelpTexts else []
    | none => []

/-- `_card_spec_for`: the choices are validated one after another, and then the card. -/
def cardSpecFor (event : HITLEvent) (interrupt : Interrupt) : Except Fault DynamicCardSpec := do
  let title := if event.kind = .clarificationRequired then "Input needed" else "Approval required"
  let fieldAndEnum :=
    if event.kind = .clarificationRequired then choiceFieldAndEnum interrupt else none
  let (responseField, rawChoices) := fieldAndEnum.getD ("selected_choice", [])
  let choices ← rawChoices.mapM fun choice => dynamicChoice choice choice
  dynamicCardSpec title interrupt.message (helpTextsFor event) choices responseField

/-- `hitl_event_to_a2ui_messages`. -/
def hitlEventToA2uiMessages (event : HITLEvent) : Except Fault (List Json) := do
  let spec ← cardSpecFor event (hitlEventToInterrupt event)
  pure [createSurface event.eventId,
    updateComponents event.eventId (compileDynamicCard spec event.eventId)]

/-- The event is shown. -/
def Renders (event : HITLEvent) : Prop := ∃ messages, hitlEventToA2uiMessages event = .ok messages

/-- A text fits a card: it is not too long, and has no angle bracket. -/
def FitsCard (text : String) : Prop := PlainWithin 1200 text

/-- A question fits a card. -/
structure ClarificationQuestion.Fits (question : ClarificationQuestion) : Prop where
  nonempty : question.question ≠ ""
  text : FitsCard question.question
  fewChoices : question.choices.length ≤ 8
  choices : ∀ choice ∈ question.choices, FitsLength 1 80 choice ∧ hasMarkup choice = false

/-- The choices are valid exactly if each is short enough for a label. -/
theorem mapM_dynamicChoice_isOk_iff {texts : List String} :
    (∃ choices, texts.mapM (fun text => dynamicChoice text text) = .ok choices) ↔
      ∀ text ∈ texts, FitsLength 1 80 text := by
  induction texts with
  | nil => simp [pure, Except.pure]
  | cons text texts ih =>
      simp only [List.mapM_cons, bind_eq_ok_iff, List.forall_mem_cons, ← ih]
      constructor
      · rintro ⟨choices, choice, hchoice, rest, hrest, -⟩
        have hlabel := (dynamicChoice_eq_ok_iff.1 hchoice).1
        exact ⟨hlabel ▸ choice.labelFits, rest, hrest⟩
      · rintro ⟨hfits, rest, hrest⟩
        have hvalue : FitsLength 1 120 text := ⟨hfits.1, hfits.2.trans (by omega)⟩
        exact ⟨_, ⟨text, text, hfits, hvalue⟩, dynamicChoice_eq_ok_iff.2 ⟨rfl, rfl⟩, rest, hrest,
          rfl⟩

/-- The choices carry the texts as their labels. -/
theorem labels_of_mapM_dynamicChoice {texts : List String} {choices : List DynamicChoice}
    (h : texts.mapM (fun text => dynamicChoice text text) = .ok choices) :
    choices.map DynamicChoice.label = texts := by
  induction texts generalizing choices with
  | nil =>
      cases h
      rfl
  | cons text texts ih =>
      simp only [List.mapM_cons, bind_eq_ok_iff] at h
      obtain ⟨choice, hchoice, rest, hrest, hlist⟩ := h
      cases hlist
      rw [List.map_cons, ih hrest, (dynamicChoice_eq_ok_iff.1 hchoice).1]

/-- Two pieces of a text, neither of them long. -/
theorem plain_two_pieces (chars chars' : List Char)
    (h : (chars.length ≤ 100 ∧ (chars.any fun c => c = '<' || c = '>') = false) ∧
      chars'.length ≤ 100 ∧ (chars'.any fun c => c = '<' || c = '>') = false) :
    PlainWithin 200 (String.ofList chars ++ String.ofList chars') :=
  (PlainWithin.ofList chars h.1).append (.ofList chars' h.2)

theorem staticWebHelpTexts_fit :
    staticWebHelpTexts.length ≤ 8 ∧ ∀ text ∈ staticWebHelpTexts, hasMarkup text = false := by
  have hfirst : PlainWithin 100 "Need help with these details?" := .ofList _ (by decide)
  refine ⟨by decide, ?_⟩
  simp only [staticWebHelpTexts, List.forall_mem_cons, List.not_mem_nil, false_imp_iff,
    implies_true, and_true]
  exact ⟨hfirst.2, (plain_two_pieces _ _ (by decide)).2, (plain_two_pieces _ _ (by decide)).2,
    (plain_two_pieces _ _ (by decide)).2, (plain_two_pieces _ _ (by decide)).2⟩

theorem helpTextsFor_fit (event : HITLEvent) :
    (helpTextsFor event).length ≤ 8 ∧ ∀ text ∈ helpTextsFor event, hasMarkup text = false := by
  have hnone : ([] : List String).length ≤ 8 ∧
      ∀ text ∈ ([] : List String), hasMarkup text = false :=
    ⟨by simp, by simp⟩
  unfold helpTextsFor
  split
  · exact hnone
  · cases event.question with
    | none => exact hnone
    | some question =>
        dsimp only
        split
        · exact staticWebHelpTexts_fit
        · exact hnone

/-- The card of an event is built from its message and the labels of its choices. -/
theorem renders_iff_card (event : HITLEvent) (rawChoices : List String)
    (hchoices : (choiceFieldAndEnum (hitlEventToInterrupt event)).getD ("selected_choice", []) =
      ("selected_choice", rawChoices)) :
    Renders event ↔ FitsLength 1 1200 (messageFor event) ∧ hasMarkup (messageFor event) = false ∧
      rawChoices.length ≤ 8 ∧
      ∀ choice ∈ rawChoices, FitsLength 1 80 choice ∧ hasMarkup choice = false := by
  obtain ⟨hhelp, hhelpPlain⟩ := helpTextsFor_fit event
  have htitle : FitsLength 1 80 "Input needed" ∧ hasMarkup "Input needed" = false := by decide
  have hfield : FitsLength 1 80 "selected_choice" := by decide
  have hcard : Renders event ↔ ∃ choices,
      rawChoices.mapM (fun choice => dynamicChoice choice choice) = .ok choices ∧
        ∃ spec, dynamicCardSpec "Input needed" (messageFor event) (helpTextsFor event) choices
          "selected_choice" = .ok spec := by
    unfold Renders hitlEventToA2uiMessages cardSpecFor
    simp only [bind_eq_ok_iff, event.agrees.1, if_true, hchoices]
    constructor
    · rintro ⟨messages, spec, ⟨choices, hmap, hspec⟩, -⟩
      exact ⟨choices, hmap, spec, hspec⟩
    · rintro ⟨choices, hmap, spec, hspec⟩
      exact ⟨_, spec, ⟨choices, hmap, hspec⟩, rfl⟩
  rw [hcard]
  constructor
  · rintro ⟨choices, hmap, hspec⟩
    obtain ⟨-, hmessage, -, hcount, -, hplain⟩ := dynamicCardSpec_isOk_iff.1 hspec
    have hlabels := labels_of_mapM_dynamicChoice hmap
    have hfits := mapM_dynamicChoice_isOk_iff.1 ⟨choices, hmap⟩
    rw [cardTexts, hlabels] at hplain
    refine ⟨hmessage, hplain _ (by simp), ?_, fun choice hmem => ⟨hfits choice hmem, ?_⟩⟩
    · rw [← hlabels, List.length_map]
      exact hcount
    · exact hplain choice (by simp [hmem])
  · rintro ⟨hmessage, hplain, hcount, hfits⟩
    obtain ⟨choices, hmap⟩ := mapM_dynamicChoice_isOk_iff.2 fun choice hmem => (hfits choice hmem).1
    have hlabels := labels_of_mapM_dynamicChoice hmap
    refine ⟨choices, hmap, dynamicCardSpec_isOk_iff.2
      ⟨htitle.1, hmessage, hhelp, ?_, hfield, ?_⟩⟩
    · rw [← hlabels, List.length_map] at hcount
      exact hcount
    · intro text hmem
      rw [cardTexts, hlabels] at hmem
      rcases List.mem_append.1 hmem with hmem | hmem
      · rcases List.mem_append.1 hmem with hmem | hmem
        · rcases List.mem_pair.1 hmem with rfl | rfl
          · exact htitle.2
          · exact hplain
        · exact hhelpPlain text hmem
      · exact (hfits text hmem).2

/-- **An event is shown exactly if its question fits a card**; an event without a question is. -/
theorem renders_iff (event : HITLEvent) :
    Renders event ↔ ∀ question, event.question = some question → question.Fits := by
  have henum := choiceFieldAndEnum_interrupt event
  cases hquestion : event.question with
  | none =>
      rw [hquestion] at henum
      have hcard := renders_iff_card event [] (by rw [henum]; rfl)
      have hmessage : messageFor event = "clarification.required" := by
        simp [messageFor, hquestion, event.agrees.1, HITLEventKind.value]
      rw [hmessage] at hcard
      constructor
      · intro _ question h
        cases h
      · intro _
        exact hcard.2 ⟨by decide, by decide, by simp, by simp⟩
  | some question =>
      rw [hquestion] at henum
      have hcard := renders_iff_card event question.choices (by
        rw [henum]
        by_cases hnone : question.choices = []
        · simp [hnone]
        · simp [hnone])
      have hmessage : messageFor event = question.question := by simp [messageFor, hquestion]
      rw [hmessage] at hcard
      constructor
      · rintro h question' hquestion'
        cases hquestion'
        obtain ⟨hlength, hplain, hcount, hfits⟩ := hcard.1 h
        exact ⟨one_le_length_iff.1 hlength.1, ⟨hlength.2, hplain⟩, hcount, hfits⟩
      · intro h
        obtain ⟨hnonempty, ⟨hlength, hplain⟩, hcount, hfits⟩ := h question rfl
        exact hcard.2 ⟨⟨one_le_length_iff.2 hnonempty, hlength⟩, hplain, hcount, hfits⟩

/-! ### The questions of the workflows -/

/-- A tool call of this model words a question like this. -/
def Words (model : Model) (text : String) : Prop :=
  ∃ prompt response call args, model prompt = .ok response ∧ call ∈ response.toolCalls ∧
    call.args.asObject = some args ∧ args.get? "clarifying_question" = some (.str text)

/-- The text of a question that has a default. -/
inductive Worded (model : Model) (default : String) : String → Prop
  | default : Worded model default default
  | words (text : String) (nonempty : text ≠ "") (h : Words model text) : Worded model default text

/-- The questions the workflows ask with this model. -/
inductive HarnessQuestion (model : Model) : ClarificationQuestion → Prop
  | intent (text : String) (h : Worded model defaultIntentQuestion text) :
      HarnessQuestion model (clarification text)
  | scope : HarnessQuestion model scopeQuestion
  | profile : HarnessQuestion model profileQuestion
  | application (text : String) (h : Worded model staticWebInputQuestion text) :
      HarnessQuestion model ⟨"application_request", text, []⟩

/-- The text of a question is the default one, or one the model gave. -/
theorem questionText_cases {given : Option Json} {default text : String}
    (h : questionText given default = .ok text) :
    text = default ∨ given = some (.str text) ∧ text ≠ "" := by
  unfold questionText at h
  cases given with
  | none =>
      cases h
      exact Or.inl rfl
  | some v =>
      dsimp only at h
      split at h
      · rename_i htruthy
        split at h
        · cases h
          exact Or.inr ⟨rfl, by simpa [Json.truthy] using htruthy⟩
        · cases h
      · cases h
        exact Or.inl rfl

theorem Worded.of_questionText {model : Model} {prompt : List (String × String)}
    {response : AIMessage} (hmodel : model prompt = .ok response) {call : ToolCall}
    (hcall : call ∈ response.toolCalls) {args : Dict String Json}
    (hargs : call.args.asObject = some args) {default text : String}
    (h : questionText (args.get? "clarifying_question") default = .ok text) :
    Worded model default text := by
  rcases questionText_cases h with rfl | ⟨hgiven, hnonempty⟩
  · exact .default
  · exact .words text hnonempty ⟨prompt, response, call, args, hmodel, hcall, hargs, hgiven⟩

theorem Worded.nonempty {model : Model} {default text : String} (h : Worded model default text)
    (hdefault : default ≠ "") : text ≠ "" := by
  cases h with
  | default => exact hdefault
  | words text hnonempty h => exact hnonempty

/-- The intake asks one of these questions. -/
theorem intakeRequest_question {request : IntakeRequest} {model : Model}
    {decision : IntakeDecision} (h : intakeRequest request model = .ok decision)
    (hasks : decision.clarificationQuestions ≠ []) :
    ∃ question, decision.clarificationQuestions = [question] ∧ HarnessQuestion model question := by
  obtain ⟨classified, hclassified, rfl⟩ := map_eq_ok_iff.1 h
  rw [clarificationQuestions_resolveRoute] at hasks ⊢
  have hdone : ∀ text, classified = askedDecision text → Worded model defaultIntentQuestion text →
      ∃ question, classified.clarificationQuestions = [question] ∧
        HarnessQuestion model question := by
    rintro text rfl hworded
    exact ⟨clarification text, rfl, .intent text hworded⟩
  unfold classifyWorkflow at hclassified
  split at hclassified
  · cases hclassified
    exact absurd rfl hasks
  · obtain ⟨response, hmodel, hread⟩ := bind_eq_ok_iff.1 hclassified
    unfold readIntentResponse at hread
    split at hread
    · cases hread
      exact hdone _ rfl .default
    · rename_i call calls hcalls
      have hcall : call ∈ response.toolCalls := by simp [hcalls]
      unfold readIntentCall at hread
      split at hread
      · cases hread
      · rename_i args hargs
        split at hread
        · cases hread
          exact absurd rfl hasks
        · obtain ⟨text, htext, rfl⟩ := map_eq_ok_iff.1 hread
          exact hdone text rfl (.of_questionText hmodel hcall hargs htext)

/-- The draft asks one of these questions, if it asks. -/
def ProvisionDraft.AsksWell (model : Model) (draft : ProvisionDraft) : Prop :=
  draft.clarificationQuestions ≠ [] → ∃ question, draft.clarificationQuestions = [question] ∧
    HarnessQuestion model question

theorem asksWell_ask {model : Model} {question : ClarificationQuestion}
    (h : HarnessQuestion model question) (draft : ProvisionDraft) :
    (draft.ask question).AsksWell model := fun _ => ⟨question, rfl, h⟩

theorem resolveScopeNode_asksWell (model : Model) (known : List Scope)
    (grants : List ExecutionGrant) (invocation : ProvisionInvocation) :
    (resolveScopeNode known grants invocation).AsksWell model := by
  unfold resolveScopeNode
  cases hscope : resolveScope invocation.scopeHint known grants with
  | resolved scope => exact fun hne => absurd rfl hne
  | unavailable reason => exact fun hne => absurd rfl hne
  | clarificationRequired question =>
      have hquestion : question = scopeQuestion := by
        unfold resolveScope at hscope
        split at hscope
        · cases hscope
          rfl
        · split at hscope
          · cases hscope
          · cases hscope
      rw [hquestion]
      exact asksWell_ask .scope _

theorem selectProfile_asksWell {model : Model} {invocation : ProvisionInvocation}
    {draft next : ProvisionDraft} (hdraft : draft.AsksWell model)
    (h : selectProfile model invocation draft = .ok next) : next.AsksWell model := by
  obtain ⟨response, -, hread⟩ := bind_eq_ok_iff.1 h
  have hprofile : (draft.ask profileQuestion).AsksWell model := asksWell_ask .profile draft
  unfold readSelection at hread
  split at hread
  · split at hread
    · split at hread
      · cases hread
      · split at hread
        · cases hread
          exact hdraft
        · cases hread
          exact hprofile
    · cases hread
      exact hprofile
  · cases hread
    exact hprofile

theorem extractProfileRequest_asksWell {model : Model} {invocation : ProvisionInvocation}
    {draft next : ProvisionDraft} (hdraft : draft.AsksWell model)
    (h : extractProfileRequest model invocation draft = .ok next) : next.AsksWell model := by
  obtain ⟨response, hmodel, hread⟩ := bind_eq_ok_iff.1 h
  have hdone : ∀ given : Option Json, (∀ text, questionText given staticWebInputQuestion =
      .ok text → Worded model staticWebInputQuestion text) →
      askApplication draft given = .ok next → next.AsksWell model := by
    intro given hgiven hask
    obtain ⟨text, htext, rfl⟩ := map_eq_ok_iff.1 hask
    exact asksWell_ask (.application text (hgiven text htext)) draft
  unfold readExtraction at hread
  split at hread
  · rename_i call hcalls
    have hcall : call ∈ response.toolCalls := by simp [hcalls]
    have hworded : ∀ text, questionText
        ((call.args.asObject.getD .empty).get? "clarifying_question") staticWebInputQuestion =
        .ok text → Worded model staticWebInputQuestion text := by
      intro text htext
      cases hargs : call.args.asObject with
      | none =>
          rw [hargs, Option.getD_none, Dict.get?_empty] at htext
          cases htext
          exact .default
      | some args =>
          rw [hargs] at htext
          exact .of_questionText hmodel hcall hargs htext
    dsimp only at hread
    split at hread
    · exact hdone _ hworded hread
    · split at hread
      · cases hread
        exact hdraft
      · exact hdone _ hworded hread
  · refine hdone none (fun text htext => ?_) hread
    cases htext
    exact .default

/-- The provision workflow asks one of these questions. -/
theorem prepareProvisionRequest_asksWell {invocation : ProvisionInvocation} {model : Model}
    {known : List Scope} {grants : List ExecutionGrant} {draft : ProvisionDraft}
    (h : prepareProvisionRequest invocation model known grants = .ok draft) :
    draft.AsksWell model := by
  have hscope := resolveScopeNode_asksWell model known grants invocation
  unfold prepareProvisionRequest at h
  dsimp only at h
  split at h
  · cases h
    exact hscope
  · obtain ⟨selected, hselect, hrest⟩ := bind_eq_ok_iff.1 h
    have hselected := selectProfile_asksWell hscope hselect
    split at hrest
    · cases hrest
      exact hselected
    · exact extractProfileRequest_asksWell hselected hrest

/-- **The payload of a question of the harness is one question of the workflows**, asked with the
model that was answered. -/
theorem asksWith_question {i : Await} {answer : Answer} {payload : IntakeDecision}
    (h : i.asksWith answer payload) :
    ∃ model question, answer = .ok model ∧ payload.clarificationQuestions = [question] ∧
      HarnessQuestion model question := by
  cases i with
  | intake request =>
      obtain ⟨hdecision, hasks⟩ := h
      obtain ⟨model, rfl, hintake⟩ := bind_eq_ok_iff.1 hdecision
      obtain ⟨question, hquestion, hharness⟩ := intakeRequest_question hintake hasks
      exact ⟨model, question, rfl, hquestion, hharness⟩
  | provision invocation grants =>
      obtain ⟨draft, hdraft, hasks, rfl⟩ := h
      obtain ⟨model, rfl, hprepare⟩ := bind_eq_ok_iff.1 hdraft
      obtain ⟨question, hquestion, hharness⟩ := prepareProvisionRequest_asksWell hprepare hasks
      exact ⟨model, question, rfl, hquestion, hharness⟩

theorem candidates_fit : candidates.length ≤ 8 ∧
    ∀ choice ∈ candidates, FitsLength 1 80 choice ∧ hasMarkup choice = false := by
  decide

theorem profile_fits : [awsStaticWeb].length ≤ 8 ∧
    ∀ choice ∈ [awsStaticWeb], FitsLength 1 80 choice ∧ hasMarkup choice = false := by
  decide

theorem defaultIntentQuestion_fits : FitsCard defaultIntentQuestion :=
  (PlainWithin.ofList _ (by decide) : PlainWithin 100 _).mono (by omega)

theorem staticWebInputQuestion_fits : FitsCard staticWebInputQuestion :=
  ((plain_two_pieces _ _ (by decide)).append
    (.ofList _ (by decide) : PlainWithin 100 _)).mono (by omega)

/-- **A question of the workflows fits a card exactly if its text does.** -/
theorem HarnessQuestion.fits_iff {model : Model} {question : ClarificationQuestion}
    (h : HarnessQuestion model question) : question.Fits ↔ FitsCard question.question := by
  refine ⟨fun hfits => hfits.text, fun htext => ?_⟩
  cases h with
  | intent text h =>
      exact ⟨h.nonempty (by decide), htext, candidates_fit.1, candidates_fit.2⟩
  | scope => exact ⟨by decide, htext, by decide, by simp [scopeQuestion]⟩
  | profile => exact ⟨by decide, htext, profile_fits.1, profile_fits.2⟩
  | application text h => exact ⟨h.nonempty (by decide), htext, by simp, by simp⟩

/-- Only a text that the model words can fail to fit. -/
theorem HarnessQuestion.fits_of_words {model : Model} {question : ClarificationQuestion}
    (h : HarnessQuestion model question) (hwords : ∀ text, Words model text → FitsCard text) :
    FitsCard question.question := by
  cases h with
  | intent text h =>
      cases h with
      | default => exact defaultIntentQuestion_fits
      | words text hnonempty h => exact hwords text h
  | scope => exact (PlainWithin.ofList _ (by decide) : PlainWithin 100 _).mono (by omega)
  | profile => exact (PlainWithin.ofList _ (by decide) : PlainWithin 100 _).mono (by omega)
  | application text h =>
      cases h with
      | default => exact staticWebInputQuestion_fits
      | words text hnonempty h => exact hwords text h

/-! ### The questions of a run -/

/-- The question the step returns, if it returns one, is shown. -/
def ShowsQuestions (env : HarnessEnv) (p : HarnessPool) (e : HarnessStep) : Prop :=
  ∀ call event, ReturnsQuestion env p e call event → Renders event

/-- The step answers a waiting call so that its workflow asks with a text that does not fit a card,
and the event that asks is constructed. -/
def AsksUnshowable (env : HarnessEnv) (p : HarnessPool) (e : HarnessStep) : Prop :=
  ∃ n answer call i k payload, e = .deliver n answer ∧
    p.tasks[n]? = some ⟨call, .waiting i k⟩ ∧ i.asksWith answer payload ∧
    (∃ question ∈ payload.clarificationQuestions, ¬ FitsCard question.question) ∧
    env.eventFault (p.world.minted + 1) = none

variable {env : HarnessEnv}

/-- A step shows its question exactly if it does not ask with a text that does not fit. -/
theorem showsQuestions_iff (now : ℕ) (steps : List HarnessStep) (e : HarnessStep) :
    ShowsQuestions env (harnessRun env now steps) e ↔
      ¬ AsksUnshowable env (harnessRun env now steps) e := by
  constructor
  · rintro hshows ⟨n, answer, call, i, k, payload, rfl, htask, hasks, ⟨question, hmem, hno⟩, hfault⟩
    obtain ⟨round, -, hin⟩ := inRound_of_waiting htask
    obtain ⟨scopeHint, work, -, hrun⟩ := run_asks hin hasks (harnessRun env now steps).world
    have hreturns : ReturnsQuestion env (harnessRun env now steps) (.deliver n answer) call
        (questionEvent env (harnessRun env now steps).world call.actor call.requestId payload) := by
      refine ⟨_, .deliver answer htask, ?_⟩
      rw [hrun]
      simp only [constructed, hfault]
    obtain ⟨model, question', -, hquestion, hharness⟩ := asksWith_question hasks
    have hfits := (renders_iff _).1 (hshows _ _ hreturns) question' (by
      simp [HITLEvent.question, questionEvent, clarificationEvent, hquestion])
    rw [hquestion, List.mem_singleton] at hmem
    exact hno (hmem ▸ hfits.text)
  · intro hno call event hreturns
    obtain ⟨n, answer, i, k, payload, scopeHint, work, rfl, htask, hasks, -, rfl, -⟩ :=
      returnsQuestion_spec hreturns
    obtain ⟨model, question, -, hquestion, hharness⟩ := asksWith_question hasks
    rw [renders_iff]
    intro question' hquestion'
    have hsame : question' = question := by
      simpa [HITLEvent.question, questionEvent, clarificationEvent, hquestion] using hquestion'.symm
    subst hsame
    rw [hharness.fits_iff]
    by_contra hfits
    refine hno ⟨n, answer, call, i, k, payload, rfl, htask, hasks, ⟨question', by simp [hquestion],
      hfits⟩, ?_⟩
    -- an event that was returned was constructed
    obtain ⟨c, hruns, hreturned⟩ := hreturns
    obtain ⟨round, -, hin⟩ := inRound_of_waiting htask
    obtain ⟨scopeHint', work', -, hrun⟩ := run_asks hin hasks (harnessRun env now steps).world
    rw [(hruns.unique (.deliver answer htask)).2, hrun] at hreturned
    cases hfault : env.eventFault ((harnessRun env now steps).world.minted + 1) with
    | none => rfl
    | some fault =>
        simp only [constructed, hfault] at hreturned
        cases hreturned

/-- **The questions of a run are shown exactly if no step asks with a text that does not fit a
card**, as is the case if no model words such a text. -/
theorem questions_shown_iff (now : ℕ) (steps : List HarnessStep) :
    ((harness env).Throughout (ShowsQuestions env) ⟨.initial now, []⟩ steps ↔
        (harness env).Throughout (fun p e => ¬ AsksUnshowable env p e) ⟨.initial now, []⟩ steps) ∧
      ((∀ n model, Step.deliver n (.ok model) ∈ steps → ∀ text, Words model text → FitsCard text) →
        (harness env).Throughout (ShowsQuestions env) ⟨.initial now, []⟩ steps) := by
  have hiff : (harness env).Throughout (ShowsQuestions env) ⟨.initial now, []⟩ steps ↔
      (harness env).Throughout (fun p e => ¬ AsksUnshowable env p e) ⟨.initial now, []⟩ steps :=
    System.throughout_run_congr (showsQuestions_iff now) steps
  refine ⟨hiff, fun hwords => hiff.2 (System.throughout_iff.2 ?_)⟩
  rintro pre e post rfl ⟨n, answer, call, i, k, payload, rfl, -, hasks, ⟨question, hmem, hno⟩, -⟩
  obtain ⟨model, question', rfl, hquestion, hharness⟩ := asksWith_question hasks
  rw [hquestion, List.mem_singleton] at hmem
  exact hno (hmem ▸ hharness.fits_of_words (hwords n model (by simp)))

/-- A model that words its question in bold. -/
def boldModel : Model := fun _ =>
  .ok ⟨[.ofPairs [("name", .str "select_intent"),
    ("args", .obj [("clarifying_question", .str "<b>which app?</b>")])]]⟩

/-- The question of that model. -/
def boldQuestion : HITLEvent :=
  questionEvent countingEnv (.initial 0) (hourSession "alice") "thread"
    (askedDecision "<b>which app?</b>")

/-- A run that asks this model. -/
def boldRun : List HarnessStep :=
  [.spawn (.start (hourSession "alice") "thread" "set this up" none), .deliver 0 (.ok boldModel)]

/-- **A question can be stored that is never shown**: the model worded it with a tag, the harness
returned its event, its entry is in the table, and its card is not valid. -/
theorem bold_question_not_shown :
    ReturnsQuestion countingEnv (harnessRun countingEnv 0 (boldRun.take 1))
        (.deliver 0 (.ok boldModel)) (.start (hourSession "alice") "thread" "set this up" none)
        boldQuestion ∧
      (harnessRun countingEnv 0 boldRun).world.pending.get? "thread" =
        some (intakePending "0" "alice") ∧
      hitlEventToA2uiMessages boldQuestion = .error (.validationError "DynamicCardSpec" "") ∧
      ¬ (harness countingEnv).Throughout (ShowsQuestions countingEnv) ⟨.initial 0, []⟩ boldRun := by
  have hreturns : ReturnsQuestion countingEnv (harnessRun countingEnv 0 (boldRun.take 1))
      (.deliver 0 (.ok boldModel)) (.start (hourSession "alice") "thread" "set this up" none)
      boldQuestion := ⟨_, .deliver _ rfl, rfl⟩
  have herror : hitlEventToA2uiMessages boldQuestion =
      .error (.validationError "DynamicCardSpec" "") := rfl
  refine ⟨hreturns, by decide, herror, fun h => ?_⟩
  have hshows := System.throughout_iff.1 h (boldRun.take 1) (.deliver 0 (.ok boldModel)) [] rfl
  obtain ⟨messages, hmessages⟩ := hshows _ _ hreturns
  rw [herror] at hmessages
  cases hmessages

end PlatformOps
