/-
**The buttons of a clarification.**

A clarification is shown with one button for each choice.  Four parts of the program have to agree
for a click to answer it: the card names the event of a button, the frame that ends the run
announces the interrupt and its schema, and the endpoint reads the answer out of what is sent back.
This module reads the messages and the frame as a client does, by the fields of their components,
and follows a click through all four.

Main definitions:

* `Interaction.componentsOf`, `Interaction.buttonsOf`, `Interaction.labelOf` — the components of the
  messages, the buttons among them, and the text a button is labelled with;
* `Interaction.clickName`, `Interaction.clickContext` — what a click on a button reports;
* `Interaction.RoundTrips` — a click answers the interrupt of a frame with this choice.

Main results:

* `Interaction.buttonsOf_compileDynamicCard`, `Interaction.labelIn_choiceButton` — a card has one
  button for each choice, which is labelled with it;
* `Interaction.buttons_round_trip` — **the buttons are the choices, in order, and a click on each is
  read as its choice**.
-/

import PlatformOps.InteractionEvents
import PlatformOps.RunsEndpoint

set_option relaxedAutoImplicit false
set_option autoImplicit false

namespace PlatformOps.Interaction

/-! ### Reading the messages -/

/-- The text under a key. -/
def textAt (v : Json) (key : String) : Option String := (v.field key).bind Json.asString

/-- The components of a message. -/
def componentsIn (message : Json) : List Json :=
  match (message.field "updateComponents").bind (·.field "components") with
  | some (.arr components) => components
  | _ => []

/-- The components of the messages. -/
def componentsOf (messages : List Json) : List Json := messages.flatMap componentsIn

/-- The component is a button. -/
def isButton (component : Json) : Bool := textAt component "component" = some "Button"

/-- The buttons of the messages. -/
def buttonsOf (messages : List Json) : List Json := (componentsOf messages).filter isButton

/-- The component with this id. -/
def componentWithId (components : List Json) (id : String) : Option Json :=
  components.find? fun component => textAt component "id" = some id

/-- The text of the component a button refers to. -/
def labelIn (components : List Json) (button : Json) : Option String :=
  ((textAt button "child").bind (componentWithId components)).bind (textAt · "text")

/-- The label of a button. -/
def labelOf (messages : List Json) (button : Json) : Option String :=
  labelIn (componentsOf messages) button

/-- The name of the event a click reports. -/
def clickName (button : Json) : Option String :=
  ((button.field "action").bind (·.field "event")).bind (textAt · "name")

/-- The context of the event a click reports. -/
def clickContext (button : Json) : Option Json :=
  ((button.field "action").bind (·.field "event")).bind (·.field "context")

/-- **A click answers the interrupt of a frame with this choice**: it reports this id, which is that
of the one interrupt that is announced, its context conforms to the schema of this interrupt, and a
resume with the id and the context is read as the choice. -/
def RoundTrips (frame : Json) (id : String) (button : Json) (choice : String) : Prop :=
  ∃ interrupt schema context, announcedInterrupts frame = [interrupt] ∧
    interrupt.field "id" = some (.str id) ∧ interrupt.field "responseSchema" = some schema ∧
    clickName button = some id ∧ clickContext button = some context ∧
    Json.Conforms schema context ∧ extractAnswer [⟨id, context⟩] = .ok (id, .str choice)

/-! ### Ids -/

/-- The id of the button of a choice. -/
def buttonId (index : ℕ) : String := "choice-" ++ toString index

/-- The id of the label of a choice. -/
def labelId (index : ℕ) : String := buttonId index ++ "-label"

/-- The button of a choice. -/
def choiceButton (surfaceId responseField : String) (index : ℕ) (choice : DynamicChoice) : Json :=
  .obj [("id", .str (buttonId index)), ("component", .str "Button"),
    ("child", .str (labelId index)),
    ("action", .obj [("event", .obj [("name", .str surfaceId),
      ("context", .obj [(responseField, .str choice.value)])])])]

theorem choiceComponents_eq (surfaceId responseField : String) (index : ℕ)
    (choice : DynamicChoice) :
    choiceComponents surfaceId responseField index choice =
      [textComponent (labelId index) choice.label,
        choiceButton surfaceId responseField index choice] := rfl

theorem buttonId_toList (index : ℕ) :
    (buttonId index).toList = "choice-".toList ++ (toString index).toList :=
  String.toList_append

theorem labelId_toList (index : ℕ) :
    (labelId index).toList =
      "choice-".toList ++ ((toString index).toList ++ "-label".toList) := by
  rw [labelId, String.toList_append, buttonId_toList, List.append_assoc]

theorem labelId_injective {index index' : ℕ} (h : labelId index = labelId index') :
    index = index' := by
  have hlist := congrArg String.toList h
  rw [labelId_toList, labelId_toList, List.append_cancel_left_eq, List.append_cancel_right_eq]
    at hlist
  exact toString_nat_inj (String.toList_inj.1 hlist)

/-- The id of a button is not that of a label: it ends in a digit. -/
theorem buttonId_ne_labelId (index index' : ℕ) : buttonId index ≠ labelId index' := by
  intro h
  have hlist := congrArg String.toList h
  rw [buttonId_toList, labelId_toList, List.append_cancel_left_eq] at hlist
  have hmem : 'l' ∈ (toString index).toList := by
    rw [hlist]
    exact List.mem_append_right _ (by decide)
  have hnumeric := (NumberText.ofNat index).numeric 'l' hmem
  exact absurd hnumeric (by decide)

/-- The id of a help text is not that of a label. -/
theorem helpId_ne_labelId (index index' : ℕ) : "help-" ++ toString index ≠ labelId index' := by
  intro h
  have hlist := congrArg String.toList h
  rw [String.toList_append, labelId_toList] at hlist
  have hhead := congrArg List.head? hlist
  exact absurd hhead (by simp)

/-! ### The card of an event -/

variable {spec : DynamicCardSpec} {surfaceId : String}

theorem textAt_obj {fields : List (String × Json)} (h : (fields.map Prod.fst).Nodup)
    {key text : String} (hmem : (key, .str text) ∈ fields) :
    textAt (.obj fields) key = some text := by
  rw [textAt, (Json.field_obj_eq_some_iff h).2 hmem]
  rfl

theorem not_isButton_textComponent (id text : String) :
    isButton (textComponent id text) = false := by
  have hcomponent : textAt (textComponent id text) "component" = some "Text" :=
    textAt_obj (by simp) (by simp)
  simp [isButton, hcomponent]

theorem isButton_choiceButton (responseField : String) (index : ℕ) (choice : DynamicChoice) :
    isButton (choiceButton surfaceId responseField index choice) = true := by
  have hcomponent : textAt (choiceButton surfaceId responseField index choice) "component" =
      some "Button" := textAt_obj (by simp) (by simp)
  simp [isButton, hcomponent]

/-- **A card has one button for each choice, in order.** -/
theorem buttonsOf_compileDynamicCard :
    (compileDynamicCard spec surfaceId).filter isButton =
      spec.choices.zipIdx.map fun p =>
        choiceButton surfaceId spec.choiceResponseField p.2 p.1 := by
  have hroot : isButton (.obj [("id", .str "root"), ("component", .str "Card"),
      ("child", .str "content")]) = false := by decide
  have hcontent : ∀ children, isButton (.obj [("id", .str "content"), ("component", .str "Column"),
      ("children", .arr children)]) = false := by
    intro children
    have hcomponent : textAt (.obj [("id", .str "content"), ("component", .str "Column"),
        ("children", .arr children)]) "component" = some "Column" :=
      textAt_obj (by simp) (by simp)
    simp [isButton, hcomponent]
  have htitle : isButton (.obj [("id", .str "title"), ("component", .str "Text"),
      ("text", .str spec.title), ("variant", .str "h3")]) = false := by
    have hcomponent : textAt (.obj [("id", .str "title"), ("component", .str "Text"),
        ("text", .str spec.title), ("variant", .str "h3")]) "component" = some "Text" :=
      textAt_obj (by simp) (by simp)
    simp [isButton, hcomponent]
  have hhelps : ((spec.helpTexts.zipIdx).map fun p =>
      textComponent ("help-" ++ toString p.2) p.1).filter isButton = [] := by
    rw [List.filter_eq_nil_iff]
    intro component hmem
    obtain ⟨p, -, rfl⟩ := List.mem_map.1 hmem
    simp [not_isButton_textComponent]
  unfold compileDynamicCard
  simp only [List.filter_append, hhelps, List.filter_flatMap, choiceComponents_eq]
  simp [hroot, hcontent, htitle, not_isButton_textComponent, isButton_choiceButton,
    List.map_eq_flatMap]

/-- The label of a choice is the only component with its id. -/
theorem eq_label_of_id {index : ℕ} {choice : DynamicChoice}
    (h : (choice, index) ∈ spec.choices.zipIdx) {component : Json}
    (hmem : component ∈ compileDynamicCard spec surfaceId)
    (hid : textAt component "id" = some (labelId index)) :
    component = textComponent (labelId index) choice.label := by
  have hfixed : ∀ id : String, (id ≠ labelId index) → ∀ fields : List (String × Json),
      (fields.map Prod.fst).Nodup → ("id", Json.str id) ∈ fields → component ≠ .obj fields := by
    rintro id hne fields hnodup hfield rfl
    rw [textAt_obj hnodup hfield] at hid
    exact hne (Option.some.inj hid)
  have hhead : ∀ id : String, id.toList.take 2 ≠ ['c', 'h'] → id ≠ labelId index := by
    rintro id hne rfl
    rw [labelId_toList] at hne
    exact hne rfl
  unfold compileDynamicCard at hmem
  simp only [choiceComponents_eq, List.mem_append, List.mem_cons, List.not_mem_nil, or_false,
    List.mem_map, List.mem_flatMap] at hmem
  rcases hmem with ((rfl | rfl | rfl | rfl) | ⟨p, -, rfl⟩) | ⟨p, hp, rfl | rfl⟩
  · exact absurd rfl (hfixed "root" (hhead _ (by decide)) _ (by simp) (by simp))
  · exact absurd rfl (hfixed "content" (hhead _ (by decide)) _ (by simp) (by simp))
  · exact absurd rfl (hfixed "title" (hhead _ (by decide)) _ (by simp) (by simp))
  · exact absurd rfl (hfixed "message" (hhead _ (by decide)) _ (by simp) (by simp))
  · exact absurd rfl (hfixed _ (helpId_ne_labelId p.2 index) _ (by simp) (by simp))
  · have hlabel : textAt (textComponent (labelId p.2) p.1.label) "id" = some (labelId p.2) :=
      textAt_obj (by simp) (by simp)
    rw [hlabel] at hid
    have hindex := labelId_injective (Option.some.inj hid)
    rw [List.mem_zipIdx_iff_getElem?] at h hp
    rw [hindex, h] at hp
    rw [hindex, ← Option.some.inj hp]
  · exact absurd rfl (hfixed _ (buttonId_ne_labelId p.2 index) _ (by simp) (by simp))

/-- A component that is the only one with its id is found by it. -/
theorem componentWithId_of_unique {components : List Json} {id : String} {component : Json}
    (hmem : component ∈ components) (hid : textAt component "id" = some id)
    (hunique : ∀ other ∈ components, textAt other "id" = some id → other = component) :
    componentWithId components id = some component := by
  unfold componentWithId
  cases hfind : components.find? fun component => textAt component "id" = some id with
  | none => exact absurd hid (by simpa using List.find?_eq_none.1 hfind component hmem)
  | some other =>
      have hother := List.find?_some hfind
      rw [hunique other (List.mem_of_find?_eq_some hfind) (by simpa using hother)]

/-- **A button is labelled with its choice.** -/
theorem labelIn_choiceButton {index : ℕ} {choice : DynamicChoice}
    (h : (choice, index) ∈ spec.choices.zipIdx) (responseField : String) :
    labelIn (compileDynamicCard spec surfaceId)
        (choiceButton surfaceId responseField index choice) = some choice.label := by
  have hchild : textAt (choiceButton surfaceId responseField index choice) "child" =
      some (labelId index) := textAt_obj (by simp) (by simp)
  have hmem : textComponent (labelId index) choice.label ∈ compileDynamicCard spec surfaceId := by
    unfold compileDynamicCard
    refine List.mem_append_right _ (List.mem_flatMap.2 ⟨_, h, ?_⟩)
    exact List.mem_cons_self ..
  have hid : textAt (textComponent (labelId index) choice.label) "id" = some (labelId index) :=
    textAt_obj (by simp) (by simp)
  have htext : textAt (textComponent (labelId index) choice.label) "text" = some choice.label :=
    textAt_obj (by simp) (by simp)
  unfold labelIn
  rw [hchild, Option.bind_some,
    componentWithId_of_unique hmem hid fun other hother => eq_label_of_id h hother,
    Option.bind_some, htext]

/-- What a click on a button reports. -/
theorem click_choiceButton (responseField : String) (index : ℕ) (choice : DynamicChoice) :
    clickName (choiceButton surfaceId responseField index choice) = some surfaceId ∧
      clickContext (choiceButton surfaceId responseField index choice) =
        some (.obj [(responseField, .str choice.value)]) := by
  constructor
  · simp [clickName, choiceButton, textAt, Dict.get?_ofPairs, List.lookup_cons, Json.asString]
  · simp [clickContext, choiceButton, Dict.get?_ofPairs]

/-- The components of the messages of a card. -/
theorem componentsOf_card (components : List Json) :
    componentsOf [createSurface surfaceId, updateComponents surfaceId components] = components := by
  simp [componentsOf, componentsIn, createSurface, updateComponents, Dict.get?_ofPairs, List.lookup_cons]

/-! ### The choices of an event -/

/-- The choices are read back from the schema of the answers. -/
theorem choiceFieldAndEnum_answerSchema {interrupt : PlatformOps.Interrupt} {choices : List String}
    (h : interrupt.responseSchema = answerSchema choices) :
    choiceFieldAndEnum interrupt =
      if choices = [] then none else some ("selected_choice", choices) := by
  unfold choiceFieldAndEnum answerSchema at *
  rw [h]
  by_cases hnone : choices = []
  · simp [Dict.get?_ofPairs, List.lookup_cons, choiceSchema, stringSchema, hnone]
  · have hlist := texts_map_str choices
    simp [Dict.get?_ofPairs, List.lookup_cons, choiceSchema, hnone, Json.truthy, hlist]

/-- The choices carry the texts as their labels and as their values. -/
theorem values_of_mapM_dynamicChoice {texts : List String} {choices : List DynamicChoice}
    (h : texts.mapM (fun text => dynamicChoice text text) = .ok choices) :
    ∀ choice ∈ choices, choice.value = choice.label := by
  induction texts generalizing choices with
  | nil =>
      cases h
      simp
  | cons text texts ih =>
      simp only [List.mapM_cons, bind_eq_ok_iff] at h
      obtain ⟨choice, hchoice, rest, hrest, hlist⟩ := h
      cases hlist
      obtain ⟨hlabel, hvalue⟩ := dynamicChoice_eq_ok_iff.1 hchoice
      rw [List.forall_mem_cons]
      exact ⟨hvalue.trans hlabel.symm, ih hrest⟩

/-- A card that is valid is what was asked for. -/
theorem fields_of_dynamicCardSpec {title message : String} {helpTexts : List String}
    {choices : List DynamicChoice} {choiceResponseField : String}
    (h : dynamicCardSpec title message helpTexts choices choiceResponseField = .ok spec) :
    spec.choices = choices ∧ spec.choiceResponseField = choiceResponseField := by
  unfold dynamicCardSpec at h
  split_ifs at h
  cases h
  exact ⟨rfl, rfl⟩

section

variable {texts : DatetimeTexts} {event : HITLEvent}

/-- An approval offers no choices. -/
theorem choices_of_approval (h : event.kind = .approvalRequired) : event.choices = [] := by
  obtain ⟨request, hrequest⟩ := event.payload_of_approval h
  simp [HITLEvent.choices, HITLEvent.question, hrequest]

/-- The choices of the card are those of the event. -/
theorem fieldAndEnum_interrupt :
    (if event.kind = .clarificationRequired then
        choiceFieldAndEnum (hitlEventToInterrupt texts event).toInterrupt
      else none).getD ("selected_choice", []) = ("selected_choice", event.choices) := by
  cases hkind : event.kind with
  | approvalRequired => simp [choices_of_approval hkind]
  | clarificationRequired =>
      have hschema : (hitlEventToInterrupt texts event).responseSchema =
          responseSchemaFor event := rfl
      unfold responseSchemaFor at hschema
      rw [if_neg (by simp [hkind])] at hschema
      rw [if_pos rfl]
      unfold HITLEvent.choices
      cases hquestion : event.question with
      | none =>
          rw [hquestion] at hschema
          have hnone :
              choiceFieldAndEnum (hitlEventToInterrupt texts event).toInterrupt = none := by
            unfold choiceFieldAndEnum
            rw [hschema]
            simp [openSchema, Dict.get?_ofPairs, List.lookup_cons]
          rw [hnone]
          rfl
      | some question =>
          rw [hquestion] at hschema
          rw [choiceFieldAndEnum_answerSchema hschema]
          by_cases hnone : question.choices = []
          · simp [hnone]
          · simp [hnone]

/-- The card of an event has its choices, with labels and values, and reports the chosen one. -/
theorem choices_of_cardSpecFor
    (h : cardSpecFor event (hitlEventToInterrupt texts event) = .ok spec) :
    spec.choices.map DynamicChoice.label = event.choices ∧
      (∀ choice ∈ spec.choices, choice.value = choice.label) ∧
      spec.choiceResponseField = "selected_choice" := by
  unfold cardSpecFor at h
  simp only [fieldAndEnum_interrupt, bind_eq_ok_iff] at h
  obtain ⟨choices, hmap, hspec⟩ := h
  obtain ⟨rfl, hfield⟩ := fields_of_dynamicCardSpec hspec
  exact ⟨labels_of_mapM_dynamicChoice hmap, values_of_mapM_dynamicChoice hmap, hfield⟩

/-- A choice that is sent back is read as the choice. -/
theorem extractAnswer_choice (id : String) {choice : String} (h : choice ≠ "") :
    extractAnswer [⟨id, .obj [("selected_choice", .str choice)]⟩] = .ok (id, .str choice) := by
  have hanswers : (Json.obj [("selected_choice", .str choice)]).Answers (.str choice) := by
    refine ⟨by simp [Json.truthy, h], .inl ?_⟩
    exact (Json.field_obj_eq_some_iff (by simp)).2 (by simp)
  rcases extractAnswer_obj id [("selected_choice", .str choice)] with ⟨answer, hanswer, hok⟩ |
    ⟨hnone, -⟩
  · rw [hok, hanswers.unique hanswer]
  · exact absurd hanswers (hnone _)

/-- A choice that is offered conforms to the schema of the answers. -/
theorem conforms_choice {choice : String} (h : choice ∈ event.choices) :
    Json.Conforms (responseSchemaFor event) (.obj [("selected_choice", .str choice)]) := by
  have hkind : event.kind ≠ .approvalRequired := by
    intro happroval
    rw [choices_of_approval happroval] at h
    cases h
  unfold responseSchemaFor
  rw [if_neg hkind]
  unfold HITLEvent.choices at h
  cases hquestion : event.question with
  | none =>
      rw [hquestion] at h
      cases h
  | some question =>
      rw [hquestion] at h
      dsimp only
      rw [conforms_answerSchema_iff (by simp)]
      intro p hp
      rw [List.mem_singleton.1 hp]
      exact ⟨choice, rfl, .inl ⟨rfl, fun _ => h⟩⟩

/-- **The buttons of an event that is shown are its choices, in order, and a click on each answers
the announced interrupt with its choice.** -/
theorem buttons_round_trip {messages : List Json}
    (h : hitlEventToA2uiMessages texts event = .ok messages) (threadId runId : String) :
    List.Forall₂ (fun button choice => labelOf messages button = some choice ∧
        RoundTrips (hitlEventToRunFinished texts event threadId runId) event.eventId button choice)
      (buttonsOf messages) event.choices := by
  unfold hitlEventToA2uiMessages at h
  obtain ⟨spec, hspec, hmessages⟩ := bind_eq_ok_iff.1 h
  cases hmessages
  obtain ⟨hlabels, hvalues, hfield⟩ := choices_of_cardSpecFor hspec
  have hbuttons : (compileDynamicCard spec event.eventId).filter isButton = _ :=
    buttonsOf_compileDynamicCard
  have hindexed : spec.choices.map DynamicChoice.label =
      spec.choices.zipIdx.map fun p => p.1.label := by
    rw [← List.zipIdx_map_fst 0 spec.choices, List.map_map, List.zipIdx_map_fst]
    rfl
  unfold buttonsOf
  simp only [labelOf, componentsOf_card]
  rw [hbuttons, ← hlabels, hfield, hindexed, List.forall₂_map_left_iff, List.forall₂_map_right_iff,
    List.forall₂_same]
  rintro ⟨choice, index⟩ hmem
  have hchoice : choice ∈ spec.choices := List.fst_mem_of_mem_zipIdx hmem
  have hoffered : choice.label ∈ event.choices := hlabels ▸ List.mem_map_of_mem hchoice
  have hnonempty : choice.label ≠ "" := one_le_length_iff.1 choice.labelFits.1
  obtain ⟨hid, hschema⟩ : (hitlEventToInterrupt texts event).json.field "id" = _ ∧
      (hitlEventToInterrupt texts event).json.field "responseSchema" = _ := fields_interrupt event
  obtain ⟨hname, hcontext⟩ :
      clickName (choiceButton event.eventId "selected_choice" index choice) = _ ∧
        clickContext (choiceButton event.eventId "selected_choice" index choice) = _ :=
    click_choiceButton "selected_choice" index choice
  rw [hvalues choice hchoice] at hcontext
  refine ⟨labelIn_choiceButton hmem _, _, _, _,
    announcedInterrupts_runFinished event threadId runId, hid, hschema, hname, hcontext,
    conforms_choice hoffered, extractAnswer_choice _ hnonempty⟩

/-- Two buttons, of which the first is a provision and the second an inquiry. -/
theorem workflowQuestion_buttons :
    ∃ messages, hitlEventToA2uiMessages ⟨fun _ => "", fun _ => ""⟩ workflowQuestion = .ok messages ∧
      List.Forall₂ (fun button choice => labelOf messages button = some choice ∧
        RoundTrips
          (hitlEventToRunFinished ⟨fun _ => "", fun _ => ""⟩ workflowQuestion "thread" "run")
          "hitl-1" button choice)
        (buttonsOf messages) ["provision", "inquiry"] :=
  ⟨_, rfl, buttons_round_trip rfl "thread" "run"⟩

end

end PlatformOps.Interaction
