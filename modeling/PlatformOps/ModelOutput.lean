/-
**What the workflows make of the output of a model.**

A model answers with a list of tool calls, of any names and with any arguments.  The nodes read one
call, fall back to a question where they cannot use it, and let the model word that question.  The
wording is not checked: a question that is no text is no question, and the fallback itself raises.
The classifier looks at the first call alone, whatever its name and whatever comes after it.

Main definitions:

* `QuestionReads` — a wording the fallback can ask;
* `IntakeReads`, `ExtractionReads` — the lists of calls on which the nodes return;
* `SelectsIntent` — the one well-formed selection of an intent;
* `ExactOn` — the classifier resolves a selection, and asks on every other list.

Main results:

* `model_output_fails_closed_iff` — **the nodes return exactly where the wording of a fallback is
  absent, empty or a text**;
* `intake_exact_iff` — **the classifier is exact where the list is a well-formed selection, or its
  first call names no intent and words its question as a text**.
-/

import PlatformOps.TargetExistence

set_option relaxedAutoImplicit false
set_option autoImplicit false

namespace PlatformOps

/-! ### The arguments of a call -/

/-- The arguments of a call, none where they are no object. -/
def ToolCall.argsDict (call : ToolCall) : Dict String Json := call.args.asObject.getD .empty

/-- The intent that arguments name. -/
def intentOf (args : Dict String Json) : Option Intent :=
  (args.get? "intent").bind fun v => v.asString.bind Intent.ofValue

/-- The fallback can ask a question of this wording: there is none, it counts as none, or it is a
text. -/
def QuestionReads (given : Option Json) : Prop :=
  ∀ v ∈ given, v.truthy = true → ∃ text, v = .str text

theorem questionText_isOk_iff {given : Option Json} {default : String} :
    (∃ text, questionText given default = .ok text) ↔ QuestionReads given := by
  unfold questionText QuestionReads
  cases given with
  | none => simp
  | some v =>
      cases htruthy : v.truthy with
      | false => simp [htruthy]
      | true =>
          cases v with
          | str s => simp [htruthy]
          | null => cases htruthy
          | bool b => simp [htruthy]
          | number n => simp [htruthy]
          | arr items => simp [htruthy]
          | obj fields => simp [htruthy]

/-! ### The nodes return -/

/-- The first call names an intent, or a wording that can be asked. -/
def IntakeReads (calls : List ToolCall) : Prop :=
  ∀ call ∈ calls.head?, intentOf call.argsDict = none →
    QuestionReads (call.argsDict.get? "clarifying_question")

/-- The call gives the fields of a request, as texts that are not empty. -/
def ToolCall.GivesRequest (call : ToolCall) : Prop :=
  call.named "extract_aws_static_web_request" = true ∧
    (∃ artifact, call.argsDict.get? "frontend_artifact_uri" = some (.str artifact) ∧
      artifact ≠ "") ∧
    ∃ hostname, call.argsDict.get? "frontend_hostname" = some (.str hostname) ∧ hostname ≠ ""

/-- A single call gives a request on the scope, or a wording that can be asked. -/
def ExtractionReads (scope : Option Scope) (calls : List ToolCall) : Prop :=
  ∀ call, calls = [call] → ¬ (scope ≠ none ∧ call.GivesRequest) →
    QuestionReads (call.argsDict.get? "clarifying_question")

/-- A model that answers with these calls. -/
def answering (calls : List ToolCall) : Model := fun _ => .ok ⟨calls⟩

/-- Arguments that are an object are read as they are. -/
theorem asObject_args {call : ToolCall} (h : call.args.asObject ≠ none) :
    call.args.asObject = some call.argsDict := by
  unfold ToolCall.argsDict
  cases hargs : call.args.asObject with
  | none => exact absurd hargs h
  | some args => rfl

theorem readIntentCall_eq {call : ToolCall} (h : call.args.asObject ≠ none) :
    readIntentCall call =
      match intentOf call.argsDict with
      | some intent => .ok (namedDecision intent)
      | none => askedDecision <$>
          questionText (call.argsDict.get? "clarifying_question") defaultIntentQuestion := by
  unfold readIntentCall
  rw [asObject_args h]
  rfl

theorem classifyWorkflow_isOk_iff {request : IntakeRequest} {calls : List ToolCall}
    (hargs : ∀ call ∈ calls, call.args.asObject ≠ none) :
    (∃ decision, classifyWorkflow request (answering calls) = .ok decision) ↔
      (matchTier2Prefix request.rawText = none → IntakeReads calls) := by
  unfold classifyWorkflow
  cases hprefix : matchTier2Prefix request.rawText with
  | some intent => simp
  | none =>
      show (∃ decision, readIntentResponse ⟨calls⟩ = .ok decision) ↔ _
      unfold readIntentResponse IntakeReads
      cases calls with
      | nil => simp
      | cons call rest =>
          have hcall := hargs call (List.mem_cons_self ..)
          simp only [readIntentCall_eq hcall, List.head?_cons, Option.mem_some_iff, forall_eq',
            forall_const]
          cases intentOf call.argsDict with
          | some intent => simp
          | none =>
              simp only [map_isOk_iff, questionText_isOk_iff, forall_const]

theorem selectProfile_isOk {invocation : ProvisionInvocation} {draft : ProvisionDraft}
    {calls : List ToolCall} (hargs : ∀ call ∈ calls, call.args.asObject ≠ none) :
    ∃ next, selectProfile (answering calls) invocation draft = .ok next := by
  show ∃ next, readSelection draft calls = .ok next
  unfold readSelection
  split
  · rename_i call
    rw [asObject_args (hargs call (List.mem_singleton_self call))]
    split
    · dsimp only
      split
      · exact ⟨_, rfl⟩
      · exact ⟨_, rfl⟩
    · exact ⟨_, rfl⟩
  · exact ⟨_, rfl⟩

/-- Fields that are texts, and not empty, make a request on a scope. -/
theorem exists_applicationRequest_iff {scope : Option Scope} {artifact hostname : Option Json} :
    (∃ request, applicationRequest scope artifact hostname = some request) ↔
      scope ≠ none ∧ (∃ text, artifact = some (.str text) ∧ text ≠ "") ∧
        ∃ text, hostname = some (.str text) ∧ text ≠ "" := by
  unfold applicationRequest
  split
  · rename_i scope artifact hostname
    split
    · rename_i h
      simp [h.1, h.2]
    · rename_i h
      simp only [reduceCtorEq, exists_false, ne_eq, not_false_eq_true, Option.some.injEq,
        Json.str.injEq, exists_eq_left', true_and, false_iff]
      exact h
  · rename_i hno
    simp only [reduceCtorEq, exists_false, false_iff]
    rintro ⟨hscope, ⟨artifactText, rfl, -⟩, hostnameText, rfl, -⟩
    obtain ⟨scope, rfl⟩ := Option.ne_none_iff_exists'.1 hscope
    exact hno scope artifactText hostnameText rfl rfl rfl

theorem readExtraction_single (draft : ProvisionDraft) (call : ToolCall) :
    readExtraction draft [call] =
      if !call.named "extract_aws_static_web_request" ||
          !isGiven (call.argsDict.get? "frontend_artifact_uri") ||
          !isGiven (call.argsDict.get? "frontend_hostname") then
        askApplication draft (call.argsDict.get? "clarifying_question")
      else
        match applicationRequest draft.scope (call.argsDict.get? "frontend_artifact_uri")
          (call.argsDict.get? "frontend_hostname") with
        | some request => .ok { draft with applicationRequest := some request }
        | none => askApplication draft (call.argsDict.get? "clarifying_question") := rfl

theorem askApplication_isOk_iff {draft : ProvisionDraft} {given : Option Json} :
    (∃ next, askApplication draft given = .ok next) ↔ QuestionReads given :=
  map_isOk_iff.trans questionText_isOk_iff

/-- Without a wording the question is the node's own. -/
theorem exists_askApplication_none (draft : ProvisionDraft) :
    ∃ next, askApplication draft none = .ok next :=
  askApplication_isOk_iff.2 fun v hmem => by cases hmem

/-- A call that gives a request is read; every other falls back to its question. -/
theorem readExtraction_single_isOk_iff {draft : ProvisionDraft} {call : ToolCall} :
    (∃ next, readExtraction draft [call] = .ok next) ↔
      (¬ (draft.scope ≠ none ∧ call.GivesRequest) →
        QuestionReads (call.argsDict.get? "clarifying_question")) := by
  rw [readExtraction_single]
  split
  · rename_i hgiven
    -- what does not count as given is no text that is not empty
    have hno : ¬ (draft.scope ≠ none ∧ call.GivesRequest) := by
      rintro ⟨-, hname, ⟨artifact, hartifact, hartifact'⟩, hostname, hhostname, hhostname'⟩
      rw [hname, hartifact, hhostname] at hgiven
      simp [isGiven, Json.truthy, hartifact', hhostname'] at hgiven
    rw [askApplication_isOk_iff, forall_prop_of_true hno]
  · rename_i hgiven
    have hname : call.named "extract_aws_static_web_request" = true := by
      simp only [Bool.or_eq_true, Bool.not_eq_true', not_or, Bool.not_eq_false] at hgiven
      exact hgiven.1.1
    split
    · rename_i request hrequest
      obtain ⟨hscope, hartifact, hhostname⟩ := exists_applicationRequest_iff.1 ⟨request, hrequest⟩
      refine ⟨fun _ hno => absurd ⟨hscope, hname, hartifact, hhostname⟩ hno, fun _ => ⟨_, rfl⟩⟩
    · rename_i hrequest
      have hno : ¬ (draft.scope ≠ none ∧ call.GivesRequest) := by
        rintro ⟨hscope, -, hartifact, hhostname⟩
        obtain ⟨request, hsome⟩ := exists_applicationRequest_iff.2 ⟨hscope, hartifact, hhostname⟩
        rw [hrequest] at hsome
        cases hsome
      rw [askApplication_isOk_iff, forall_prop_of_true hno]

theorem extractProfileRequest_isOk_iff {invocation : ProvisionInvocation} {draft : ProvisionDraft}
    {calls : List ToolCall} :
    (∃ next, extractProfileRequest (answering calls) invocation draft = .ok next) ↔
      ExtractionReads draft.scope calls := by
  show (∃ next, readExtraction draft calls = .ok next) ↔ _
  unfold ExtractionReads
  cases calls with
  | nil => exact iff_of_true (exists_askApplication_none draft) fun _ h => by cases h
  | cons call rest =>
      cases rest with
      | nil =>
          rw [readExtraction_single_isOk_iff]
          constructor
          · rintro h _ hsame
            obtain rfl := (List.cons.inj hsame).1
            exact h
          · intro h
            exact h call rfl
      | cons call' rest =>
          exact iff_of_true (exists_askApplication_none draft) fun _ h => by cases h

/-- **The nodes return exactly where the wording of a fallback is absent, empty or a text.**  The
selection of a profile, whose fallback words its question itself, always returns. -/
theorem model_output_fails_closed_iff (request : IntakeRequest) (invocation : ProvisionInvocation)
    (draft : ProvisionDraft) {calls : List ToolCall}
    (hargs : ∀ call ∈ calls, call.args.asObject ≠ none) :
    ((∃ decision, classifyWorkflow request (answering calls) = .ok decision) ↔
        (matchTier2Prefix request.rawText = none → IntakeReads calls)) ∧
      (∃ next, selectProfile (answering calls) invocation draft = .ok next) ∧
      ((∃ next, extractProfileRequest (answering calls) invocation draft = .ok next) ↔
        ExtractionReads draft.scope calls) :=
  ⟨classifyWorkflow_isOk_iff hargs, selectProfile_isOk hargs, extractProfileRequest_isOk_iff⟩

/-- A text without a prefix. -/
def plainRequest : IntakeRequest := ⟨"set this up", 0⟩

theorem matchTier2Prefix_plainRequest : matchTier2Prefix plainRequest.rawText = none := by
  decide

/-- A call of this tool that words its question as a list. -/
def listingCall (name : String) : ToolCall :=
  .ofPairs [("name", .str name),
    ("args", .obj [("clarifying_question", .arr [.str "Which application?"])])]

theorem asObject_args_listingCall (name : String) : (listingCall name).args.asObject ≠ none := by
  rintro ⟨⟩

/-- **A question worded as a list makes both fallbacks raise.** -/
theorem listed_question_raises :
    classifyWorkflow plainRequest (answering [listingCall "select_intent"]) =
        .error (.validationError "ClarificationQuestion" "question") ∧
      extractProfileRequest (answering [listingCall "extract_aws_static_web_request"])
          prodInvocation ProvisionDraft.blank =
        .error (.validationError "ClarificationQuestion" "question") ∧
      ¬ ∀ (request : IntakeRequest) (invocation : ProvisionInvocation) (draft : ProvisionDraft)
          (calls : List ToolCall), (∀ call ∈ calls, call.args.asObject ≠ none) →
        (∃ decision, classifyWorkflow request (answering calls) = .ok decision) ∧
          (∃ next, selectProfile (answering calls) invocation draft = .ok next) ∧
          ∃ next, extractProfileRequest (answering calls) invocation draft = .ok next := by
  have hclassify : classifyWorkflow plainRequest (answering [listingCall "select_intent"]) =
      .error (.validationError "ClarificationQuestion" "question") := by
    unfold classifyWorkflow
    rw [matchTier2Prefix_plainRequest]
    rfl
  refine ⟨hclassify, rfl, fun hall => ?_⟩
  have hargs : ∀ call ∈ [listingCall "select_intent"], call.args.asObject ≠ none := by
    intro call hcall
    rw [List.mem_singleton.1 hcall]
    exact asObject_args_listingCall _
  obtain ⟨⟨decision, hdecision⟩, -⟩ :=
    hall plainRequest prodInvocation ProvisionDraft.blank _ hargs
  rw [hclassify] at hdecision
  cases hdecision

/-- A call of this tool that words its question as a text. -/
def wordedCall (name : String) : ToolCall :=
  .ofPairs [("name", .str name),
    ("args", .obj [("clarifying_question", .str "Which application?"), ("confidence", .null)])]

theorem asObject_args_wordedCall (name : String) : (wordedCall name).args.asObject ≠ none := by
  rintro ⟨⟩

/-- A question worded as a text and one worded as a list, from two calls. -/
theorem two_calls_fail_closed :
    ((∃ decision, classifyWorkflow plainRequest
          (answering [wordedCall "select_intent", listingCall "select_intent"]) = .ok decision) ↔
        (matchTier2Prefix plainRequest.rawText = none →
          IntakeReads [wordedCall "select_intent", listingCall "select_intent"])) ∧
      (∃ next, selectProfile (answering [wordedCall "select_intent", listingCall "select_intent"])
        prodInvocation ProvisionDraft.blank = .ok next) ∧
      ((∃ next, extractProfileRequest
          (answering [wordedCall "select_intent", listingCall "select_intent"])
          prodInvocation ProvisionDraft.blank = .ok next) ↔
        ExtractionReads none [wordedCall "select_intent", listingCall "select_intent"]) := by
  refine model_output_fails_closed_iff plainRequest prodInvocation ProvisionDraft.blank ?_
  intro call hcall
  simp only [List.mem_cons, List.not_mem_nil, or_false] at hcall
  rcases hcall with rfl | rfl
  · exact asObject_args_wordedCall _
  · exact asObject_args_listingCall _

/-! ### One well-formed selection -/

/-- The list is one call of `select_intent` that names this intent and words no question. -/
def SelectsIntent (calls : List ToolCall) (intent : Intent) : Prop :=
  ∃ call, calls = [call] ∧ call.named "select_intent" = true ∧ call.args.asObject ≠ none ∧
    call.argsDict.get? "intent" = some (.str intent.value) ∧
    (call.argsDict.get? "clarifying_question" = none ∨
      call.argsDict.get? "clarifying_question" = some .null)

/-- The classifier resolves exactly the intent of a well-formed selection, and asks one question
that offers every intent on every other list. -/
def ExactOn (request : IntakeRequest) (calls : List ToolCall) : Prop :=
  (∀ intent, (∃ decision, classifyWorkflow request (answering calls) = .ok decision ∧
      decision.intent = some intent) ↔ SelectsIntent calls intent) ∧
    ((∀ intent, ¬ SelectsIntent calls intent) →
      ∃ question, classifyWorkflow request (answering calls) = .ok (askedDecision question))

/-- The first call, if there is one, names no intent and words a question that can be asked. -/
def FirstCallAsks (calls : List ToolCall) : Prop :=
  ∀ call ∈ calls.head?, call.args.asObject ≠ none ∧ intentOf call.argsDict = none ∧
    QuestionReads (call.argsDict.get? "clarifying_question")

theorem Intent.ofValue_eq_some_iff {text : String} {intent : Intent} :
    Intent.ofValue text = some intent ↔ text = intent.value := by
  constructor
  · intro h
    unfold Intent.ofValue at h
    have hvalue := List.find?_some h
    exact (of_decide_eq_true hvalue).symm
  · rintro rfl
    cases intent <;> decide

theorem intentOf_eq_some_iff {args : Dict String Json} {intent : Intent} :
    intentOf args = some intent ↔ args.get? "intent" = some (.str intent.value) := by
  unfold intentOf
  simp only [Option.bind_eq_some_iff, Json.asString_eq_some, Intent.ofValue_eq_some_iff]
  constructor
  · rintro ⟨v, hv, text, rfl, rfl⟩
    exact hv
  · intro h
    exact ⟨_, h, _, rfl, rfl⟩

/-- A selection is what its first call names. -/
theorem SelectsIntent.intentOf {call : ToolCall} {rest : List ToolCall} {intent : Intent}
    (h : SelectsIntent (call :: rest) intent) :
    call.args.asObject ≠ none ∧ PlatformOps.intentOf call.argsDict = some intent := by
  obtain ⟨only, hcalls, -, hargs, hintent, -⟩ := h
  obtain rfl := (List.cons.inj hcalls).1
  exact ⟨hargs, intentOf_eq_some_iff.2 hintent⟩

/-- The first call alone is read. -/
theorem classifyWorkflow_answering_cons {request : IntakeRequest}
    (hmiss : matchTier2Prefix request.rawText = none) (call : ToolCall) (rest : List ToolCall) :
    classifyWorkflow request (answering (call :: rest)) = readIntentCall call := by
  unfold classifyWorkflow
  rw [hmiss]
  rfl

section
variable {request : IntakeRequest} {call : ToolCall} {rest : List ToolCall}

/-- Arguments that are no object raise, and are no selection. -/
theorem not_exactOn_of_asObject_eq_none (hmiss : matchTier2Prefix request.rawText = none)
    (hargs : call.args.asObject = none) : ¬ ExactOn request (call :: rest) := by
  have hread : readIntentCall call = .error (.attributeError "get") := by
    unfold readIntentCall
    rw [hargs]
  rintro ⟨-, hasks⟩
  obtain ⟨question, hquestion⟩ := hasks fun intent h => h.intentOf.1 hargs
  rw [classifyWorkflow_answering_cons hmiss, hread] at hquestion
  cases hquestion

/-- Where the first call names an intent, the list is to be its selection. -/
theorem exactOn_of_intentOf_eq_some (hmiss : matchTier2Prefix request.rawText = none)
    (hargs : call.args.asObject ≠ none) {intent : Intent}
    (hintent : intentOf call.argsDict = some intent) :
    ExactOn request (call :: rest) ↔ ∃ intent, SelectsIntent (call :: rest) intent := by
  have hclassify : classifyWorkflow request (answering (call :: rest)) =
      .ok (namedDecision intent) := by
    rw [classifyWorkflow_answering_cons hmiss, readIntentCall_eq hargs, hintent]
  unfold ExactOn
  rw [hclassify]
  constructor
  · intro h
    exact ⟨intent, (h.1 intent).1 ⟨_, rfl, rfl⟩⟩
  · rintro ⟨selected, hselected⟩
    have hsame := hselected.intentOf.2
    rw [hintent] at hsame
    obtain rfl := Option.some.inj hsame
    refine ⟨fun other => ⟨?_, fun hother => ?_⟩, fun hno => absurd hselected (hno intent)⟩
    · rintro ⟨_, ⟨⟩, hother⟩
      exact Option.some.inj hother ▸ hselected
    · have hother' := hother.intentOf.2
      rw [hintent] at hother'
      exact ⟨_, rfl, hother'⟩

theorem not_selectsIntent_of_intentOf_eq_none (hintent : intentOf call.argsDict = none)
    (intent : Intent) : ¬ SelectsIntent (call :: rest) intent := by
  intro h
  have hsome := h.intentOf.2
  rw [hintent] at hsome
  cases hsome

/-- Where the first call names no intent, its wording is to be read. -/
theorem exactOn_of_intentOf_eq_none (hmiss : matchTier2Prefix request.rawText = none)
    (hargs : call.args.asObject ≠ none) (hintent : intentOf call.argsDict = none) :
    ExactOn request (call :: rest) ↔
      QuestionReads (call.argsDict.get? "clarifying_question") := by
  have hclassify : classifyWorkflow request (answering (call :: rest)) =
      askedDecision <$>
        questionText (call.argsDict.get? "clarifying_question") defaultIntentQuestion := by
    rw [classifyWorkflow_answering_cons hmiss, readIntentCall_eq hargs, hintent]
  have hno : ∀ intent, ¬ SelectsIntent (call :: rest) intent :=
    not_selectsIntent_of_intentOf_eq_none hintent
  have hasks : (∃ text, questionText (call.argsDict.get? "clarifying_question")
      defaultIntentQuestion = .ok text) ↔
      QuestionReads (call.argsDict.get? "clarifying_question") := questionText_isOk_iff
  unfold ExactOn
  rw [hclassify, ← hasks]
  constructor
  · rintro ⟨-, h⟩
    obtain ⟨question, hquestion⟩ := h hno
    obtain ⟨text, htext, -⟩ := map_eq_ok_iff.1 hquestion
    exact ⟨text, htext⟩
  · rintro ⟨text, htext⟩
    rw [htext]
    refine ⟨fun intent => iff_of_false ?_ (hno intent), fun _ => ⟨text, rfl⟩⟩
    rintro ⟨_, ⟨⟩, hsome⟩
    cases hsome

end

theorem exactOn_cons_iff {request : IntakeRequest} (hmiss : matchTier2Prefix request.rawText = none)
    (call : ToolCall) (rest : List ToolCall) :
    ExactOn request (call :: rest) ↔
      (∃ intent, SelectsIntent (call :: rest) intent) ∨ FirstCallAsks (call :: rest) := by
  unfold FirstCallAsks
  simp only [List.head?_cons, Option.mem_some_iff, forall_eq']
  by_cases hargs : call.args.asObject = none
  · refine iff_of_false (not_exactOn_of_asObject_eq_none hmiss hargs) ?_
    rintro (⟨intent, h⟩ | ⟨h, -⟩)
    · exact h.intentOf.1 hargs
    · exact h hargs
  · cases hintent : intentOf call.argsDict with
    | some intent =>
        rw [exactOn_of_intentOf_eq_some hmiss hargs hintent]
        refine (or_iff_left ?_).symm
        rintro ⟨-, hnone, -⟩
        cases hnone
    | none =>
        rw [exactOn_of_intentOf_eq_none hmiss hargs hintent]
        have hno : ¬ ∃ intent, SelectsIntent (call :: rest) intent :=
          fun ⟨intent, h⟩ => not_selectsIntent_of_intentOf_eq_none hintent intent h
        rw [or_iff_right hno]
        exact ⟨fun h => ⟨hargs, rfl, h⟩, fun h => h.2.2⟩

/-- **The classifier is exact where the list is a well-formed selection, or its first call names no
intent and words its question as a text.** -/
theorem intake_exact_iff {request : IntakeRequest}
    (hmiss : matchTier2Prefix request.rawText = none) (calls : List ToolCall) :
    ExactOn request calls ↔ (∃ intent, SelectsIntent calls intent) ∨ FirstCallAsks calls := by
  cases calls with
  | nil =>
      have hno : ∀ intent, ¬ SelectsIntent [] intent := by
        rintro intent ⟨call, h, -⟩
        cases h
      have hclassify : classifyWorkflow request (answering []) =
          .ok (askedDecision defaultIntentQuestion) := by
        unfold classifyWorkflow
        rw [hmiss]
        rfl
      refine iff_of_true ⟨fun intent => iff_of_false ?_ (hno intent), fun _ => ⟨_, hclassify⟩⟩
        (Or.inr fun call h => by cases h)
      rintro ⟨decision, hdecision, hintent⟩
      rw [hclassify] at hdecision
      cases hdecision
      cases hintent
  | cons call rest => exact exactOn_cons_iff hmiss call rest

/-- A single call of the selection tool that names an intent. -/
def selectionCall : ToolCall :=
  .ofPairs [("name", .str "select_intent"), ("args", .obj [("intent", .str "inquiry")])]

theorem single_selection_exact :
    ExactOn plainRequest [selectionCall] ↔
      (∃ intent, SelectsIntent [selectionCall] intent) ∨ FirstCallAsks [selectionCall] :=
  intake_exact_iff matchTier2Prefix_plainRequest [selectionCall]

/-- A call of another tool, that names an intent and asks a question. -/
def strayCall : ToolCall :=
  .ofPairs [("name", .str "delete_everything"),
    ("args", .obj [("intent", .str "provision"), ("clarifying_question", .str "Which one?")])]

/-- **Two calls, the first of another tool with both fields, are accepted**: the text is taken for a
provision request. -/
theorem stray_call_accepted :
    classifyWorkflow plainRequest (answering [strayCall, selectionCall]) =
        .ok (namedDecision .provision) ∧
      (∀ intent, ¬ SelectsIntent [strayCall, selectionCall] intent) ∧
      ¬ ∀ (request : IntakeRequest) (calls : List ToolCall),
        matchTier2Prefix request.rawText = none → ExactOn request calls := by
  have hclassify : classifyWorkflow plainRequest (answering [strayCall, selectionCall]) =
      .ok (namedDecision .provision) := by
    unfold classifyWorkflow
    rw [matchTier2Prefix_plainRequest]
    rfl
  have hno : ∀ intent, ¬ SelectsIntent [strayCall, selectionCall] intent := by
    rintro intent ⟨call, hcalls, -⟩
    cases hcalls
  refine ⟨hclassify, hno, fun hall => ?_⟩
  obtain ⟨hiff, -⟩ := hall plainRequest _ matchTier2Prefix_plainRequest
  exact hno .provision ((hiff .provision).1 ⟨_, hclassify, rfl⟩)

end PlatformOps
