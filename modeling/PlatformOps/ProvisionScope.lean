/-
**A draft never leaves the resolved scope.**

The graph of the provision workflow keeps the scope in a channel of its own beside the draft.  Only
its first node writes that channel, from the hint, and the request is built from it; what the model
sends, in any order and with any fields, can end a run in a question but reaches neither scope nor
profile.  Here the graph is run against every sequence of answers of a model.

Main definitions:

* `ProvisionState`, `ProvisionUpdate` — the channels of the graph, and what a node writes to them;
* `provisionStates`, `prepareProvision` — the graph, and the draft it ends with;
* `ProvisionDraft.CarriesOne` — exactly one of a request, questions and a reason;
* `ProvisionDraft.WithinScope` — a request of the draft is on the resolved scope.

Main results:

* `prepareProvision_eq` — the graph ends with the draft of the workflow without channels;
* `draft_within_scope` — **whatever a model answers, the draft carries exactly one of the three, its
  request is on the scope of the hint, and the model is called for a resolved scope only**.
-/

import PlatformOps.TargetExistence

set_option relaxedAutoImplicit false
set_option autoImplicit false

namespace PlatformOps

/-! ### The graph -/

/-- The channels of the graph. -/
structure ProvisionState where
  invocation : ProvisionInvocation
  scope : Option Scope
  profileId : Option String
  result : ProvisionDraft

/-- What a node writes: a channel it does not name keeps its value. -/
structure ProvisionUpdate where
  scope : Option Scope
  profileId : Option String
  result : ProvisionDraft

/-- A state with an update written to it. -/
def ProvisionState.update (state : ProvisionState) (written : ProvisionUpdate) :
    ProvisionState where
  invocation := state.invocation
  scope := written.scope <|> state.scope
  profileId := written.profileId <|> state.profileId
  result := written.result

/-- The state a run starts with. -/
def ProvisionState.initial (invocation : ProvisionInvocation) : ProvisionState where
  invocation := invocation
  scope := none
  profileId := none
  result := .blank

/-- Write the draft and nothing else. -/
def writeResult (draft : ProvisionDraft) : ProvisionUpdate := ⟨none, none, draft⟩

/-- The node `resolve_scope`. -/
def resolveScopeUpdate (known : List Scope) (grants : List ExecutionGrant)
    (state : ProvisionState) : ProvisionUpdate :=
  match resolveScope state.invocation.scopeHint known grants with
  | .resolved scope => ⟨some scope, none, { ProvisionDraft.blank with scope := some scope }⟩
  | .clarificationRequired question => writeResult (ProvisionDraft.blank.ask question)
  | .unavailable reason =>
      writeResult { ProvisionDraft.blank with unavailableReason := some reason }

/-- What the node `select_profile` makes of the calls of a response. -/
def selectionUpdate (draft : ProvisionDraft) (calls : List ToolCall) :
    Except Fault ProvisionUpdate :=
  match calls with
  | [call] =>
      if call.named "select_deployment_profile" then
        match call.args.asObject with
        | none => .error (.attributeError "get")
        | some args =>
            if isProfileSelection ((args.get? "selection").getD call.args) then
              .ok ⟨none, some awsStaticWeb, { draft with profileId := some awsStaticWeb }⟩
            else .ok (writeResult (draft.ask profileQuestion))
      else .ok (writeResult (draft.ask profileQuestion))
  | _ => .ok (writeResult (draft.ask profileQuestion))

/-- What the node `extract_profile_request` makes of the calls of a response: the scope of the
request is that of the channel. -/
def extractionUpdate (scope : Option Scope) (draft : ProvisionDraft) (calls : List ToolCall) :
    Except Fault ProvisionUpdate :=
  match calls with
  | [call] =>
      let args := call.args.asObject.getD .empty
      let artifact := args.get? "frontend_artifact_uri"
      let hostname := args.get? "frontend_hostname"
      let given := args.get? "clarifying_question"
      if !call.named "extract_aws_static_web_request" || !isGiven artifact || !isGiven hostname then
        writeResult <$> askApplication draft given
      else
        match applicationRequest scope artifact hostname with
        | some request => .ok (writeResult { draft with applicationRequest := some request })
        | none => writeResult <$> askApplication draft given
  | _ => writeResult <$> askApplication draft none

/-- The node `select_profile`. -/
def selectProfileUpdate (state : ProvisionState) : ModelCoroutine ProvisionUpdate := do
  let response ← ainvoke (profilePrompt state.invocation.rawText)
  .ofExcept (selectionUpdate state.result response.toolCalls)

/-- The node `extract_profile_request`. -/
def extractProfileRequestUpdate (state : ProvisionState) : ModelCoroutine ProvisionUpdate := do
  let response ← ainvoke (extractionPrompt state.invocation.rawText)
  .ofExcept (extractionUpdate state.scope state.result response.toolCalls)

/-- The graph: three nodes, with a conditional edge after each of the first two. -/
def provisionStates (known : List Scope) (grants : List ExecutionGrant) (state : ProvisionState) :
    ModelCoroutine ProvisionState :=
  let state := state.update (resolveScopeUpdate known grants state)
  if state.result.stops then pure state
  else do
    let state := state.update (← selectProfileUpdate state)
    if state.result.stops then pure state
    else return state.update (← extractProfileRequestUpdate state)

/-- `prepare_provision_request`: the draft the graph ends with. -/
def prepareProvision (invocation : ProvisionInvocation) (known : List Scope)
    (grants : List ExecutionGrant) : ModelCoroutine ProvisionDraft := do
  let state ← provisionStates known grants (.initial invocation)
  return state.result

/-! ### The channels and the draft -/

theorem result_resolveScopeUpdate (known : List Scope) (grants : List ExecutionGrant)
    (state : ProvisionState) :
    (resolveScopeUpdate known grants state).result =
      resolveScopeNode known grants state.invocation := by
  unfold resolveScopeUpdate resolveScopeNode
  cases resolveScope state.invocation.scopeHint known grants with
  | resolved scope => rfl
  | clarificationRequired question => rfl
  | unavailable reason => rfl

theorem result_selectionUpdate (draft : ProvisionDraft) (calls : List ToolCall) :
    ProvisionUpdate.result <$> selectionUpdate draft calls = readSelection draft calls := by
  rcases calls with _ | ⟨call, _ | ⟨call', rest⟩⟩
  · rfl
  · simp only [selectionUpdate, readSelection]
    split
    · cases call.args.asObject with
      | none => rfl
      | some args =>
          dsimp only
          split
          · rfl
          · rfl
    · rfl
  · rfl

theorem map_result_writeResult (x : Except Fault ProvisionDraft) :
    ProvisionUpdate.result <$> writeResult <$> x = x := by
  cases x with
  | error fault => rfl
  | ok draft => rfl

/-- Over the scope of the draft, the extraction is the one without channels. -/
theorem result_extractionUpdate {scope : Option Scope} {draft : ProvisionDraft}
    (h : scope = draft.scope) (calls : List ToolCall) :
    ProvisionUpdate.result <$> extractionUpdate scope draft calls = readExtraction draft calls := by
  subst h
  rcases calls with _ | ⟨call, _ | ⟨call', rest⟩⟩
  · rfl
  · simp only [extractionUpdate, readExtraction]
    split
    · exact map_result_writeResult _
    · cases applicationRequest draft.scope
          ((call.args.asObject.getD .empty).get? "frontend_artifact_uri")
          ((call.args.asObject.getD .empty).get? "frontend_hostname") with
      | none => exact map_result_writeResult _
      | some request => rfl
  · rfl

/-- The last node, after which the graph ends. -/
theorem result_extractProfileRequestUpdate {state : ProvisionState}
    (h : state.scope = state.result.scope) :
    (do
      let written ← extractProfileRequestUpdate state
      return written.result) = extractProfileRequestNode state.invocation state.result := by
  unfold extractProfileRequestUpdate extractProfileRequestNode
  rw [Coroutine.bind_assoc]
  congr 1
  funext response
  rw [Coroutine.ofExcept_bind_pure, result_extractionUpdate h]

theorem resolveScopeUpdate_initial (invocation : ProvisionInvocation) (known : List Scope)
    (grants : List ExecutionGrant) :
    resolveScopeUpdate known grants (.initial invocation) =
      match resolveScope invocation.scopeHint known grants with
      | .resolved scope => ⟨some scope, none, { ProvisionDraft.blank with scope := some scope }⟩
      | .clarificationRequired question => writeResult (ProvisionDraft.blank.ask question)
      | .unavailable reason =>
          writeResult { ProvisionDraft.blank with unavailableReason := some reason } := rfl

/-- The first node writes one scope to the channel and to the draft. -/
theorem scope_resolveScopeUpdate (invocation : ProvisionInvocation) (known : List Scope)
    (grants : List ExecutionGrant) :
    (resolveScopeUpdate known grants (.initial invocation)).scope =
      (resolveScopeUpdate known grants (.initial invocation)).result.scope := by
  rw [resolveScopeUpdate_initial]
  cases resolveScope invocation.scopeHint known grants with
  | resolved scope => rfl
  | clarificationRequired question => rfl
  | unavailable reason => rfl

/-- The second node selects the profile in the draft and its channel, or asks. -/
theorem selectionUpdate_cases {draft : ProvisionDraft} {calls : List ToolCall}
    {written : ProvisionUpdate} (h : selectionUpdate draft calls = .ok written) :
    written = ⟨none, some awsStaticWeb, { draft with profileId := some awsStaticWeb }⟩ ∨
      written = writeResult (draft.ask profileQuestion) := by
  unfold selectionUpdate at h
  split at h
  · split at h
    · split at h
      · cases h
      · split at h
        · exact Or.inl (Except.ok.inj h).symm
        · exact Or.inr (Except.ok.inj h).symm
    · exact Or.inr (Except.ok.inj h).symm
  · exact Or.inr (Except.ok.inj h).symm

/-- The second node keeps the scope, in the channel and in the draft. -/
theorem scope_selectionUpdate {state : ProvisionState} {calls : List ToolCall}
    {written : ProvisionUpdate} (h : selectionUpdate state.result calls = .ok written) :
    (state.update written).scope = state.scope ∧
      (state.update written).result.scope = state.result.scope := by
  rcases selectionUpdate_cases h with rfl | rfl
  · exact ⟨rfl, rfl⟩
  · exact ⟨rfl, rfl⟩

/-- The last two nodes end with the draft of the workflow without channels. -/
theorem result_afterScope {state : ProvisionState} (h : state.scope = state.result.scope) :
    (do
      let state ← (do
        let state := state.update (← selectProfileUpdate state)
        if state.result.stops then pure state
        else return state.update (← extractProfileRequestUpdate state))
      return state.result) =
      (do
        let draft ← selectProfileNode state.invocation state.result
        if draft.stops then pure draft
        else extractProfileRequestNode state.invocation draft) := by
  unfold selectProfileUpdate selectProfileNode
  simp only [Coroutine.bind_assoc]
  congr 1
  funext response
  rw [← result_selectionUpdate]
  cases hselect : selectionUpdate state.result response.toolCalls with
  | error fault => rfl
  | ok written =>
      obtain ⟨hchannel, hdraft⟩ := scope_selectionUpdate hselect
      show ((if written.result.stops then pure (state.update written) else
          extractProfileRequestUpdate (state.update written) >>= fun last =>
            pure ((state.update written).update last)) >>= fun state => pure state.result :
          ModelCoroutine ProvisionDraft) =
        if written.result.stops then pure written.result
        else extractProfileRequestNode state.invocation written.result
      by_cases hstops : written.result.stops = true
      · rw [if_pos hstops, if_pos hstops]
        rfl
      · rw [if_neg hstops, if_neg hstops, Coroutine.bind_assoc]
        exact result_extractProfileRequestUpdate (by rw [hchannel, hdraft, h])

/-- **The graph ends with the draft of the workflow without channels.** -/
theorem prepareProvision_eq (invocation : ProvisionInvocation) (known : List Scope)
    (grants : List ExecutionGrant) :
    prepareProvision invocation known grants = provisionGraph invocation known grants := by
  have hfirst : (resolveScopeUpdate known grants (.initial invocation)).result =
      resolveScopeNode known grants invocation := result_resolveScopeUpdate known grants _
  have hscope := scope_resolveScopeUpdate invocation known grants
  unfold prepareProvision provisionStates provisionGraph
  rw [← hfirst]
  generalize resolveScopeUpdate known grants (.initial invocation) = first at hscope
  by_cases hstops : first.result.stops = true
  · show (if first.result.stops then _ else _ : ModelCoroutine ProvisionState) >>= _ =
      if first.result.stops then _ else _
    rw [if_pos hstops, if_pos hstops]
    rfl
  · show (if first.result.stops then _ else _ : ModelCoroutine ProvisionState) >>= _ =
      if first.result.stops then _ else _
    rw [if_neg hstops, if_neg hstops]
    refine result_afterScope ?_
    show (first.scope <|> none) = first.result.scope
    rw [hscope]
    cases first.result.scope with
    | none => rfl
    | some scope => rfl

/-! ### What a draft carries -/

/-- The draft carries exactly one of a request, questions and a reason why it is unavailable. -/
def ProvisionDraft.CarriesOne (draft : ProvisionDraft) : Prop :=
  draft.applicationRequest ≠ none ∧ draft.clarificationQuestions = [] ∧
      draft.unavailableReason = none ∨
    draft.applicationRequest = none ∧ draft.clarificationQuestions ≠ [] ∧
      draft.unavailableReason = none ∨
    draft.applicationRequest = none ∧ draft.clarificationQuestions = [] ∧
      draft.unavailableReason ≠ none

/-- The request of the draft is on the scope of the hint, which is known and granted, and both have
the reviewed profile. -/
structure ProvisionDraft.WithinScope (draft : ProvisionDraft) (hint : ScopeHint)
    (known : List Scope) (grants : List ExecutionGrant) (request : AwsStaticWebProvisionRequest) :
    Prop where
  complete : hint.project ≠ none ∧ hint.workspace ≠ none
  draftScope : draft.scope = some hint.scope
  requestScope : request.scope = hint.scope
  known : hint.scope ∈ known
  granted : Capability.none.rank < (resolveExecutionCapability hint.scope grants).rank
  draftProfile : draft.profileId = some awsStaticWeb
  requestProfile : request.profileId = awsStaticWeb

variable {invocation : ProvisionInvocation} {known : List Scope} {grants : List ExecutionGrant}

/-- The scope of the hint is resolved, and nothing was asked, refused or extracted so far. -/
structure ProvisionState.Resolved (invocation : ProvisionInvocation) (known : List Scope)
    (grants : List ExecutionGrant) (state : ProvisionState) : Prop where
  invoked : state.invocation = invocation
  resolves : resolveScope invocation.scopeHint known grants = .resolved invocation.scopeHint.scope
  channel : state.scope = some invocation.scopeHint.scope
  isOpen : state.result.Open invocation.scopeHint.scope

/-- The draft a run may end with. -/
def ProvisionDraft.Settled (invocation : ProvisionInvocation) (known : List Scope)
    (grants : List ExecutionGrant) (draft : ProvisionDraft) : Prop :=
  draft.CarriesOne ∧ ∀ request, draft.applicationRequest = some request →
    draft.WithinScope invocation.scopeHint known grants request

theorem ProvisionDraft.Asks.settled {draft : ProvisionDraft} (h : draft.Asks) :
    draft.Settled invocation known grants := by
  obtain ⟨question, hquestion, havailable, hrequest⟩ := h
  refine ⟨Or.inr (Or.inl ⟨hrequest, ?_, havailable⟩), fun request hsome => ?_⟩
  · rw [hquestion]
    exact List.cons_ne_nil _ _
  · rw [hrequest] at hsome
    cases hsome

theorem Capability.rank_pos {capability : Capability} (h : capability ≠ .none) :
    Capability.none.rank < capability.rank := by
  cases capability with
  | none => exact absurd rfl h
  | describe => decide
  | plan => decide
  | proposeChange => decide
  | applyLimited => decide
  | applyFull => decide
  | admin => decide

/-- A request on the scope of the channel. -/
theorem ProvisionState.Resolved.settled {state : ProvisionState}
    (h : state.Resolved invocation known grants)
    (hprofile : state.result.profileId = some awsStaticWeb)
    {request : AwsStaticWebProvisionRequest} (hscope : state.scope = some request.scope) :
    ({ state.result with applicationRequest := some request } : ProvisionDraft).Settled invocation
      known grants := by
  obtain ⟨hproject, hworkspace, -, hmem, hcap⟩ := resolveScope_eq_resolved_iff.1 h.resolves
  refine ⟨Or.inl ⟨Option.some_ne_none _, h.isOpen.asksNothing, h.isOpen.available⟩, ?_⟩
  rintro _ ⟨⟩
  rw [h.channel] at hscope
  exact {
    complete := ⟨hproject, hworkspace⟩
    draftScope := h.isOpen.scope
    requestScope := (Option.some.inj hscope).symm
    known := hmem
    granted := Capability.rank_pos hcap
    draftProfile := hprofile
    requestProfile := request.profileLiteral }

/-! ### What a node leaves -/

/-- The first node resolves the scope or ends the run. -/
theorem resolveScopeUpdate_cases (invocation : ProvisionInvocation) (known : List Scope)
    (grants : List ExecutionGrant) {state : ProvisionState}
    (hstate : state = (ProvisionState.initial invocation).update
      (resolveScopeUpdate known grants (.initial invocation))) :
    state.Resolved invocation known grants ∨
      state.result.stops = true ∧ state.result.Settled invocation known grants := by
  subst hstate
  rw [resolveScopeUpdate_initial]
  rcases h : resolveScope invocation.scopeHint known grants with scope | question | reason
  · obtain ⟨-, -, rfl, -⟩ := resolveScope_eq_resolved_iff.1 h
    exact Or.inl ⟨rfl, h, rfl, ⟨rfl, rfl, rfl, rfl⟩⟩
  · have hasks : (ProvisionDraft.blank.ask question).Asks := ⟨question, rfl, rfl, rfl⟩
    exact Or.inr ⟨hasks.stops, hasks.settled⟩
  · obtain rfl := eq_targetUnavailable h
    refine Or.inr ⟨rfl, Or.inr (Or.inr ⟨rfl, rfl, Option.some_ne_none _⟩), ?_⟩
    rintro request ⟨⟩

/-- The second node selects the profile and keeps the scope, or ends the run with a question. -/
theorem ProvisionState.Resolved.selectionUpdate_cases {state : ProvisionState}
    (h : state.Resolved invocation known grants) {calls : List ToolCall} {written : ProvisionUpdate}
    (hwritten : selectionUpdate state.result calls = .ok written) :
    (state.update written).Resolved invocation known grants ∧
        (state.update written).result.profileId = some awsStaticWeb ∨
      (state.update written).result.Asks := by
  rcases PlatformOps.selectionUpdate_cases hwritten with rfl | rfl
  · exact Or.inl ⟨⟨h.invoked, h.resolves, h.channel, ⟨h.isOpen.scope, h.isOpen.asksNothing,
      h.isOpen.available, h.isOpen.noRequest⟩⟩, rfl⟩
  · exact Or.inr (h.isOpen.asks _)

/-- The third node extracts a request on the scope of the channel, or asks. -/
theorem ProvisionState.Resolved.settled_extractionUpdate {state : ProvisionState}
    (h : state.Resolved invocation known grants)
    (hprofile : state.result.profileId = some awsStaticWeb) {calls : List ToolCall}
    {written : ProvisionUpdate}
    (hwritten : extractionUpdate state.scope state.result calls = .ok written) :
    written.result.Settled invocation known grants := by
  have hasks : ∀ {given : Option Json},
      writeResult <$> askApplication state.result given = .ok written →
        written.result.Settled invocation known grants := by
    intro given hgiven
    obtain ⟨next, hnext, rfl⟩ := map_eq_ok_iff.1 hgiven
    exact (askApplication_asks h.isOpen hnext).settled
  unfold extractionUpdate at hwritten
  split at hwritten
  · dsimp only at hwritten
    split at hwritten
    · exact hasks hwritten
    · split at hwritten
      · rename_i request hrequest
        cases hwritten
        exact h.settled hprofile (scope_of_applicationRequest hrequest)
      · exact hasks hwritten
  · exact hasks hwritten

/-! ### Runs against any model -/

/-- Whatever the model answers, the update of a node is one of some list of calls. -/
theorem returns_ainvoke_bind (messages : List (String × String))
    (read : List ToolCall → Except Fault ProvisionUpdate) {P : ProvisionUpdate → Prop}
    (h : ∀ calls written, read calls = .ok written → P written) :
    (ainvoke messages >>= fun response => .ofExcept (read response.toolCalls) :
      ModelCoroutine ProvisionUpdate).Returns P := by
  intro answer
  cases answer with
  | error fault => trivial
  | ok response => exact Coroutine.returns_ofExcept.2 (h response.toolCalls)

theorem ProvisionState.Resolved.returns_selectProfileUpdate {state : ProvisionState}
    (h : state.Resolved invocation known grants) :
    (selectProfileUpdate state).Returns fun written =>
      (state.update written).Resolved invocation known grants ∧
          (state.update written).result.profileId = some awsStaticWeb ∨
        (state.update written).result.Asks :=
  returns_ainvoke_bind _ (selectionUpdate state.result) fun _ _ => h.selectionUpdate_cases

theorem ProvisionState.Resolved.returns_extractProfileRequestUpdate {state : ProvisionState}
    (h : state.Resolved invocation known grants)
    (hprofile : state.result.profileId = some awsStaticWeb) :
    (extractProfileRequestUpdate state).Returns (·.result.Settled invocation known grants) :=
  returns_ainvoke_bind _ (extractionUpdate state.scope state.result)
    fun _ _ => h.settled_extractionUpdate hprofile

/-- **Whatever a model answers, the draft is settled.** -/
theorem returns_prepareProvision (invocation : ProvisionInvocation) (known : List Scope)
    (grants : List ExecutionGrant) :
    (prepareProvision invocation known grants).Returns (·.Settled invocation known grants) := by
  unfold prepareProvision
  refine Coroutine.Returns.bind (P := fun state => state.result.Settled invocation known grants) ?_
    fun state h => h
  unfold provisionStates
  dsimp only
  rcases resolveScopeUpdate_cases invocation known grants rfl with hresolved | ⟨hstops, hsettled⟩
  · rw [if_neg (by rw [hresolved.isOpen.stops]; exact Bool.false_ne_true)]
    refine Coroutine.Returns.bind hresolved.returns_selectProfileUpdate fun written hwritten => ?_
    rcases hwritten with ⟨hselected, hprofile⟩ | hasks
    · rw [if_neg (by rw [hselected.isOpen.stops]; exact Bool.false_ne_true)]
      exact Coroutine.Returns.bind (hselected.returns_extractProfileRequestUpdate hprofile)
        fun last hlast => hlast
    · rw [if_pos hasks.stops]
      exact hasks.settled
  · rw [if_pos hstops]
    exact hsettled

/-- Where the scope is not resolved, the run ends before the model is called. -/
theorem asked_eq_nil (h : resolveScope invocation.scopeHint known grants ≠
      .resolved invocation.scopeHint.scope) (answers : List (Except Fault AIMessage)) :
    ((prepareProvision invocation known grants).play () answers).1 = [] := by
  unfold prepareProvision provisionStates
  dsimp only
  rcases resolveScopeUpdate_cases invocation known grants rfl with hresolved | ⟨hstops, -⟩
  · exact absurd hresolved.resolves h
  · rw [if_pos hstops]
    rfl

/-- **Whatever a model answers, the draft carries exactly one of a request, questions and a reason,
its request is on the scope of the hint, and the model is called for a resolved scope only.** -/
theorem draft_within_scope (invocation : ProvisionInvocation) (known : List Scope)
    (grants : List ExecutionGrant) (answers : List (Except Fault AIMessage)) :
    (∀ draft, ((prepareProvision invocation known grants).play () answers).2.1 = .returned draft →
      draft.CarriesOne ∧ ∀ request, draft.applicationRequest = some request →
        draft.WithinScope invocation.scopeHint known grants request) ∧
    (((prepareProvision invocation known grants).play () answers).1 ≠ [] →
      resolveScope invocation.scopeHint known grants = .resolved invocation.scopeHint.scope) := by
  constructor
  · intro draft hreturned
    exact (returns_prepareProvision invocation known grants).of_play hreturned
  · intro hasked
    by_contra hno
    exact hasked (asked_eq_nil hno answers)

end PlatformOps
