/-
**The existence of a target.**

Somebody without a grant for a target is not to learn whether it exists.  The first node of the
provision workflow answers alike for a target that is unknown and for one that is known but not
granted, and asks the same question where the hint is incomplete; in each case the workflow stops
before the model is called, and the harness reports what the draft says.

Main definitions:

* `provisionGraph` — the provision workflow as a coroutine that awaits the model;
* `dispatchOver` — what the harness does after the workflow, over any list of known workspaces;
* `HarnessEvent.SameReport` — two events differ in their ids and times at most.

Main results:

* `drive_provisionGraph` — driven by a model, the coroutine is the workflow;
* `resolveScopeNode_of_none` — without a capability, the first node does not look at the workspaces;
* `target_existence_hidden` — **the existence of a target is hidden**.
-/

import PlatformOps.Harness

set_option relaxedAutoImplicit false
set_option autoImplicit false

namespace PlatformOps

/-! ### The workflow and its calls of the model -/

/-- A coroutine that awaits answers of the model to its messages. -/
abbrev ModelCoroutine :=
  Coroutine Unit (List (String × String)) (Except Fault AIMessage) Fault

/-- Call the model. -/
def ainvoke (messages : List (String × String)) : ModelCoroutine AIMessage :=
  .await messages .ofExcept

/-- The node `select_profile`. -/
def selectProfileNode (invocation : ProvisionInvocation) (draft : ProvisionDraft) :
    ModelCoroutine ProvisionDraft := do
  let response ← ainvoke (profilePrompt invocation.rawText)
  .ofExcept (readSelection draft response.toolCalls)

/-- The node `extract_profile_request`. -/
def extractProfileRequestNode (invocation : ProvisionInvocation) (draft : ProvisionDraft) :
    ModelCoroutine ProvisionDraft := do
  let response ← ainvoke (extractionPrompt invocation.rawText)
  .ofExcept (readExtraction draft response.toolCalls)

/-- The workflow: three nodes, with a stop after each of the first two. -/
def provisionGraph (invocation : ProvisionInvocation) (known : List Scope)
    (grants : List ExecutionGrant) : ModelCoroutine ProvisionDraft :=
  let draft := resolveScopeNode known grants invocation
  if draft.stops then pure draft
  else do
    let draft ← selectProfileNode invocation draft
    if draft.stops then pure draft else extractProfileRequestNode invocation draft

theorem drive_ainvoke_bind (model : Model) (messages : List (String × String))
    (read : AIMessage → Except Fault ProvisionDraft) :
    (ainvoke messages >>= fun response => .ofExcept (read response)).drive model () =
      (model messages >>= read, ()) := by
  rw [Coroutine.drive_bind]
  unfold ainvoke
  rw [Coroutine.drive_await, Coroutine.drive_ofExcept]
  cases model messages with
  | error fault => rfl
  | ok response => exact Coroutine.drive_ofExcept _ _ _

/-- **Driven by a model, the coroutine is the workflow.** -/
theorem drive_provisionGraph (invocation : ProvisionInvocation) (model : Model)
    (known : List Scope) (grants : List ExecutionGrant) :
    (provisionGraph invocation known grants).drive model () =
      (prepareProvisionRequest invocation model known grants, ()) := by
  unfold provisionGraph prepareProvisionRequest
  by_cases hfirst : (resolveScopeNode known grants invocation).stops = true
  · simp only [hfirst, if_true]
    rfl
  · rw [Bool.not_eq_true] at hfirst
    simp only [hfirst, Bool.false_eq_true, if_false]
    rw [Coroutine.drive_bind]
    have hselect : (selectProfileNode invocation
        (resolveScopeNode known grants invocation)).drive model () =
        (selectProfile model invocation (resolveScopeNode known grants invocation), ()) :=
      drive_ainvoke_bind model _ _
    rw [hselect]
    cases selectProfile model invocation (resolveScopeNode known grants invocation) with
    | error fault => rfl
    | ok draft =>
        show (if draft.stops then _ else _ : ModelCoroutine ProvisionDraft).drive model () =
          ((if draft.stops then _ else _ : Except Fault ProvisionDraft), ())
        by_cases hsecond : draft.stops = true
        · rw [if_pos hsecond, if_pos hsecond]
          rfl
        · rw [if_neg hsecond, if_neg hsecond]
          exact drive_ainvoke_bind model _ _

/-! ### Without a capability -/

/-- What the first node says to somebody without a capability: it asks for what the hint leaves out,
or finds the target unavailable. -/
def refusedDraft (invocation : ProvisionInvocation) : ProvisionDraft :=
  if invocation.scopeHint.project = none ∨ invocation.scopeHint.workspace = none then
    ProvisionDraft.blank.ask scopeQuestion
  else { ProvisionDraft.blank with unavailableReason := some targetUnavailable }

theorem stops_refusedDraft (invocation : ProvisionInvocation) :
    (refusedDraft invocation).stops = true := by
  unfold refusedDraft
  split
  · rfl
  · decide

variable {invocation : ProvisionInvocation} {grants : List ExecutionGrant}

/-- **Without a capability, the first node does not look at the known workspaces.** -/
theorem resolveScopeNode_of_none
    (h : resolveExecutionCapability invocation.scopeHint.scope grants = .none)
    (known : List Scope) : resolveScopeNode known grants invocation = refusedDraft invocation := by
  unfold resolveScopeNode resolveScope refusedDraft
  by_cases hpart : invocation.scopeHint.project = none ∨ invocation.scopeHint.workspace = none
  · rw [if_pos hpart, if_pos hpart]
  · rw [if_neg hpart, if_neg hpart, if_pos (Or.inr h)]

/-- The workflow stops at the first node, and the model is not called. -/
theorem provisionGraph_of_none
    (h : resolveExecutionCapability invocation.scopeHint.scope grants = .none)
    (known : List Scope) :
    provisionGraph invocation known grants = pure (refusedDraft invocation) := by
  unfold provisionGraph
  simp only [resolveScopeNode_of_none h, stops_refusedDraft, if_true]

theorem prepareProvisionRequest_of_none
    (h : resolveExecutionCapability invocation.scopeHint.scope grants = .none)
    (model : Model) (known : List Scope) :
    prepareProvisionRequest invocation model known grants = .ok (refusedDraft invocation) := by
  unfold prepareProvisionRequest
  simp only [resolveScopeNode_of_none h, stops_refusedDraft, if_true]

/-! ### What the harness reports -/

/-- What the harness does when the provision workflow has run over these workspaces. -/
def dispatchOver (known : List Scope) (env : HarnessEnv) (actor : ActorSession)
    (requestId : String) (invocation : ProvisionInvocation) (round : ℕ) (model : Model) :
    Harness HarnessEvent :=
  .ofExcept (prepareProvisionRequest invocation model known actor.actor.executionGrants) >>=
    reportDraft env actor requestId invocation round

/-- The harness dispatches over its own list. -/
theorem afterProvision_eq_dispatchOver (env : HarnessEnv) (actor : ActorSession)
    (requestId : String) (invocation : ProvisionInvocation) (round : ℕ) (model : Model) :
    afterProvision env actor requestId invocation round (.ok model) =
      dispatchOver knownWorkspaces env actor requestId invocation round model :=
  rfl

/-- Two events differ in their ids and times at most. -/
def HarnessEvent.SameReport : HarnessEvent → HarnessEvent → Prop
  | .hitl e, .hitl e' =>
      e.requestId = e'.requestId ∧ e.kind = e'.kind ∧ e.status = e'.status ∧ e.actor = e'.actor ∧
        e.payload = e'.payload ∧ e.resumeMode = e'.resumeMode
  | .platform e, .platform e' =>
      e.requestId = e'.requestId ∧ e.kind = e'.kind ∧ e.payload = e'.payload
  | _, _ => False

/-- The event a draft is reported with, but for its id and its time. -/
def reportedEvent (actor : ActorSession) (requestId : String) (draft : ProvisionDraft)
    (eventId : String) (now : ℕ) : HarnessEvent :=
  if draft.clarificationQuestions ≠ [] then
    .hitl (clarificationEvent actor requestId
      { IntakeDecision.blank with clarificationQuestions := draft.clarificationQuestions } eventId
      now)
  else .platform ⟨eventId, requestId, .routeResolved, .obj (draftPayload draft), now⟩

theorem run_reportDraft (env : HarnessEnv) (actor : ActorSession) (requestId : String)
    (invocation : ProvisionInvocation) (round : ℕ) (draft : ProvisionDraft) (s : HarnessState) :
    ((reportDraft env actor requestId invocation round draft).run s).1 =
      constructed env (s.minted + 1)
        (reportedEvent actor requestId draft (env.uuid4 s.minted) s.now) := by
  unfold reportDraft reportedEvent
  by_cases hasks : draft.clarificationQuestions ≠ []
  · rw [if_pos hasks, if_pos hasks, run_askClarification]
    rfl
  · rw [if_neg hasks, if_neg hasks]
    simp only [reportRoute, clock, newEventId, Coroutine.run_get_bind, Coroutine.run_put_bind,
      Coroutine.run_ret_bind, run_construct]

theorem sameReport_reportedEvent (actor : ActorSession) (requestId : String)
    (draft : ProvisionDraft) (eventId eventId' : String) (now now' : ℕ) :
    (reportedEvent actor requestId draft eventId now).SameReport
      (reportedEvent actor requestId draft eventId' now') := by
  unfold reportedEvent
  split
  · exact ⟨rfl, rfl, rfl, rfl, rfl, rfl⟩
  · exact ⟨rfl, rfl, rfl⟩

/-- What the harness reports of a target without a capability. -/
theorem run_dispatchOver_of_none {actor : ActorSession}
    (h : resolveExecutionCapability invocation.scopeHint.scope actor.actor.executionGrants = .none)
    (known : List Scope) (env : HarnessEnv) (requestId : String) (round : ℕ) (model : Model)
    (s : HarnessState) :
    ((dispatchOver known env actor requestId invocation round model).run s).1 =
      constructed env (s.minted + 1)
        (reportedEvent actor requestId (refusedDraft invocation) (env.uuid4 s.minted) s.now) := by
  unfold dispatchOver
  rw [prepareProvisionRequest_of_none h, Coroutine.run_ofExcept_ok_bind, run_reportDraft]

/-- **The existence of a target is hidden.** -/
theorem target_existence_hidden
    (h : resolveExecutionCapability invocation.scopeHint.scope grants = .none) :
    -- one draft whatever is known, and no call of the model
    (∃ draft, ∀ (known : List Scope) (model : Model),
      prepareProvisionRequest invocation model known grants = .ok draft ∧
        (provisionGraph invocation known grants).awaited model () = []) ∧
    -- the harness reports the same but for ids and times
    ∀ (actor : ActorSession) (requestId : String) (round : ℕ) (known known' : List Scope)
      (env env' : HarnessEnv) (model model' : Model) (s s' : HarnessState),
      actor.actor.executionGrants = grants →
      ∃ event event' : HarnessEvent,
        ((dispatchOver known env actor requestId invocation round model).run s).1 =
          constructed env (s.minted + 1) event ∧
        ((dispatchOver known' env' actor requestId invocation round model').run s').1 =
          constructed env' (s'.minted + 1) event' ∧
        event.SameReport event' := by
  refine ⟨⟨refusedDraft invocation, fun known model => ?_⟩, ?_⟩
  · rw [provisionGraph_of_none h]
    exact ⟨prepareProvisionRequest_of_none h model known, rfl⟩
  · rintro actor requestId round known known' env env' model model' s s' rfl
    exact ⟨_, _, run_dispatchOver_of_none h known env requestId round model s,
      run_dispatchOver_of_none h known' env' requestId round model' s',
      sameReport_reportedEvent _ _ _ _ _ _ _⟩

/-- A request for a production workspace. -/
def prodInvocation : ProvisionInvocation :=
  ⟨"Deploy the invoices site.",
    ⟨aiqTenant, some "invoices", some "prod"⟩, by decide⟩

/-- A grant for the development workspace only. -/
def devGrant : ExecutionGrant :=
  ⟨⟨"aiq", "it", some "invoices", some "dev"⟩, "aws", .applyFull⟩

theorem prod_existence_hidden :
    ∃ draft, ∀ (known : List Scope) (model : Model),
      prepareProvisionRequest prodInvocation model known [devGrant] = .ok draft ∧
        (provisionGraph prodInvocation known [devGrant]).awaited model () = [] :=
  (target_existence_hidden (by decide)).1

end PlatformOps
