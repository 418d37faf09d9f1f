/-
**Clarification rounds.**

A conversation is one new run and the resumes that continue it, each after the other and each
successful.  Both stages of it count their rounds against the same cap, but each counts its own:
when the intake hands a request over, the provision stage starts at round zero, whatever was asked
before.

Main definitions:

* `Turn`, `resumeTurns`, `questionsAsked` — the resumes of a conversation, and the questions asked
  in it;
* `AsksOnBothSides` — the intake asks, hands the clarified request over, and the provision workflow
  asks twice.

Main results:

* `canAsk_of_questionsAsked` — a conversation is a run of the harness, and its questions are the
  calls of the run that return one;
* `questionsAsked_le` — a conversation asks at most three questions;
* `rounds_within_cap_iff` — **it keeps to the cap exactly if it does not ask on both sides**.
-/

import PlatformOps.HarnessRuns

set_option relaxedAutoImplicit false
set_option autoImplicit false

namespace PlatformOps

/-! ### Conversations -/

/-- A resume of a conversation: how long after the one before it is made, by whom, with which
answer, and what its workflows do. -/
structure Turn where
  elapsed : ℕ
  actor : ActorSession
  answer : String
  workflows : Await → Answer

/-- The state some time later. -/
def HarnessState.after (s : HarnessState) (elapsed : ℕ) : HarnessState :=
  { s with now := s.now + elapsed }

/-- Count the questions after a call of a conversation: a question is counted and the conversation
goes on with its event id, a report ends it, and a failure is no part of it. -/
def tally (rest : String → HarnessState → Option ℕ) (last : Bool) :
    Except Fault HarnessEvent × HarnessState → Option ℕ
  | (.ok (.hitl event), s) => (rest event.eventId s).map (· + 1)
  | (.ok (.platform _), _) => if last then some 0 else none
  | (.error _, _) => none

/-- The questions asked by the resumes of a conversation, if each of them succeeds. -/
def resumeTurns (env : HarnessEnv) (requestId : String) :
    String → List Turn → HarnessState → Option ℕ
  | _, [], _ => some 0
  | interruptId, turn :: turns, s =>
      tally (fun next t => resumeTurns env requestId next turns t) turns.isEmpty
        ((resumeClarification env turn.actor requestId interruptId turn.answer).drive turn.workflows
          (s.after turn.elapsed))

/-- The questions asked in a conversation, if every call of it succeeds. -/
def questionsAsked (env : HarnessEnv) (actor : ActorSession) (requestId text : String)
    (scopeHint : Option ScopeHint) (workflows : Await → Answer) (turns : List Turn)
    (s : HarnessState) : Option ℕ :=
  tally (fun next t => resumeTurns env requestId next turns t) turns.isEmpty
    ((startRun env actor requestId text scopeHint).drive workflows s)

theorem tally_eq_some {rest : String → HarnessState → Option ℕ} {last : Bool}
    {x : Except Fault HarnessEvent × HarnessState} {n : ℕ} (h : tally rest last x = some n) :
    ∃ result t, x = (.ok result, t) ∧
      ((∃ event m, result = .hitl event ∧ rest event.eventId t = some m ∧ n = m + 1) ∨
        ∃ event, result = .platform event ∧ n = 0) := by
  obtain ⟨result, t⟩ := x
  cases result with
  | error fault => cases h
  | ok result =>
      refine ⟨result, t, rfl, ?_⟩
      cases result with
      | hitl event =>
          have hmap : (rest event.eventId t).map (· + 1) = some n := h
          obtain ⟨m, hm, hn⟩ := Option.map_eq_some_iff.1 hmap
          exact Or.inl ⟨event, m, rfl, hm, hn.symm⟩
      | platform event =>
          have hlast : (if last then some 0 else none) = some n := h
          cases last with
          | true => exact Or.inr ⟨event, rfl, (Option.some.inj hlast).symm⟩
          | false => cases hlast

variable {env : HarnessEnv}

/-! ### A conversation is a run -/

/-- The call returned a question. -/
def isQuestion (task : CallTask HarnessState Await Answer Fault HarnessEvent HarnessCall) : Bool :=
  match task.outcome with
  | .returned (.hitl _) => true
  | _ => false

/-- From a pool, some steps add calls of which this many return a question. -/
def CanAsk (env : HarnessEnv) (p : HarnessPool) (n : ℕ) : Prop :=
  ∃ steps tasks, ((harness env).runFrom p steps).tasks = p.tasks ++ tasks ∧
    tasks.countP isQuestion = n

/-- A call that is counted is made and driven to its end, and the rest is run after it. -/
theorem canAsk_of_tally {rest : String → HarnessState → Option ℕ} {last : Bool} {n : ℕ}
    {p : HarnessPool} (call : HarnessCall) {workflows : Await → Answer}
    (hrest : ∀ id (q : HarnessPool) m, rest id q.world = some m → CanAsk env q m)
    (h : tally rest last ((callCoroutine env call).drive workflows p.world) = some n) :
    CanAsk env p n := by
  obtain ⟨result, t, hdrive, hcases⟩ := tally_eq_some h
  obtain ⟨steps, hsteps⟩ := System.exists_run_eq_drive (harness env) workflows call p
  have hmain : ((harness env).main call).drive workflows p.world = (.ok result, t) := hdrive
  rw [hmain] at hsteps
  rcases hcases with ⟨event, m, rfl, hm, rfl⟩ | ⟨event, rfl, rfl⟩
  · obtain ⟨more, tasks, htasks, hcount⟩ :=
      hrest event.eventId ⟨t, p.tasks ++ [⟨call, .returned (.hitl event)⟩]⟩ m hm
    refine ⟨.spawn call :: steps ++ more, ⟨call, .returned (.hitl event)⟩ :: tasks, ?_, ?_⟩
    · rw [System.runFrom_append, hsteps]
      simpa [System.ended] using htasks
    · simp [List.countP_cons, hcount, isQuestion]
  · refine ⟨.spawn call :: steps, [⟨call, .returned (.platform event)⟩], ?_, ?_⟩
    · rw [hsteps]
      rfl
    · simp [isQuestion]

theorem CanAsk.after {p : HarnessPool} {n : ℕ} (elapsed : ℕ)
    (h : CanAsk env ⟨p.world.after elapsed, p.tasks⟩ n) : CanAsk env p n := by
  obtain ⟨steps, tasks, htasks, hcount⟩ := h
  exact ⟨.environment elapsed :: steps, tasks, htasks, hcount⟩

theorem canAsk_of_resumeTurns {requestId interruptId : String} {turns : List Turn} {n : ℕ}
    {p : HarnessPool} (h : resumeTurns env requestId interruptId turns p.world = some n) :
    CanAsk env p n := by
  induction turns generalizing interruptId n p with
  | nil =>
      cases h
      exact ⟨[], [], (List.append_nil _).symm, rfl⟩
  | cons turn turns ih =>
      refine CanAsk.after turn.elapsed ?_
      exact canAsk_of_tally (.resume turn.actor requestId interruptId turn.answer)
        (fun id q m hm => ih hm) h

/-- **A conversation is a run of the harness**, and its questions are the calls of the run that
return one. -/
theorem canAsk_of_questionsAsked {actor : ActorSession} {requestId text : String}
    {scopeHint : Option ScopeHint} {workflows : Await → Answer} {turns : List Turn} {n : ℕ}
    {p : HarnessPool}
    (h : questionsAsked env actor requestId text scopeHint workflows turns p.world = some n) :
    CanAsk env p n :=
  canAsk_of_tally (.start actor requestId text scopeHint)
    (fun _ _ _ hm => canAsk_of_resumeTurns hm) h

/-! ### What a call of a conversation can return -/

/-- The intake asks about this request. -/
def AsksIntake (workflows : Await → Answer) (request : IntakeRequest) : Prop :=
  (Await.intake request).asks (workflows (.intake request))

/-- The provision workflow asks about this invocation. -/
def AsksProvision (workflows : Await → Answer) (invocation : ProvisionInvocation)
    (grants : List ExecutionGrant) : Prop :=
  (Await.provision invocation grants).asks (workflows (.provision invocation grants))

/-- The intake hands this invocation over. -/
def HandedOver (workflows : Await → Answer) (request : IntakeRequest)
    (scopeHint : Option ScopeHint) (invocation : ProvisionInvocation) : Prop :=
  ∃ decision, intakeAnswer request (workflows (.intake request)) = .ok decision ∧
    HandsOver request scopeHint decision invocation

theorem HandsOver.unique {request : IntakeRequest} {scopeHint : Option ScopeHint}
    {decision : IntakeDecision} {invocation invocation' : ProvisionInvocation}
    (h : HandsOver request scopeHint decision invocation)
    (h' : HandsOver request scopeHint decision invocation') : invocation = invocation' := by
  obtain ⟨hint, hhint, -, hinvocation⟩ := h.authorized
  obtain ⟨hint', hhint', -, hinvocation'⟩ := h'.authorized
  rw [hhint] at hhint'
  cases hhint'
  rw [hinvocation] at hinvocation'
  cases hinvocation'
  rfl

theorem HandedOver.unique {workflows : Await → Answer} {request : IntakeRequest}
    {scopeHint : Option ScopeHint} {invocation invocation' : ProvisionInvocation}
    (h : HandedOver workflows request scopeHint invocation)
    (h' : HandedOver workflows request scopeHint invocation') : invocation = invocation' := by
  obtain ⟨decision, hdecision, hover⟩ := h
  obtain ⟨decision', hdecision', hover'⟩ := h'
  rw [hdecision] at hdecision'
  cases hdecision'
  exact hover.unique hover'

/-- The intake does not ask about a request that it hands over. -/
theorem HandedOver.not_asksIntake {workflows : Await → Answer} {request : IntakeRequest}
    {scopeHint : Option ScopeHint} {invocation : ProvisionInvocation}
    (h : HandedOver workflows request scopeHint invocation) : ¬ AsksIntake workflows request := by
  obtain ⟨decision, hdecision, hover⟩ := h
  rintro ⟨decision', hdecision', hasks⟩
  rw [hdecision] at hdecision'
  cases hdecision'
  exact hasks hover.asksNothing

/-- A call that constructs its event last returns that event, if it returns one. -/
theorem drive_of_constructed {c : Harness HarnessEvent} {s s' t : HarnessState} {minted : ℕ}
    {event result : HarnessEvent} {workflows : Await → Answer}
    (hrun : c.run s = (constructed env minted event, s'))
    (h : c.drive workflows s = (.ok result, t)) : result = event ∧ t = s' := by
  rw [Coroutine.drive_eq, hrun] at h
  unfold constructed at h
  cases hfault : env.eventFault minted with
  | some fault =>
      rw [hfault] at h
      cases h
  | none =>
      rw [hfault] at h
      cases h
      exact ⟨rfl, rfl⟩

theorem drive_classify (actor : ActorSession) (requestId : String) (request : IntakeRequest)
    (scopeHint : Option ScopeHint) (workflows : Await → Answer) (s : HarnessState) :
    (classify env actor requestId request scopeHint).drive workflows s =
      match intakeAnswer request (workflows (.intake request)) with
      | .error fault => (.error fault, s)
      | .ok decision =>
          (reportDecision env actor requestId request scopeHint decision).drive workflows s := by
  show (afterIntake env actor requestId request scopeHint (workflows (.intake request))).drive
    workflows s = _
  unfold afterIntake
  cases intakeAnswer request (workflows (.intake request)) with
  | error fault => rfl
  | ok decision => rfl

theorem drive_dispatchProvision (actor : ActorSession) (requestId : String)
    (invocation : ProvisionInvocation) (round : ℕ) (workflows : Await → Answer)
    (s : HarnessState) :
    (dispatchProvision env actor requestId invocation round).drive workflows s =
      match provisionAnswer invocation actor.actor.executionGrants
          (workflows (.provision invocation actor.actor.executionGrants)) with
      | .error fault => (.error fault, s)
      | .ok draft =>
          (reportDraft env actor requestId invocation round draft).drive workflows s := by
  show (afterProvision env actor requestId invocation round
    (workflows (.provision invocation actor.actor.executionGrants))).drive workflows s = _
  unfold afterProvision
  cases provisionAnswer invocation actor.actor.executionGrants
      (workflows (.provision invocation actor.actor.executionGrants)) with
  | error fault => rfl
  | ok draft => rfl

/-- The provision stage asks and stores its question, or reports. -/
theorem dispatch_cases {actor : ActorSession} {requestId : String}
    {invocation : ProvisionInvocation} {round : ℕ} {workflows : Await → Answer}
    {s t : HarnessState} {result : HarnessEvent}
    (h : (dispatchProvision env actor requestId invocation round).drive workflows s =
      (.ok result, t)) :
    (AsksProvision workflows invocation actor.actor.executionGrants ∧
        (∃ payload, result = .hitl (questionEvent env s actor requestId payload)) ∧
        t = s.asked env actor requestId (some invocation.scopeHint)
          (.provision invocation round)) ∨
      (¬ AsksProvision workflows invocation actor.actor.executionGrants ∧
        ∃ event, result = .platform event) := by
  rw [drive_dispatchProvision] at h
  rcases hdraft : provisionAnswer invocation actor.actor.executionGrants
      (workflows (.provision invocation actor.actor.executionGrants)) with fault | draft
  · rw [hdraft] at h
    cases h
  rw [hdraft] at h
  dsimp only at h
  by_cases hasks : draft.clarificationQuestions = []
  · obtain ⟨event, hrun⟩ := run_reportDraft_of_not_asks env actor requestId invocation round hasks s
    refine Or.inr ⟨?_, event, (drive_of_constructed hrun h).1⟩
    rintro ⟨draft', hdraft', hne⟩
    rw [hdraft] at hdraft'
    cases hdraft'
    exact hne hasks
  · obtain ⟨hresult, ht⟩ := drive_of_constructed (run_reportDraft_of_asks hasks s) h
    exact Or.inl ⟨⟨draft, hdraft, hasks⟩, ⟨_, hresult⟩, ht⟩

/-- The intake stage asks and stores its question, reports, or hands over to the provision stage at
round zero. -/
theorem classify_cases {actor : ActorSession} {requestId : String} {request : IntakeRequest}
    {scopeHint : Option ScopeHint} {workflows : Await → Answer} {s t : HarnessState}
    {result : HarnessEvent}
    (h : (classify env actor requestId request scopeHint).drive workflows s = (.ok result, t)) :
    (AsksIntake workflows request ∧
        (∃ payload, result = .hitl (questionEvent env s actor requestId payload)) ∧
        t = s.asked env actor requestId scopeHint (.intake request)) ∨
      (¬ AsksIntake workflows request ∧
        (∀ invocation, ¬ HandedOver workflows request scopeHint invocation) ∧
        ∃ event, result = .platform event) ∨
      ∃ invocation, HandedOver workflows request scopeHint invocation ∧
        (dispatchProvision env actor requestId invocation 0).drive workflows s =
          (.ok result, t) := by
  rw [drive_classify] at h
  rcases hintake : intakeAnswer request (workflows (.intake request)) with fault | decision
  · rw [hintake] at h
    cases h
  rw [hintake] at h
  dsimp only at h
  by_cases hasks : decision.clarificationQuestions = []
  · rcases run_reportDecision_of_not_asks env actor requestId request scopeHint hasks s
      with ⟨event, hrun⟩ | ⟨fault, hrun⟩ | ⟨invocation, hover, hrun⟩
    · refine Or.inr (Or.inl ⟨?_, ?_, event, (drive_of_constructed hrun h).1⟩)
      · rintro ⟨decision', hdecision', hne⟩
        rw [hintake] at hdecision'
        cases hdecision'
        exact hne hasks
      rintro invocation ⟨decision', hdecision', hover⟩
      rw [hintake] at hdecision'
      cases hdecision'
      -- a decision that hands over awaits the provision workflow instead
      rw [run_reportDecision_of_handsOver hover] at hrun
      exact absurd (congrArg Prod.fst hrun).symm constructed_ne_waiting
    · rw [Coroutine.drive_eq, hrun] at h
      cases h
    · refine Or.inr (Or.inr ⟨invocation, ⟨decision, hintake, hover⟩, ?_⟩)
      rw [Coroutine.drive_eq, hrun] at h
      rw [Coroutine.drive_eq, run_dispatchProvision]
      exact h
  · obtain ⟨hresult, ht⟩ := drive_of_constructed (run_reportDecision_of_asks hasks s) h
    exact Or.inl ⟨⟨decision, hintake, hasks⟩, ⟨_, hresult⟩, ht⟩

/-- How a clarification goes on once it is answered. -/
def continued (env : HarnessEnv) (actor : ActorSession) (requestId answer : String)
    (pending : PendingClarification) : Harness HarnessEvent :=
  match pending.work with
  | .intake prior => classify env actor requestId (prior.clarified answer) pending.scopeHint
  | .provision invocation round =>
      dispatchProvision env actor requestId (invocation.clarified answer) (round + 1)

/-- A resume that succeeds is below the cap, and goes on with what is stored. -/
theorem resume_cases {actor : ActorSession} {requestId interruptId answer : String}
    {workflows : Await → Answer} {s t : HarnessState} {result : HarnessEvent}
    {pending : PendingClarification} (hstored : s.pending.get? requestId = some pending)
    (h : (resumeClarification env actor requestId interruptId answer).drive workflows s =
      (.ok result, t)) :
    pending.work.round + 1 < maxClarificationRounds ∧
      ∃ s', (continued env actor requestId answer pending).drive workflows s' =
        (.ok result, t) := by
  by_cases hvalid : ∃ q, ResumeValid s actor requestId interruptId answer q
  · obtain ⟨q, hvalid⟩ := hvalid
    obtain rfl : q = pending := Option.some.inj (hvalid.stored.symm.trans hstored)
    refine ⟨hvalid.belowCap, { s with pending := s.pending.erase requestId }, ?_⟩
    rw [Coroutine.drive_eq, run_resume_of_valid hvalid] at h
    unfold continued
    unfold resumedAwait resumedCoroutine at h
    cases hwork : q.work with
    | intake prior =>
        rw [hwork] at h
        exact h
    | provision invocation round =>
        rw [hwork] at h
        exact h
  · obtain ⟨error, hraised⟩ := run_resume_of_not_valid env (not_exists.1 hvalid)
    rw [Coroutine.drive_eq, hraised] at h
    cases h

/-! ### Counting the questions -/

/-- What a call that returned this result, and the turns after it, count. -/
def Counts (env : HarnessEnv) (requestId : String) (turns : List Turn) (result : HarnessEvent)
    (t : HarnessState) (n : ℕ) : Prop :=
  (∃ event m, result = .hitl event ∧ resumeTurns env requestId event.eventId turns t = some m ∧
      n = m + 1) ∨
    ∃ event, result = .platform event ∧ n = 0

theorem Counts.of_hitl {requestId : String} {turns : List Turn} {event : HITLEvent}
    {t : HarnessState} {n : ℕ} (h : Counts env requestId turns (.hitl event) t n) :
    ∃ m, resumeTurns env requestId event.eventId turns t = some m ∧ n = m + 1 := by
  rcases h with ⟨event', m, hevent, hm, hn⟩ | ⟨event', hevent, -⟩
  · cases hevent
    exact ⟨m, hm, hn⟩
  · cases hevent

theorem Counts.of_platform {requestId : String} {turns : List Turn} {event : PlatformOpsEvent}
    {t : HarnessState} {n : ℕ} (h : Counts env requestId turns (.platform event) t n) : n = 0 := by
  rcases h with ⟨event', m, hevent, -⟩ | ⟨event', -, hn⟩
  · cases hevent
  · exact hn

/-- The first turn answers a clarification below the cap, and goes on with it. -/
theorem turn_cases {requestId interruptId : String} {turn : Turn} {turns : List Turn}
    {s : HarnessState} {n : ℕ} {pending : PendingClarification}
    (hstored : s.pending.get? requestId = some pending)
    (h : resumeTurns env requestId interruptId (turn :: turns) s = some n) :
    pending.work.round + 1 < maxClarificationRounds ∧
      ∃ s' result t,
        (continued env turn.actor requestId turn.answer pending).drive turn.workflows s' =
          (.ok result, t) ∧ Counts env requestId turns result t n := by
  obtain ⟨result, t, hdrive, hcounts⟩ := tally_eq_some h
  have hlater : (s.after turn.elapsed).pending.get? requestId = some pending := hstored
  obtain ⟨hcap, s', hcontinued⟩ := resume_cases hlater hdrive
  exact ⟨hcap, s', result, t, hcontinued, hcounts⟩

/-- At the cap nothing more is asked. -/
theorem resumeTurns_of_capped {requestId interruptId : String} {turns : List Turn}
    {s : HarnessState} {n : ℕ} {pending : PendingClarification}
    (hstored : s.pending.get? requestId = some pending)
    (hcap : maxClarificationRounds ≤ pending.work.round + 1)
    (h : resumeTurns env requestId interruptId turns s = some n) : n = 0 := by
  cases turns with
  | nil =>
      cases h
      rfl
  | cons turn turns =>
      have hbelow := (turn_cases hstored h).1
      omega

/-- The next turn makes the provision workflow ask again. -/
def AsksAgain (turns : List Turn) (invocation : ProvisionInvocation) : Prop :=
  ∃ turn rest, turns = turn :: rest ∧
    AsksProvision turn.workflows (invocation.clarified turn.answer)
      turn.actor.actor.executionGrants

/-- A provision question of round zero is followed by at most one more. -/
theorem resumeTurns_of_provision {requestId interruptId : String} {turns : List Turn}
    {s : HarnessState} {n : ℕ} {pending : PendingClarification} {invocation : ProvisionInvocation}
    (hstored : s.pending.get? requestId = some pending)
    (hwork : pending.work = .provision invocation 0)
    (h : resumeTurns env requestId interruptId turns s = some n) :
    n ≤ 1 ∧ (n = 1 ↔ AsksAgain turns invocation) := by
  cases turns with
  | nil =>
      cases h
      refine ⟨Nat.zero_le _, fun h => absurd h Nat.zero_ne_one, ?_⟩
      rintro ⟨turn, rest, hturns, -⟩
      cases hturns
  | cons turn turns =>
      obtain ⟨-, s', result, t, hdrive, hcounts⟩ := turn_cases hstored h
      simp only [continued, hwork] at hdrive
      rcases dispatch_cases hdrive with ⟨hasks, ⟨payload, rfl⟩, ht⟩ | ⟨hno, event, rfl⟩
      · -- the second question is stored at round one, which is the cap
        obtain ⟨m, hm, hn⟩ := hcounts.of_hitl
        have hentry : t.pending.get? requestId = some ⟨env.uuid4 s'.minted, turn.actor.actor.userId,
            some invocation.scopeHint, .provision (invocation.clarified turn.answer) 1⟩ := by
          rw [ht]
          exact Dict.get?_set_self _ _ _
        have hm0 := resumeTurns_of_capped hentry (Nat.le_refl 2) hm
        exact ⟨by omega, fun _ => ⟨turn, turns, rfl, hasks⟩, fun _ => by omega⟩
      · have hn := hcounts.of_platform
        refine ⟨by omega, fun h => by omega, ?_⟩
        rintro ⟨turn', rest, hturns, hasks⟩
        cases hturns
        exact absurd hasks hno

/-- The provision stage asks at most two questions. -/
theorem provision_stage {actor : ActorSession} {requestId : String}
    {invocation : ProvisionInvocation} {workflows : Await → Answer} {turns : List Turn}
    {s t : HarnessState} {result : HarnessEvent} {n : ℕ}
    (h : (dispatchProvision env actor requestId invocation 0).drive workflows s = (.ok result, t))
    (hcounts : Counts env requestId turns result t n) :
    n ≤ 2 ∧ (n = 2 ↔ AsksProvision workflows invocation actor.actor.executionGrants ∧
      AsksAgain turns invocation) := by
  rcases dispatch_cases h with ⟨hasks, ⟨payload, rfl⟩, ht⟩ | ⟨hno, event, rfl⟩
  · obtain ⟨m, hm, hn⟩ := hcounts.of_hitl
    have hentry : t.pending.get? requestId = some ⟨env.uuid4 s.minted, actor.actor.userId,
        some invocation.scopeHint, .provision invocation 0⟩ := by
      rw [ht]
      exact Dict.get?_set_self _ _ _
    obtain ⟨hle, hiff⟩ := resumeTurns_of_provision hentry rfl hm
    refine ⟨by omega, fun h2 => ⟨hasks, hiff.1 (by omega)⟩, fun hboth => ?_⟩
    have hm1 := hiff.2 hboth.2
    omega
  · have hn := hcounts.of_platform
    exact ⟨by omega, fun h2 => by omega, fun hboth => absurd hboth.1 hno⟩

/-- The next turn makes the intake hand the request over, and the provision workflow asks twice. -/
def AsksTwiceAfter (turns : List Turn) (request : IntakeRequest) (scopeHint : Option ScopeHint) :
    Prop :=
  ∃ turn rest invocation, turns = turn :: rest ∧
    HandedOver turn.workflows (request.clarified turn.answer) scopeHint invocation ∧
    AsksProvision turn.workflows invocation turn.actor.actor.executionGrants ∧
    AsksAgain rest invocation

/-- An intake question of round zero is followed by at most two more, and by two only if the
provision workflow asks both. -/
theorem resumeTurns_of_intake {requestId interruptId : String} {turns : List Turn}
    {s : HarnessState} {n : ℕ} {pending : PendingClarification} {request : IntakeRequest}
    (hstored : s.pending.get? requestId = some pending) (hwork : pending.work = .intake request)
    (hround : request.clarificationRound = 0)
    (h : resumeTurns env requestId interruptId turns s = some n) :
    n ≤ 2 ∧ (n = 2 ↔ AsksTwiceAfter turns request pending.scopeHint) := by
  cases turns with
  | nil =>
      cases h
      refine ⟨Nat.zero_le _, fun h => absurd h (by decide), ?_⟩
      rintro ⟨turn, rest, invocation, hturns, -⟩
      cases hturns
  | cons turn turns =>
      obtain ⟨-, s', result, t, hdrive, hcounts⟩ := turn_cases hstored h
      simp only [continued, hwork] at hdrive
      rcases classify_cases hdrive with
        ⟨hasks, ⟨payload, rfl⟩, ht⟩ | ⟨-, hno, event, rfl⟩ | ⟨invocation, hover, hdispatch⟩
      · -- a second intake question is stored at round one, which is the cap
        obtain ⟨m, hm, hn⟩ := hcounts.of_hitl
        have hentry : t.pending.get? requestId = some ⟨env.uuid4 s'.minted, turn.actor.actor.userId,
            pending.scopeHint, .intake (request.clarified turn.answer)⟩ := by
          rw [ht]
          exact Dict.get?_set_self _ _ _
        have hcap : maxClarificationRounds ≤
            (PendingWork.intake (request.clarified turn.answer)).round + 1 := by
          show 2 ≤ request.clarificationRound + 1 + 1
          omega
        have hm0 := resumeTurns_of_capped hentry hcap hm
        refine ⟨by omega, fun h => by omega, ?_⟩
        rintro ⟨turn', rest, invocation, hturns, hover, -⟩
        cases hturns
        exact absurd hasks hover.not_asksIntake
      · have hn := hcounts.of_platform
        refine ⟨by omega, fun h => by omega, ?_⟩
        rintro ⟨turn', rest, invocation, hturns, hover, -⟩
        cases hturns
        exact absurd hover (hno invocation)
      · obtain ⟨hle, hiff⟩ := provision_stage hdispatch hcounts
        refine ⟨hle, fun h2 => ?_, ?_⟩
        · obtain ⟨hasks, hagain⟩ := hiff.1 h2
          exact ⟨turn, turns, invocation, rfl, hover, hasks, hagain⟩
        · rintro ⟨turn', rest, invocation', hturns, hover', hasks, hagain⟩
          cases hturns
          obtain rfl := hover.unique hover'
          exact hiff.2 ⟨hasks, hagain⟩

/-- The intake asks, its clarified request is handed over, and the provision workflow asks twice. -/
def AsksOnBothSides (text : String) (scopeHint : Option ScopeHint) (workflows : Await → Answer)
    (turns : List Turn) : Prop :=
  AsksIntake workflows ⟨text, 0⟩ ∧ AsksTwiceAfter turns ⟨text, 0⟩ scopeHint

theorem drive_startRun {actor : ActorSession} {requestId text : String}
    {scopeHint : Option ScopeHint} {workflows : Await → Answer} {s t : HarnessState}
    {result : HarnessEvent}
    (h : (startRun env actor requestId text scopeHint).drive workflows s = (.ok result, t)) :
    (classify env actor requestId ⟨text, 0⟩ scopeHint).drive workflows s = (.ok result, t) := by
  rw [Coroutine.drive_eq, run_startRun] at h
  rw [Coroutine.drive_eq, run_classify]
  by_cases hexpired : actor.isExpired s.now
  · rw [if_pos hexpired] at h
    cases h
  · rw [if_neg hexpired] at h
    exact h

/-- A conversation asks at most three questions, and three only on both sides. -/
theorem questionsAsked_cases {actor : ActorSession} {requestId text : String}
    {scopeHint : Option ScopeHint} {workflows : Await → Answer} {turns : List Turn}
    {s : HarnessState} {n : ℕ}
    (h : questionsAsked env actor requestId text scopeHint workflows turns s = some n) :
    n ≤ 3 ∧ (n = 3 ↔ AsksOnBothSides text scopeHint workflows turns) := by
  obtain ⟨result, t, hdrive, hcounts⟩ := tally_eq_some h
  replace hcounts : Counts env requestId turns result t n := hcounts
  rcases classify_cases (drive_startRun hdrive) with
    ⟨hasks, ⟨payload, rfl⟩, ht⟩ | ⟨hno, -, event, rfl⟩ | ⟨invocation, hover, hdispatch⟩
  · obtain ⟨m, hm, hn⟩ := hcounts.of_hitl
    have hentry : t.pending.get? requestId = some ⟨env.uuid4 s.minted, actor.actor.userId,
        scopeHint, .intake ⟨text, 0⟩⟩ := by
      rw [ht]
      exact Dict.get?_set_self _ _ _
    obtain ⟨hle, hiff⟩ := resumeTurns_of_intake hentry rfl rfl hm
    refine ⟨by omega, fun h3 => ⟨hasks, hiff.1 (by omega)⟩, fun hboth => ?_⟩
    have hm2 := hiff.2 hboth.2
    omega
  · have hn := hcounts.of_platform
    exact ⟨by omega, fun h3 => by omega, fun hboth => absurd hboth.1 hno⟩
  · obtain ⟨hle, -⟩ := provision_stage hdispatch hcounts
    exact ⟨by omega, fun h3 => by omega, fun hboth => absurd hboth.1 hover.not_asksIntake⟩

/-- A conversation asks at most three questions. -/
theorem questionsAsked_le {actor : ActorSession} {requestId text : String}
    {scopeHint : Option ScopeHint} {workflows : Await → Answer} {turns : List Turn}
    {s : HarnessState} {n : ℕ}
    (h : questionsAsked env actor requestId text scopeHint workflows turns s = some n) : n ≤ 3 :=
  (questionsAsked_cases h).1

/-- **A conversation keeps to the cap exactly if it does not ask on both sides.** -/
theorem rounds_within_cap_iff {actor : ActorSession} {requestId text : String}
    {scopeHint : Option ScopeHint} {workflows : Await → Answer} {turns : List Turn}
    {s : HarnessState} {n : ℕ}
    (h : questionsAsked env actor requestId text scopeHint workflows turns s = some n) :
    n ≤ maxClarificationRounds ↔ ¬ AsksOnBothSides text scopeHint workflows turns := by
  obtain ⟨hle, hiff⟩ := questionsAsked_cases h
  rw [← hiff]
  show n ≤ 2 ↔ ¬ n = 3
  omega

/-- A model that names the provision intent. -/
def selectingModel : Model := fun _ =>
  .ok ⟨[.ofPairs [("args", .obj [("intent", .str "provision")])]]⟩

/-- A target without a project and a workspace. -/
def tenantHint : ScopeHint := ⟨aiqTenant, none, none⟩

/-- A turn of this user in which every workflow runs with this model. -/
def answerTurn (answer : String) (model : Model) : Turn :=
  ⟨0, hourSession "alice", answer, fun _ => .ok model⟩

/-- Two questions of the intake keep to the cap. -/
theorem two_intake_questions :
    2 ≤ maxClarificationRounds ↔
      ¬ AsksOnBothSides "set this up" (some tenantHint) (fun _ => .ok silentModel)
        [answerTurn "invoices" silentModel] :=
  have hasked : questionsAsked countingEnv (hourSession "alice") "thread" "set this up"
      (some tenantHint) (fun _ => .ok silentModel) [answerTurn "invoices" silentModel]
      (.initial 0) = some 2 := by decide
  rounds_within_cap_iff hasked

/-- **A third question**: one of the intake, and two of the provision workflow, which asks for the
scope and, as the answer goes into the text only, asks for it again. -/
theorem third_question_asked :
    questionsAsked countingEnv (hourSession "alice") "thread" "set this up" (some tenantHint)
        (fun _ => .ok silentModel)
        [answerTurn "a provision request" selectingModel, answerTurn "invoices dev" silentModel]
        (.initial 0) = some 3 ∧ ¬ 3 ≤ maxClarificationRounds :=
  ⟨by decide, by decide⟩

end PlatformOps
