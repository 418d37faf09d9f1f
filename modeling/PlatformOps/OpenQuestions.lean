/-
**Open questions of the harness.**

A question is open from the step whose call returned its event until a question is stored over it or
a valid resume takes it out.  Every open question has its entry in the table.  The cap refuses the
answer to a question of the last round whatever the answer is, so what decides whether an open
question can be answered is the round it was asked in.

Main definitions:

* `Await.asksWith` — the payload with which the answer to an await asks;
* `InRound` — what a call waits for, and the round of its stage it is in;
* `ReturnsQuestion` — the step ends a call with this question;
* `Supersedes`, `Answers`, `Outstanding` — the steps that close a question, and the open questions;
* `AnswerableIff` — when the resumes of this user pass validation.

Main results:

* `run_asks` — an answer that asks stores a question of the call's round and constructs its event;
* `inRound_of_waiting` — a call of `start_run` is in round zero of its stage, and no call is past
  the last round;
* `entry_stays` — an entry stays while it is neither superseded nor answered;
* `outstanding_answerable_iff` — **every open question has its entry, and can be answered exactly if
  it is of the first round of its stage**.
-/

import PlatformOps.HarnessRuns

set_option relaxedAutoImplicit false
set_option autoImplicit false

namespace PlatformOps

variable {env : HarnessEnv}

/-! ### Rounds -/

/-- The answer to this await asks with this payload. -/
def Await.asksWith : Await → Answer → IntakeDecision → Prop
  | .intake request, answer, payload =>
      intakeAnswer request answer = .ok payload ∧ payload.clarificationQuestions ≠ []
  | .provision invocation grants, answer, payload =>
      ∃ draft, provisionAnswer invocation grants answer = .ok draft ∧
        draft.clarificationQuestions ≠ [] ∧
        payload =
          { IntakeDecision.blank with clarificationQuestions := draft.clarificationQuestions }

/-- What a call waits for, how it goes on, and the round of its stage it is in. -/
inductive InRound (env : HarnessEnv) :
    HarnessCall → ℕ → Await → (Answer → Harness HarnessEvent) → Prop
  | intake (call : HarnessCall) (request : IntakeRequest) (scopeHint : Option ScopeHint) :
      InRound env call request.clarificationRound (.intake request)
        (afterIntake env call.actor call.requestId request scopeHint)
  | provision (call : HarnessCall) (invocation : ProvisionInvocation) (round : ℕ) :
      InRound env call round (.provision invocation call.actor.actor.executionGrants)
        (afterProvision env call.actor call.requestId invocation round)

/-- The last round a call can be in: a new run is in the first one of each stage. -/
def HarnessCall.lastRound : HarnessCall → ℕ
  | .start .. => 0
  | .resume .. => maxClarificationRounds - 1

/-- **An answer that asks stores a question of the call's round and constructs its event.** -/
theorem run_asks {call : HarnessCall} {round : ℕ} {i : Await}
    {k : Answer → Harness HarnessEvent} (h : InRound env call round i k) {answer : Answer}
    {payload : IntakeDecision} (hasks : i.asksWith answer payload) (s : HarnessState) :
    ∃ scopeHint work, work.round = round ∧
      (k answer).run s =
        (constructed env (s.minted + 1)
            (.hitl (questionEvent env s call.actor call.requestId payload)),
          s.asked env call.actor call.requestId scopeHint work) := by
  cases h with
  | intake request scopeHint =>
      obtain ⟨hdecision, hne⟩ := hasks
      refine ⟨scopeHint, .intake request, rfl, ?_⟩
      rw [run_afterIntake, hdecision]
      exact run_reportDecision_of_asks hne s
  | provision invocation round =>
      obtain ⟨draft, hdraft, hne, rfl⟩ := hasks
      refine ⟨some invocation.scopeHint, .provision invocation round, rfl, ?_⟩
      rw [run_afterProvision, hdraft]
      exact run_reportDraft_of_asks hne s

theorem constructed_platform_ne {minted : ℕ} {event : PlatformOpsEvent} {question : HITLEvent} :
    constructed env minted (.platform event) ≠ .returned (.hitl question) := by
  unfold constructed
  cases env.eventFault minted with
  | some fault => simp
  | none => simp

theorem constructed_hitl_eq {minted : ℕ} {event question : HITLEvent}
    (h : constructed env minted (.hitl event) = .returned (.hitl question)) : question = event := by
  unfold constructed at h
  cases hfault : env.eventFault minted with
  | some fault =>
      rw [hfault] at h
      cases h
  | none =>
      rw [hfault] at h
      cases h
      rfl

/-- Only an answer that asks returns a question. -/
theorem asks_of_returned {call : HarnessCall} {round : ℕ} {i : Await}
    {k : Answer → Harness HarnessEvent} (h : InRound env call round i k) {answer : Answer}
    {s : HarnessState} {event : HITLEvent}
    (hreturned : ((k answer).run s).1 = .returned (.hitl event)) :
    ∃ payload, i.asksWith answer payload := by
  by_contra hno
  push Not at hno
  cases h with
  | intake request scopeHint =>
      rw [run_afterIntake] at hreturned
      rcases hdecision : intakeAnswer request answer with fault | decision
      · rw [hdecision] at hreturned
        cases hreturned
      rw [hdecision] at hreturned
      dsimp only at hreturned
      by_cases hasks : decision.clarificationQuestions = []
      · rcases run_reportDecision_of_not_asks env call.actor call.requestId request scopeHint
            hasks s
          with ⟨report, hrun⟩ | ⟨fault, hrun⟩ | ⟨invocation, -, hrun⟩
        · rw [hrun] at hreturned
          exact constructed_platform_ne hreturned
        · rw [hrun] at hreturned
          cases hreturned
        · rw [hrun] at hreturned
          cases hreturned
      · exact hno decision ⟨hdecision, hasks⟩
  | provision invocation round =>
      rw [run_afterProvision] at hreturned
      rcases hdraft : provisionAnswer invocation call.actor.actor.executionGrants answer
        with fault | draft
      · rw [hdraft] at hreturned
        cases hreturned
      rw [hdraft] at hreturned
      dsimp only at hreturned
      by_cases hasks : draft.clarificationQuestions = []
      · obtain ⟨report, hrun⟩ := run_reportDraft_of_not_asks env call.actor call.requestId
          invocation round hasks s
        rw [hrun] at hreturned
        exact constructed_platform_ne hreturned
      · exact hno _ ⟨draft, hdraft, hasks, rfl⟩

/-- A call waits in a round that is not past its last one. -/
def AtMostLast (env : HarnessEnv) (call : HarnessCall) (i : Await)
    (k : Answer → Harness HarnessEvent) : Prop :=
  ∃ round ≤ call.lastRound, InRound env call round i k

/-- **A call of `start_run` is in round zero of its stage, and no call is past the last round.** -/
theorem suspends_atMostLast : (harness env).Suspends (AtMostLast env) where
  first := by
    intro call s i k hwait
    cases call with
    | start actor requestId text scopeHint =>
        have hrun : ((startRun env actor requestId text scopeHint).run s).1 = .waiting i k := hwait
        rw [run_startRun] at hrun
        split at hrun
        · cases hrun
        · cases hrun
          exact ⟨0, le_rfl, .intake (.start actor requestId text scopeHint) ⟨text, 0⟩ scopeHint⟩
    | resume actor requestId interruptId answer =>
        have hrun : ((resumeClarification env actor requestId interruptId answer).run s).1 =
          .waiting i k := hwait
        by_cases hvalid : ∃ pending, ResumeValid s actor requestId interruptId answer pending
        · obtain ⟨pending, hvalid⟩ := hvalid
          have hcap := hvalid.belowCap
          rw [run_resume_of_valid hvalid] at hrun
          rcases hwork : pending.work with prior | ⟨invocation, round⟩
          · simp only [resumedAwait, resumedCoroutine, hwork] at hrun
            cases hrun
            rw [hwork] at hcap
            have hround : prior.clarificationRound + 1 ≤ maxClarificationRounds - 1 :=
              Nat.le_sub_one_of_lt hcap
            exact ⟨_, hround, .intake (.resume actor requestId interruptId answer)
              (prior.clarified answer) pending.scopeHint⟩
          · simp only [resumedAwait, resumedCoroutine, hwork] at hrun
            cases hrun
            rw [hwork] at hcap
            have hround : round + 1 ≤ maxClarificationRounds - 1 := Nat.le_sub_one_of_lt hcap
            exact ⟨_, hround, .provision (.resume actor requestId interruptId answer) _ _⟩
        · obtain ⟨error, hraised⟩ := run_resume_of_not_valid env (not_exists.1 hvalid)
          rw [hraised] at hrun
          cases hrun
  next := by
    rintro call i k ⟨round, hround, hin⟩ answer s i' k' hwait
    have hasks : ∀ payload, ¬ i.asksWith answer payload := by
      intro payload hasks
      obtain ⟨scopeHint, work, -, hrun⟩ := run_asks hin hasks s
      rw [hrun] at hwait
      exact constructed_ne_waiting hwait
    cases hin with
    | intake request scopeHint =>
        rw [run_afterIntake] at hwait
        rcases hdecision : intakeAnswer request answer with fault | decision
        · rw [hdecision] at hwait
          cases hwait
        rw [hdecision] at hwait
        dsimp only at hwait
        have hnone : decision.clarificationQuestions = [] := by
          by_contra hne
          exact hasks decision ⟨hdecision, hne⟩
        rcases run_reportDecision_of_not_asks env call.actor call.requestId request scopeHint
            hnone s
          with ⟨event, hrun⟩ | ⟨fault, hrun⟩ | ⟨invocation, -, hrun⟩
        · rw [hrun] at hwait
          exact absurd hwait constructed_ne_waiting
        · rw [hrun] at hwait
          cases hwait
        · -- the stage that is handed over to starts at round zero
          rw [hrun] at hwait
          cases hwait
          exact ⟨0, Nat.zero_le _, .provision call invocation 0⟩
    | provision invocation round =>
        rw [run_afterProvision] at hwait
        rcases hdraft : provisionAnswer invocation call.actor.actor.executionGrants answer
          with fault | draft
        · rw [hdraft] at hwait
          cases hwait
        rw [hdraft] at hwait
        dsimp only at hwait
        have hnone : draft.clarificationQuestions = [] := by
          by_contra hne
          exact hasks _ ⟨draft, hdraft, hne, rfl⟩
        obtain ⟨event, hrun⟩ := run_reportDraft_of_not_asks env call.actor call.requestId
          invocation round hnone s
        rw [hrun] at hwait
        exact absurd hwait constructed_ne_waiting

/-- What is known of a call that waits in a run. -/
theorem inRound_of_waiting {now : ℕ} {steps : List HarnessStep} {n : ℕ} {call : HarnessCall}
    {i : Await} {k : Answer → Harness HarnessEvent}
    (h : (harnessRun env now steps).tasks[n]? = some ⟨call, .waiting i k⟩) :
    ∃ round ≤ call.lastRound, InRound env call round i k :=
  suspends_atMostLast.waiting _ _ n call i k h

/-! ### Open questions -/

/-- The step runs a segment of this call, and the call returns this question. -/
def ReturnsQuestion (env : HarnessEnv) (p : HarnessPool) (e : HarnessStep) (call : HarnessCall)
    (event : HITLEvent) : Prop :=
  ∃ c, (harness env).Runs p e call c ∧ (c.run p.world).1 = .returned (.hitl event)

/-- The step asks another question under this request id. -/
def Supersedes (p : HarnessPool) (e : HarnessStep) (requestId : String) : Prop :=
  ∃ call, AsksFor p e call ∧ call.requestId = requestId

/-- The step is a valid resume that names this interrupt. -/
def Answers (p : HarnessPool) (e : HarnessStep) (requestId interruptId : String) : Prop :=
  ∃ actor answer pending, Resumes p e actor requestId interruptId answer pending

/-- The step leaves a question open. -/
def LeavesOpen (event : HITLEvent) (p : HarnessPool) (e : HarnessStep) : Prop :=
  ¬ Supersedes p e event.requestId ∧ ¬ Answers p e event.requestId event.eventId

/-- A call of the run returned the question, and no later step superseded or answered it. -/
def Outstanding (env : HarnessEnv) (now : ℕ) (steps : List HarnessStep) (call : HarnessCall)
    (event : HITLEvent) : Prop :=
  ∃ pre e post, steps = pre ++ e :: post ∧
    ReturnsQuestion env (harnessRun env now pre) e call event ∧
    (harness env).Throughout (LeavesOpen event) (harnessRun env now (pre ++ [e])) post

/-- The first segment of a call returns nothing. -/
theorem not_returned_of_spawn {call : HarnessCall} {s : HarnessState} {event : HarnessEvent} :
    ((callCoroutine env call).run s).1 ≠ .returned event := by
  intro hreturned
  cases call with
  | start actor requestId text scopeHint =>
      have hrun : ((startRun env actor requestId text scopeHint).run s).1 = .returned event :=
        hreturned
      rw [run_startRun] at hrun
      split at hrun
      · cases hrun
      · cases hrun
  | resume actor requestId interruptId answer =>
      have hrun : ((resumeClarification env actor requestId interruptId answer).run s).1 =
        .returned event := hreturned
      by_cases hvalid : ∃ pending, ResumeValid s actor requestId interruptId answer pending
      · obtain ⟨pending, hvalid⟩ := hvalid
        rw [run_resume_of_valid hvalid] at hrun
        cases hrun
      · obtain ⟨error, hraised⟩ := run_resume_of_not_valid env (not_exists.1 hvalid)
        rw [hraised] at hrun
        cases hrun

/-- **What a step does that returns a question**: it stores the question under the request id of the
call, in a round that is not past the call's last one. -/
theorem returnsQuestion_spec {now : ℕ} {steps : List HarnessStep} {e : HarnessStep}
    {call : HarnessCall} {event : HITLEvent}
    (h : ReturnsQuestion env (harnessRun env now steps) e call event) :
    ∃ n answer i k payload scopeHint work, e = .deliver n answer ∧
      (harnessRun env now steps).tasks[n]? = some ⟨call, .waiting i k⟩ ∧
      i.asksWith answer payload ∧ work.round ≤ call.lastRound ∧
      event = questionEvent env (harnessRun env now steps).world call.actor call.requestId payload ∧
      (harnessRun env now (steps ++ [e])).world =
        (harnessRun env now steps).world.asked env call.actor call.requestId scopeHint work := by
  obtain ⟨c, hruns, hreturned⟩ := h
  rw [harnessRun_concat, hruns.world]
  cases hruns with
  | spawn => exact absurd hreturned not_returned_of_spawn
  | deliver answer htask =>
      rename_i n i k
      obtain ⟨round, hround, hin⟩ := inRound_of_waiting htask
      obtain ⟨payload, hasks⟩ := asks_of_returned hin hreturned
      obtain ⟨scopeHint, work, hwork, hrun⟩ := run_asks hin hasks (harnessRun env now steps).world
      rw [hrun] at hreturned
      refine ⟨n, answer, i, k, payload, scopeHint, work, rfl, htask, hasks, hwork ▸ hround,
        constructed_hitl_eq hreturned, ?_⟩
      rw [hrun]

/-- **An entry stays while it is neither superseded nor answered.** -/
theorem entry_stays {p : HarnessPool} (hp : System.Waiting (Suspended env) p) {e : HarnessStep}
    {requestId : String} {pending : PendingClarification}
    (hstored : p.world.pending.get? requestId = some pending) (hkept : ¬ Supersedes p e requestId)
    (hopen : ¬ Answers p e requestId pending.interruptId) :
    ((harness env).step p e).world.pending.get? requestId = some pending := by
  have heffect := step_effect hp e
  generalize ((harness env).step p e).world = s at heffect
  cases heffect with
  | kept hpending hminted hnow hasks hresumes =>
      rw [hpending]
      exact hstored
  | popped hresumes =>
      rename_i actor requestId' interruptId answer pending'
      have hkey : requestId ≠ requestId' := by
        rintro rfl
        have hsame : pending' = pending :=
          Option.some.inj (hresumes.2.stored.symm.trans hstored)
        subst hsame
        exact hopen ⟨actor, answer, pending', by rw [hresumes.2.named]; exact hresumes⟩
      rw [Dict.get?_erase_of_ne _ hkey]
      exact hstored
  | asked hasks scopeHint work =>
      rename_i call
      have hkey : requestId ≠ call.requestId := by
        rintro rfl
        exact hkept ⟨call, hasks, rfl⟩
      rw [HarnessState.asked, Dict.get?_set_of_ne _ _ hkey]
      exact hstored

/-- The entry of an open question stays through the rest of the run. -/
theorem entry_stays_run {now : ℕ} {steps : List HarnessStep} {event : HITLEvent}
    {pending : PendingClarification} (hnamed : pending.interruptId = event.eventId)
    (hstored : (harnessRun env now steps).world.pending.get? event.requestId = some pending)
    {post : List HarnessStep}
    (hopen : (harness env).Throughout (LeavesOpen event) (harnessRun env now steps) post) :
    (harnessRun env now (steps ++ post)).world.pending.get? event.requestId = some pending := by
  induction post generalizing steps with
  | nil => rwa [List.append_nil]
  | cons e post ih =>
      obtain ⟨hfirst, hrest⟩ := hopen
      have hnext : (harnessRun env now (steps ++ [e])).world.pending.get? event.requestId =
          some pending := by
        rw [harnessRun_concat]
        exact entry_stays (waiting_suspended now steps) hstored hfirst.1 (hnamed ▸ hfirst.2)
      rw [← harnessRun_concat] at hrest
      have hlast := ih hnext hrest
      rwa [List.append_assoc, List.singleton_append] at hlast

/-! ### Which questions can be answered -/

/-- A resume by this user, naming this interrupt, passes validation exactly under this condition,
whatever the session and the answer are. -/
def AnswerableIff (s : HarnessState) (userId requestId interruptId : String) (condition : Prop) :
    Prop :=
  ∀ (actor : ActorSession) (answer : String), actor.actor.userId = userId →
    actor.isExpired s.now = false → answer ≠ "" →
      ((∃ pending, ResumeValid s actor requestId interruptId answer pending) ↔ condition)

theorem answerableIff_of_stored {s : HarnessState} {requestId : String}
    {pending : PendingClarification} (hstored : s.pending.get? requestId = some pending) :
    AnswerableIff s pending.actorId requestId pending.interruptId (pending.work.round = 0) := by
  intro actor answer hactor hactive hanswer
  constructor
  · rintro ⟨pending', hvalid⟩
    have hsame : pending' = pending := Option.some.inj (hvalid.stored.symm.trans hstored)
    have hcap := hvalid.belowCap
    rw [hsame, maxClarificationRounds] at hcap
    omega
  · intro hround
    refine ⟨pending, hactive, hstored, rfl, hactor.symm, hanswer, ?_⟩
    rw [hround, maxClarificationRounds]
    omega

/-- A session of this user that is active now. -/
def sessionOf (userId : String) (now : ℕ) : ActorSession :=
  ⟨"session", ⟨userId, "", []⟩, now + 1⟩

theorem sessionOf_active (userId : String) (now : ℕ) :
    (sessionOf userId now).isExpired now = false := by
  simp [ActorSession.isExpired, sessionOf]

/-- An entry can be consumed at some time exactly if it is of the first round. -/
theorem consumable_iff {now : ℕ} {steps : List HarnessStep} {requestId : String}
    {pending : PendingClarification}
    (hstored : (harnessRun env now steps).world.pending.get? requestId = some pending) :
    (∃ more actor answer, ResumeValid (harnessRun env now (steps ++ more)).world actor requestId
        pending.interruptId answer pending) ↔ pending.work.round = 0 := by
  constructor
  · rintro ⟨more, actor, answer, hvalid⟩
    have hcap := hvalid.belowCap
    rw [maxClarificationRounds] at hcap
    omega
  · intro hround
    let actor := sessionOf pending.actorId (harnessRun env now steps).world.now
    obtain ⟨pending', hvalid⟩ := (answerableIff_of_stored hstored actor "yes" rfl
      (sessionOf_active _ _) (by decide)).2 hround
    have hsame : pending' = pending := Option.some.inj (hvalid.stored.symm.trans hstored)
    rw [hsame] at hvalid
    refine ⟨[], actor, "yes", ?_⟩
    rw [List.append_nil]
    exact hvalid

/-- **Every open question has its entry, and can be answered exactly if it is of the first round of
its stage**, as all questions of new runs are.  The entries that nobody can ever consume are those
of the later rounds. -/
theorem outstanding_answerable_iff (now : ℕ) (steps : List HarnessStep) :
    (∀ call event, Outstanding env now steps call event →
      ∃ pending, (harnessRun env now steps).world.pending.get? event.requestId = some pending ∧
        pending.interruptId = event.eventId ∧ pending.actorId = event.actor.userId ∧
        pending.work.round ≤ call.lastRound ∧
        AnswerableIff (harnessRun env now steps).world event.actor.userId event.requestId event.eventId
          (pending.work.round = 0)) ∧
      ∀ requestId pending,
        (harnessRun env now steps).world.pending.get? requestId = some pending →
          ((∃ more actor answer, ResumeValid (harnessRun env now (steps ++ more)).world actor
              requestId pending.interruptId answer pending) ↔ pending.work.round = 0) := by
  refine ⟨?_, fun requestId pending hstored => consumable_iff hstored⟩
  rintro call event ⟨pre, e, post, rfl, hreturns, hopen⟩
  obtain ⟨n, answer, i, k, payload, scopeHint, work, -, -, -, hround, hevent, hworld⟩ :=
    returnsQuestion_spec hreturns
  let pending : PendingClarification :=
    ⟨event.eventId, event.actor.userId, scopeHint, work⟩
  have hasked : (harnessRun env now (pre ++ [e])).world.pending.get? event.requestId =
      some pending := by
    subst hevent
    rw [hworld]
    exact Dict.get?_set_self _ _ _
  have hnamed : pending.interruptId = event.eventId := rfl
  have hstored := entry_stays_run hnamed hasked hopen
  rw [List.append_assoc, List.singleton_append] at hstored
  exact ⟨pending, hstored, rfl, rfl, hround, answerableIff_of_stored hstored⟩

/-- A run in which the intake asks twice. -/
def askedTwice : List HarnessStep :=
  askingRun 0 "alice" "thread" ++
    [resumeStep "alice" "thread" "0" "invoices", .deliver 1 (.ok silentModel)]

/-- The question of the second round. -/
def secondQuestion : HITLEvent :=
  questionEvent countingEnv ⟨.empty, 0, 1⟩ (hourSession "alice") "thread"
    (askedDecision defaultIntentQuestion)

/-- **The second question of the intake is a dead end**: it is open, its actor has an active session
and an answer, and no resume passes validation then or later. -/
theorem second_question_dead_end :
    Outstanding countingEnv 0 askedTwice
        (.resume (hourSession "alice") "thread" "0" "invoices") secondQuestion ∧
      (hourSession "alice").actor.userId = secondQuestion.actor.userId ∧
      (hourSession "alice").isExpired (harnessRun countingEnv 0 askedTwice).world.now = false ∧
      (¬ ∃ pending, ResumeValid (harnessRun countingEnv 0 askedTwice).world (hourSession "alice")
        secondQuestion.requestId secondQuestion.eventId "to dev" pending) ∧
      ∃ pending, (harnessRun countingEnv 0 askedTwice).world.pending.get? "thread" = some pending ∧
        ¬ ∃ more actor answer, ResumeValid (harnessRun countingEnv 0 (askedTwice ++ more)).world
          actor "thread" pending.interruptId answer pending := by
  have hworld : (harnessRun countingEnv 0 askedTwice).world.pending.get? "thread" =
      some ⟨"1", "alice", none, .intake ⟨clarifiedText "set this up" "invoices", 1⟩⟩ := by
    decide
  refine ⟨⟨askingRun 0 "alice" "thread" ++ [resumeStep "alice" "thread" "0" "invoices"],
      .deliver 1 (.ok silentModel), [], rfl, ⟨_, .deliver _ rfl, ?_⟩, trivial⟩,
    rfl, by decide, ?_, _, hworld, ?_⟩
  · rfl
  · rintro ⟨pending, hvalid⟩
    have hsame := Option.some.inj (hvalid.stored.symm.trans hworld)
    have hcap := hvalid.belowCap
    rw [hsame] at hcap
    exact absurd hcap (by decide)
  · rw [consumable_iff hworld]
    decide

end PlatformOps
