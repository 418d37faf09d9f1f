/-
**Runs of the harness.**

The statements here are about every interleaving of any number of calls, by any actors, on any
request ids.

An event id is generated when a question is stored, and it is stored under one request id at a time:
the resume that takes it out spends it, and nothing puts it back.  So an interrupt is resumed at
most once, and a resume whose workflow raises has lost its clarification.  The table is keyed by a
request id that the caller chooses, and storing a question does not look at who is there: a question
of one actor replaces the clarification of another.

Main definitions:

* `harnessRun`, `consumed` — a run of a new harness, and the interrupts its resumes consumed;
* `Accounted` — every interrupt id is generated, stored at most once, and not stored once it is
  spent;
* `Overwrites`, `Isolated` — the steps that ask over another actor's clarification, and the steps
  that respect the clarifications of the others;
* `FailedResume` — a valid resume whose workflow raised.

Main results:

* `accounted_run` — the accounts hold throughout every run;
* `resumes_consume_once` — **an interrupt is consumed at most once, and a resume that consumes none
  is rejected and leaves the table alone**;
* `isolated_iff_never_overwrites` — **a run isolates the actors exactly if no step of it asks over
  another actor's clarification**;
* `failed_resume_loses_clarification` — **a valid resume whose workflow raised has lost its
  clarification for good**.
-/

import PlatformOps.Harness

set_option relaxedAutoImplicit false
set_option autoImplicit false

namespace PlatformOps

variable (env : HarnessEnv)

/-- A run of a new harness. -/
def harnessRun (now : ℕ) (steps : List HarnessStep) : HarnessPool :=
  (harness env).run (.initial now) steps

variable {env}

theorem harnessRun_concat (now : ℕ) (steps : List HarnessStep) (e : HarnessStep) :
    harnessRun env now (steps ++ [e]) = (harness env).step (harnessRun env now steps) e :=
  System.run_concat _ steps e

theorem waiting_suspended (now : ℕ) (steps : List HarnessStep) :
    System.Waiting (Suspended env) (harnessRun env now steps) :=
  suspends_suspended.waiting _ _

/-! ### Consumed interrupts -/

variable (env) in
/-- The interrupt a step consumes: it is a resume that names it, and goes on to its workflow. -/
def consumedBy (p : HarnessPool) : HarnessStep → Option String
  | .spawn (.resume actor requestId interruptId answer) =>
      match ((resumeClarification env actor requestId interruptId answer).run p.world).1 with
      | .waiting _ _ => some interruptId
      | _ => none
  | _ => none

variable (env) in
/-- The interrupts consumed from a pool on, in order. -/
def consumedFrom (p : HarnessPool) : List HarnessStep → List String
  | [] => []
  | e :: steps => (consumedBy env p e).toList ++ consumedFrom ((harness env).step p e) steps

variable (env) in
/-- The interrupts consumed in a run of a new harness, in order. -/
def consumed (now : ℕ) (steps : List HarnessStep) : List String :=
  consumedFrom env ⟨.initial now, []⟩ steps

/-- A step consumes an interrupt exactly if it is a valid resume that names it. -/
theorem consumedBy_eq_some_iff {p : HarnessPool} {e : HarnessStep} {interruptId : String} :
    consumedBy env p e = some interruptId ↔
      ∃ actor requestId answer pending,
        Resumes p e actor requestId interruptId answer pending := by
  constructor
  · intro h
    cases e with
    | deliver n answer => cases h
    | environment t => cases h
    | spawn call =>
        cases call with
        | start actor requestId text scopeHint => cases h
        | resume actor requestId interruptId' answer =>
            by_cases hvalid : ∃ pending,
                ResumeValid p.world actor requestId interruptId' answer pending
            · obtain ⟨pending, hvalid⟩ := hvalid
              simp only [consumedBy, run_resume_of_valid hvalid, Option.some.injEq] at h
              subst h
              exact ⟨actor, requestId, answer, pending, rfl, hvalid⟩
            · obtain ⟨error, hraised⟩ := run_resume_of_not_valid env (not_exists.1 hvalid)
              simp only [consumedBy, hraised] at h
              cases h
  · rintro ⟨actor, requestId, answer, pending, rfl, hvalid⟩
    simp only [consumedBy, run_resume_of_valid hvalid]

theorem consumedFrom_append (p : HarnessPool) (steps more : List HarnessStep) :
    consumedFrom env p (steps ++ more) =
      consumedFrom env p steps ++ consumedFrom env ((harness env).runFrom p steps) more := by
  induction steps generalizing p with
  | nil => rfl
  | cons e steps ih =>
      rw [List.cons_append, consumedFrom, consumedFrom, ih, List.append_assoc, System.runFrom_cons]

theorem consumed_append (now : ℕ) (steps more : List HarnessStep) :
    consumed env now (steps ++ more) =
      consumed env now steps ++ consumedFrom env (harnessRun env now steps) more :=
  consumedFrom_append _ steps more

/-! ### The accounts -/

/-- Every interrupt id was generated, is stored under at most one request id, and is not stored once
it is spent. -/
structure Accounted (env : HarnessEnv) (spent : List String) (s : HarnessState) : Prop where
  spentMinted : ∀ id ∈ spent, ∃ n < s.minted, id = env.uuid4 n
  storedMinted : ∀ requestId pending, s.pending.get? requestId = some pending →
    ∃ n < s.minted, pending.interruptId = env.uuid4 n
  distinct : ∀ requestId requestId' pending pending', s.pending.get? requestId = some pending →
    s.pending.get? requestId' = some pending' → pending.interruptId = pending'.interruptId →
    requestId = requestId'
  gone : ∀ id ∈ spent, ∀ requestId pending, s.pending.get? requestId = some pending →
    pending.interruptId ≠ id
  nodup : spent.Nodup

theorem Accounted.initial (now : ℕ) : Accounted env [] (.initial now) where
  spentMinted := by simp
  storedMinted := by simp [HarnessState.initial]
  distinct := by simp [HarnessState.initial]
  gone := by simp
  nodup := List.nodup_nil

/-- The accounts survive a change that keeps the table. -/
theorem Accounted.kept {spent : List String} {s s' : HarnessState} (h : Accounted env spent s)
    (hpending : s'.pending = s.pending) (hminted : s.minted ≤ s'.minted) :
    Accounted env spent s' where
  spentMinted := by
    intro id hid
    obtain ⟨n, hn, heq⟩ := h.spentMinted id hid
    exact ⟨n, by omega, heq⟩
  storedMinted := by
    rw [hpending]
    intro requestId pending hstored
    obtain ⟨n, hn, heq⟩ := h.storedMinted requestId pending hstored
    exact ⟨n, by omega, heq⟩
  distinct := by
    rw [hpending]
    exact h.distinct
  gone := by
    rw [hpending]
    exact h.gone
  nodup := h.nodup

/-- An entry that is taken out is spent. -/
theorem Accounted.popped {spent : List String} {s : HarnessState} (h : Accounted env spent s)
    {requestId : String} {pending : PendingClarification}
    (hstored : s.pending.get? requestId = some pending) :
    Accounted env (spent ++ [pending.interruptId])
      { s with pending := s.pending.erase requestId } where
  spentMinted := by
    intro id hid
    rcases List.mem_append.1 hid with hold | hnew
    · exact h.spentMinted id hold
    · rw [List.mem_singleton.1 hnew]
      exact h.storedMinted requestId pending hstored
  storedMinted := by
    intro requestId' pending' hstored'
    exact h.storedMinted requestId' pending' (Dict.get?_erase_eq_some_iff.1 hstored').2
  distinct := by
    intro r r' q q' hq hq' heq
    exact h.distinct r r' q q' (Dict.get?_erase_eq_some_iff.1 hq).2
      (Dict.get?_erase_eq_some_iff.1 hq').2 heq
  gone := by
    intro id hid requestId' pending' hstored' heq
    obtain ⟨hne, hold⟩ := Dict.get?_erase_eq_some_iff.1 hstored'
    rcases List.mem_append.1 hid with hspent | hnew
    · exact h.gone id hspent requestId' pending' hold heq
    · -- the same id under another request id would be stored twice
      rw [List.mem_singleton.1 hnew] at heq
      exact hne (h.distinct requestId' requestId pending' pending hold hstored heq)
  nodup := by
    refine List.nodup_append.2 ⟨h.nodup, List.nodup_singleton _, ?_⟩
    intro id hid id' hid' heq
    rw [heq, List.mem_singleton.1 hid'] at hid
    exact h.gone _ hid requestId pending hstored rfl

/-- A question is stored under an id that was not generated before. -/
theorem Accounted.asked (huuid : Function.Injective env.uuid4) {spent : List String}
    {s : HarnessState} (h : Accounted env spent s) (actor : ActorSession) (requestId : String)
    (scopeHint : Option ScopeHint) (work : PendingWork) :
    Accounted env spent (s.asked env actor requestId scopeHint work) := by
  -- whatever was generated before differs from the new id
  have hfresh : ∀ id, (∃ n < s.minted, id = env.uuid4 n) → id ≠ env.uuid4 s.minted := by
    rintro id ⟨n, hn, rfl⟩ heq
    exact absurd (huuid heq) (Nat.ne_of_lt hn)
  have hmore : ∀ id, (∃ n < s.minted, id = env.uuid4 n) → ∃ n < s.minted + 1, id = env.uuid4 n := by
    rintro id ⟨n, hn, rfl⟩
    exact ⟨n, by omega, rfl⟩
  refine ⟨fun id hid => hmore id (h.spentMinted id hid), ?_, ?_, ?_, h.nodup⟩
  · intro requestId' pending hstored
    rcases Dict.get?_set_eq_some_iff.1 hstored with ⟨-, rfl⟩ | ⟨-, hold⟩
    · exact ⟨s.minted, Nat.lt_succ_self _, rfl⟩
    · exact hmore _ (h.storedMinted requestId' pending hold)
  · intro r r' q q' hq hq' heq
    rcases Dict.get?_set_eq_some_iff.1 hq with ⟨rfl, rfl⟩ | ⟨-, hold⟩
    · rcases Dict.get?_set_eq_some_iff.1 hq' with ⟨rfl, -⟩ | ⟨-, hold'⟩
      · rfl
      · exact absurd heq.symm (hfresh _ (h.storedMinted r' q' hold'))
    · rcases Dict.get?_set_eq_some_iff.1 hq' with ⟨rfl, rfl⟩ | ⟨-, hold'⟩
      · exact absurd heq (hfresh _ (h.storedMinted r q hold))
      · exact h.distinct r r' q q' hold hold' heq
  · intro id hid requestId' pending hstored heq
    rcases Dict.get?_set_eq_some_iff.1 hstored with ⟨-, rfl⟩ | ⟨-, hold⟩
    · exact hfresh id (h.spentMinted id hid) heq.symm
    · exact h.gone id hid requestId' pending hold heq

/-- **A step keeps the accounts**, with the interrupt it consumes among the spent ones. -/
theorem Accounted.step (huuid : Function.Injective env.uuid4) {spent : List String}
    {p : HarnessPool} (hp : System.Waiting (Suspended env) p) (h : Accounted env spent p.world)
    (e : HarnessStep) :
    Accounted env (spent ++ (consumedBy env p e).toList) ((harness env).step p e).world := by
  have heffect := step_effect hp e
  generalize ((harness env).step p e).world = s at heffect
  have hnone : (∀ actor requestId interruptId answer pending,
      ¬ Resumes p e actor requestId interruptId answer pending) → consumedBy env p e = none := by
    intro hno
    refine Option.eq_none_iff_forall_ne_some.2 fun id hid => ?_
    obtain ⟨actor, requestId, answer, pending, hresumes⟩ := consumedBy_eq_some_iff.1 hid
    exact hno _ _ _ _ _ hresumes
  cases heffect with
  | kept hpending hminted hnow hasks hresumes =>
      rw [hnone hresumes, Option.toList_none, List.append_nil]
      exact h.kept hpending hminted
  | popped hresumes =>
      rw [consumedBy_eq_some_iff.2 ⟨_, _, _, _, hresumes⟩, Option.toList_some, ← hresumes.2.named]
      exact h.popped hresumes.2.stored
  | asked hasks scopeHint work =>
      have hno : consumedBy env p e = none := by
        refine hnone fun actor requestId interruptId answer pending hresumes => ?_
        rw [hresumes.1] at hasks
        exact not_asksFor_spawn hasks
      rw [hno, Option.toList_none, List.append_nil]
      exact h.asked huuid _ _ scopeHint work

/-- **The accounts hold throughout every run.** -/
theorem accounted_run (huuid : Function.Injective env.uuid4) (now : ℕ)
    (steps : List HarnessStep) :
    Accounted env (consumed env now steps) (harnessRun env now steps).world := by
  induction steps using List.reverseRecOn with
  | nil => exact Accounted.initial now
  | append_singleton steps e ih =>
      rw [consumed_append, harnessRun_concat]
      simpa [consumedFrom] using ih.step huuid (waiting_suspended now steps) e

/-- What is consumed by a step of a run is spent in the rest of it. -/
theorem consumedBy_mem_consumed {now : ℕ} {pre : List HarnessStep} {e : HarnessStep}
    {interruptId : String} (h : consumedBy env (harnessRun env now pre) e = some interruptId)
    (post : List HarnessStep) : interruptId ∈ consumed env now (pre ++ e :: post) := by
  rw [consumed_append, consumedFrom, h, Option.toList_some]
  simp

/-! ### One resume for each interrupt -/

variable (env) in
/-- A resume that consumes no interrupt raises a `ValueError` and changes nothing. -/
def RejectsCleanly (p : HarnessPool) (e : HarnessStep) : Prop :=
  ∀ actor requestId interruptId answer, e = .spawn (.resume actor requestId interruptId answer) →
    consumedBy env p e = none →
      ∃ error, (harness env).step p e =
        ⟨p.world, p.tasks ++ [⟨.resume actor requestId interruptId answer,
          .raised (.valueError error)⟩]⟩

theorem rejectsCleanly (p : HarnessPool) (e : HarnessStep) : RejectsCleanly env p e := by
  rintro actor requestId interruptId answer rfl hnone
  have hvalid : ∀ pending, ¬ ResumeValid p.world actor requestId interruptId answer pending := by
    intro pending hvalid
    have hsome : consumedBy env p (.spawn (.resume actor requestId interruptId answer)) =
        some interruptId :=
      consumedBy_eq_some_iff.2 ⟨actor, requestId, answer, pending, rfl, hvalid⟩
    rw [hnone] at hsome
    cases hsome
  exact step_resume_of_not_valid hvalid

/-- **An interrupt is consumed at most once, and a resume that consumes none is rejected and leaves
the table alone.** -/
theorem resumes_consume_once (huuid : Function.Injective env.uuid4) (now : ℕ)
    (steps : List HarnessStep) :
    (consumed env now steps).Nodup ∧
      (harness env).Throughout (RejectsCleanly env) ⟨.initial now, []⟩ steps :=
  ⟨(accounted_run huuid now steps).nodup,
    System.throughout_iff.2 fun _ _ _ _ => rejectsCleanly _ _⟩

/-- An environment that numbers its events. -/
def countingEnv : HarnessEnv := ⟨fun n => toString n, fun _ => none⟩

theorem countingEnv_injective : Function.Injective countingEnv.uuid4 := fun _ _ => toString_nat_inj

/-- A session of this user, over after an hour. -/
def hourSession (userId : String) : ActorSession :=
  ⟨"session-" ++ userId, ⟨userId, userId ++ "@example.com", []⟩, 3600⟩

/-- A model that calls no tool. -/
def silentModel : Model := fun _ => .ok ⟨[]⟩

/-- A new run whose intake asks. -/
def askingRun (n : ℕ) (userId requestId : String) : List HarnessStep :=
  [.spawn (.start (hourSession userId) requestId "set this up" none), .deliver n (.ok silentModel)]

/-- A resume of this user. -/
def resumeStep (userId requestId interruptId answer : String) : HarnessStep :=
  .spawn (.resume (hourSession userId) requestId interruptId answer)

/-- A clarification of this user about the intent. -/
def intakePending (interruptId userId : String) : PendingClarification :=
  ⟨interruptId, userId, none, .intake ⟨"set this up", 0⟩⟩

/-- Of two resumes that name the interrupt, and one of another user, one consumes it. -/
theorem duplicate_resume_consumes_once :
    consumed countingEnv 0 (askingRun 0 "alice" "thread" ++
        [resumeStep "bob" "thread" "0" "invoices", resumeStep "alice" "thread" "0" "invoices",
          resumeStep "alice" "thread" "0" "invoices"]) = ["0"] ∧
      (harness countingEnv).Throughout (RejectsCleanly countingEnv) ⟨.initial 0, []⟩
        (askingRun 0 "alice" "thread" ++
          [resumeStep "bob" "thread" "0" "invoices", resumeStep "alice" "thread" "0" "invoices",
            resumeStep "alice" "thread" "0" "invoices"]) :=
  ⟨by decide, (resumes_consume_once countingEnv_injective 0 _).2⟩

/-! ### Isolation of the actors -/

/-- The step asks a question under a request id at which a clarification of another actor waits. -/
def Overwrites (p : HarnessPool) (e : HarnessStep) : Prop :=
  ∃ call pending, AsksFor p e call ∧ p.world.pending.get? call.requestId = some pending ∧
    pending.actorId ≠ call.userId

variable (env) in
/-- The step, if it is one of a call, keeps every clarification of another actor, and every resume
that would have passed validation before it passes after it. -/
def Isolated (p : HarnessPool) (e : HarnessStep) : Prop :=
  ∀ call c, (harness env).Runs p e call c → ∀ requestId pending,
    p.world.pending.get? requestId = some pending → pending.actorId ≠ call.userId →
      ((harness env).step p e).world.pending.get? requestId = some pending ∧
        ∀ actor interruptId answer,
          ResumeValid p.world actor requestId interruptId answer pending →
            ResumeValid ((harness env).step p e).world actor requestId interruptId answer pending

/-- A resume stays valid while its entry and the time stay the same. -/
theorem ResumeValid.of_same {s s' : HarnessState} {actor : ActorSession}
    {requestId interruptId answer : String} {pending : PendingClarification}
    (h : ResumeValid s actor requestId interruptId answer pending) (hnow : s'.now = s.now)
    (hstored : s'.pending.get? requestId = some pending) :
    ResumeValid s' actor requestId interruptId answer pending :=
  ⟨hnow ▸ h.active, hstored, h.named, h.own, h.answered, h.belowCap⟩

/-- The caller of a resume that passes validation is the actor of the clarification. -/
theorem Resumes.own {p : HarnessPool} {e : HarnessStep} {actor : ActorSession}
    {requestId interruptId answer : String} {pending : PendingClarification}
    (h : Resumes p e actor requestId interruptId answer pending) {call : HarnessCall}
    {c : Harness HarnessEvent} (hruns : (harness env).Runs p e call c) :
    pending.actorId = call.userId := by
  obtain ⟨rfl, hvalid⟩ := h
  cases hruns with
  | spawn => exact hvalid.own

/-- A step of a call does not let time pass. -/
theorem Runs.ne_environment {p : HarnessPool} {e : HarnessStep} {call : HarnessCall}
    {c : Harness HarnessEvent} (h : (harness env).Runs p e call c) (t : ℕ) :
    e ≠ .environment t := by
  rintro rfl
  cases h

/-- **A step isolates the actors exactly if it does not ask over another actor's clarification.** -/
theorem isolated_iff_not_overwrites {p : HarnessPool} (hp : System.Waiting (Suspended env) p)
    (e : HarnessStep) : Isolated env p e ↔ ¬ Overwrites p e := by
  constructor
  · rintro hisolated ⟨call, pending, hasks, hstored, hother⟩
    obtain ⟨n, answer, i, k, rfl, htask, hasked⟩ := hasks
    obtain ⟨hkept, -⟩ :=
      hisolated call _ (.deliver answer htask) call.requestId pending hstored hother
    rcases run_answered (hp _ _ _ _ htask) answer p.world
      with ⟨-, scopeHint, work, hstate⟩ | ⟨hno, -⟩
    · -- the entry is now the caller's own
      rw [System.step_deliver answer htask, hstate] at hkept
      have hentry := (Dict.get?_set_self _ _ _).symm.trans hkept
      cases hentry
      exact hother rfl
    · exact hno hasked
  · intro hover call c hruns requestId pending hstored hother
    have hne := Runs.ne_environment hruns
    have heffect := step_effect hp e
    generalize ((harness env).step p e).world = s at heffect
    cases heffect with
    | kept hpending hminted hnow hasks hresumes =>
        have hsame : s.pending.get? requestId = some pending := by rwa [hpending]
        exact ⟨hsame, fun _ _ _ hvalid => hvalid.of_same (hnow hne) hsame⟩
    | popped hresumes =>
        rename_i actor requestId' interruptId answer pending'
        -- the entry taken out is the caller's own
        have hkey : requestId ≠ requestId' := by
          rintro rfl
          rw [hresumes.2.stored] at hstored
          cases hstored
          exact hother (hresumes.own hruns)
        have hsame : (p.world.pending.erase requestId').get? requestId = some pending := by
          rwa [Dict.get?_erase_of_ne _ hkey]
        exact ⟨hsame, fun _ _ _ hvalid => hvalid.of_same rfl hsame⟩
    | asked hasks scopeHint work =>
        rename_i call'
        obtain rfl := hasks.eq_of_runs hruns
        -- another actor's entry under this request id would be asked over
        have hkey : requestId ≠ call.requestId := by
          rintro rfl
          exact hover ⟨call, pending, hasks, hstored, hother⟩
        have hsame : (p.world.asked env call.actor call.requestId scopeHint work).pending.get?
            requestId = some pending := by
          rw [HarnessState.asked, Dict.get?_set_of_ne _ _ hkey]
          exact hstored
        exact ⟨hsame, fun _ _ _ hvalid => hvalid.of_same rfl hsame⟩

/-- **A run isolates the actors exactly if no step of it asks over another actor's
clarification.** -/
theorem isolated_iff_never_overwrites (now : ℕ) (steps : List HarnessStep) :
    (harness env).Throughout (Isolated env) ⟨.initial now, []⟩ steps ↔
      (harness env).Throughout (fun p e => ¬ Overwrites p e) ⟨.initial now, []⟩ steps :=
  System.throughout_run_congr
    (fun pre e => isolated_iff_not_overwrites (waiting_suspended now pre) e) steps

/-- Two users start a run on one thread. -/
def sharedThread : List HarnessStep := askingRun 0 "alice" "thread" ++ askingRun 1 "bob" "thread"

/-- **A clarification is replaced by another actor's run**: the resume that would have answered it
is rejected. -/
theorem shared_thread_not_isolated :
    (harnessRun countingEnv 0 (askingRun 0 "alice" "thread")).world.pending.get? "thread" =
        some (intakePending "0" "alice") ∧
      (harnessRun countingEnv 0 sharedThread).world.pending.get? "thread" =
        some (intakePending "1" "bob") ∧
      consumedBy countingEnv (harnessRun countingEnv 0 sharedThread)
        (resumeStep "alice" "thread" "0" "invoices") = none ∧
      ¬ (harness countingEnv).Throughout (Isolated countingEnv) ⟨.initial 0, []⟩ sharedThread := by
  have hbob : (harnessRun countingEnv 0 sharedThread).world.pending.get? "thread" =
      some (intakePending "1" "bob") := by decide
  refine ⟨by decide, hbob, by decide, fun h => ?_⟩
  -- the last step of the run is the answer to the second run
  have hlast := System.throughout_iff.1 h (askingRun 0 "alice" "thread" ++
    [.spawn (.start (hourSession "bob") "thread" "set this up" none)])
    (.deliver 1 (.ok silentModel)) [] rfl
  have htask : ((harness countingEnv).runFrom ⟨.initial 0, []⟩ (askingRun 0 "alice" "thread" ++
      [.spawn (.start (hourSession "bob") "thread" "set this up" none)])).tasks[1]? =
      some ⟨.start (hourSession "bob") "thread" "set this up" none, .waiting _ _⟩ := rfl
  have hkept := (hlast _ _ (.deliver _ htask) "thread" (intakePending "0" "alice")
    (by decide) (by decide)).1
  have hsame : some (intakePending "1" "bob") = some (intakePending "0" "alice") :=
    hbob.symm.trans hkept
  exact absurd hsame (by decide)

/-! ### Failed resumes -/

/-- A resume passed validation in this run, and what it set off raised. -/
structure FailedResume (env : HarnessEnv) (now : ℕ) (pre mid : List HarnessStep)
    (actor : ActorSession) (requestId interruptId answer : String)
    (pending : PendingClarification) (fault : Fault) : Prop where
  valid : ResumeValid (harnessRun env now pre).world actor requestId interruptId answer pending
  raised : (harnessRun env now
      (pre ++ .spawn (.resume actor requestId interruptId answer) :: mid)).tasks[
        (harnessRun env now pre).tasks.length]? =
    some ⟨.resume actor requestId interruptId answer, .raised fault⟩

/-- A clarification that was taken out by a valid resume is never stored again. -/
theorem consumed_never_returns (huuid : Function.Injective env.uuid4) {now : ℕ}
    {pre : List HarnessStep} {actor : ActorSession} {requestId interruptId answer : String}
    {pending : PendingClarification}
    (hvalid : ResumeValid (harnessRun env now pre).world actor requestId interruptId answer pending)
    (post : List HarnessStep) {r : String} {q : PendingClarification}
    (hstored : (harnessRun env now (pre ++ .spawn (.resume actor requestId interruptId answer) ::
      post)).world.pending.get? r = some q) : q.interruptId ≠ interruptId := by
  have hconsumed : consumedBy env (harnessRun env now pre)
      (.spawn (.resume actor requestId interruptId answer)) = some interruptId :=
    consumedBy_eq_some_iff.2 ⟨actor, requestId, answer, pending, rfl, hvalid⟩
  exact (accounted_run huuid now _).gone interruptId (consumedBy_mem_consumed hconsumed post) r q
    hstored

/-- **A valid resume whose workflow raised has lost its clarification for good**: from then on it is
never stored as before, and a retry of the resume is rejected, whoever makes it. -/
theorem failed_resume_loses_clarification (huuid : Function.Injective env.uuid4) {now : ℕ}
    {pre mid : List HarnessStep} {actor : ActorSession} {requestId interruptId answer : String}
    {pending : PendingClarification} {fault : Fault}
    (h : FailedResume env now pre mid actor requestId interruptId answer pending fault)
    (post : List HarnessStep) :
    (harnessRun env now (pre ++ .spawn (.resume actor requestId interruptId answer) ::
        (mid ++ post))).world.pending.get? requestId ≠ some pending ∧
      ∀ retrying answer', ∃ error,
        (resumeClarification env retrying requestId interruptId answer').run
            (harnessRun env now (pre ++ .spawn (.resume actor requestId interruptId answer) ::
              (mid ++ post))).world =
          (.raised (.valueError error), (harnessRun env now (pre ++
            .spawn (.resume actor requestId interruptId answer) :: (mid ++ post))).world) := by
  constructor
  · intro hstored
    exact consumed_never_returns huuid h.valid (mid ++ post) hstored h.valid.named
  · intro retrying answer'
    refine run_resume_of_not_valid env fun q hq => ?_
    exact consumed_never_returns huuid h.valid (mid ++ post) hq.stored hq.named

/-- Every valid resume fails if the await of its workflow raises. -/
theorem failedResume_of_raise {now : ℕ} {pre : List HarnessStep} {actor : ActorSession}
    {requestId interruptId answer : String} {pending : PendingClarification}
    (hvalid : ResumeValid (harnessRun env now pre).world actor requestId interruptId answer pending)
    (fault : Fault) :
    FailedResume env now pre [.deliver (harnessRun env now pre).tasks.length (.error fault)] actor
      requestId interruptId answer pending fault := by
  refine ⟨hvalid, ?_⟩
  have hsteps : pre ++ .spawn (.resume actor requestId interruptId answer) ::
      [.deliver (harnessRun env now pre).tasks.length (.error fault)] =
      (pre ++ [.spawn (.resume actor requestId interruptId answer)]) ++
        [.deliver (harnessRun env now pre).tasks.length (.error fault)] := by simp
  have hraises : ∀ s,
      ((resumedCoroutine env actor requestId answer pending (.error fault)).run s).1 =
        .raised fault := by
    intro s
    unfold resumedCoroutine
    cases pending.work with
    | intake prior => rfl
    | provision invocation round => rfl
  rw [hsteps, harnessRun_concat, harnessRun_concat, step_resume_of_valid hvalid,
    System.step_deliver_last, hraises]
  simp

theorem alice_resume_valid :
    ResumeValid (harnessRun countingEnv 0 (askingRun 0 "alice" "thread")).world
      (hourSession "alice") "thread" "0" "invoices" (intakePending "0" "alice") where
  active := by decide
  stored := by decide
  named := rfl
  own := by decide
  answered := by decide
  belowCap := by decide

/-- The fault of a model that cannot be reached. -/
def modelUnavailable : Fault := .external "model unavailable"

/-- A retry after a fault is rejected. -/
theorem retry_rejected_after_fault :
    (harnessRun countingEnv 0 (askingRun 0 "alice" "thread" ++
        resumeStep "alice" "thread" "0" "invoices" ::
          ([.deliver 1 (.error modelUnavailable)] ++ []))).world.pending.get? "thread" ≠
        some (intakePending "0" "alice") ∧
      ∀ retrying answer', ∃ error,
        (resumeClarification countingEnv retrying "thread" "0" answer').run
            (harnessRun countingEnv 0 (askingRun 0 "alice" "thread" ++
              resumeStep "alice" "thread" "0" "invoices" ::
                ([.deliver 1 (.error modelUnavailable)] ++ []))).world =
          (.raised (.valueError error), (harnessRun countingEnv 0
            (askingRun 0 "alice" "thread" ++ resumeStep "alice" "thread" "0" "invoices" ::
              ([.deliver 1 (.error modelUnavailable)] ++ []))).world) :=
  failed_resume_loses_clarification countingEnv_injective
    (failedResume_of_raise alice_resume_valid modelUnavailable) []

/-- **A fault of the model costs the clarification**: it was stored, the resume was valid, the model
raised, and the table is empty. -/
theorem fault_loses_clarification :
    FailedResume countingEnv 0 (askingRun 0 "alice" "thread")
        [.deliver 1 (.error modelUnavailable)] (hourSession "alice") "thread" "0" "invoices"
        (intakePending "0" "alice") modelUnavailable ∧
      (harnessRun countingEnv 0 (askingRun 0 "alice" "thread" ++
        resumeStep "alice" "thread" "0" "invoices" ::
          [.deliver 1 (.error modelUnavailable)])).world.pending.get? "thread" = none :=
  ⟨failedResume_of_raise alice_resume_valid modelUnavailable, by decide⟩

end PlatformOps
