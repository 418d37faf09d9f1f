/-
**Verification links over whole runs.**

Calls of the registration service share a store of attempts in memory: they issue links to any
addresses, inspect them and confirm them, in any order and at any times.  What decides whether a
link can be confirmed is the attempt behind it, and of one address only the attempt that was issued
last can be usable.

The digests of the tokens that occur in a run are told apart, and no token is generated twice.

Main definitions:

* `inMemoryService`, `RegistrationCall`, `performCall` — the calls of a service in memory;
* `afterCalls`, `resultsFrom` — runs, and their results;
* `issuedBy`, `Confirms` — the attempt a call issues, and the token it confirms;
* `AttemptEffect` — what a call can do to the attempts;
* `Linked` — every usable attempt is the last one of its address.

Main results:

* `attemptEffect` — a call issues an attempt, consumes an active one, or leaves the attempts alone;
* `linked_run`, `spent_run` — the links of the attempts, and a confirmed token stays spent;
* `verification_links` — **an address has at most one usable attempt; a token is confirmed at most
  once, as the last one issued for its address and before it expires; and to inspect a link changes
  no later result**.
-/

import PlatformOps.Registration

set_option relaxedAutoImplicit false
set_option autoImplicit false

namespace PlatformOps

/-! ### Calls -/

/-- A service over the stores in memory, with accounts or without. -/
def inMemoryService (codec : IdnaCodec) (tokenHmac : String → HexDigest) (tokenTtlSeconds : ℕ)
    (ttlPositive : 0 < tokenTtlSeconds) (users : Bool) : RegistrationService RegistrationState where
  codec := codec
  attempts := inMemoryAttempts
  users := if users then some (inMemoryUsers codec) else none
  tokenHmac := tokenHmac
  tokenTtlSeconds := tokenTtlSeconds
  rateLimiter := none
  diagnostics := none
  ttlPositive := ttlPositive

/-- A call of the service. -/
inductive RegistrationCall
  | beginVerification (email : String) (now : ℕ) (generated : GeneratedAttempt)
  | verificationIntent (token : String) (now : ℕ)
  | confirmVerification (token : String) (now : ℕ)
  | confirmAndIssueSession (token : String) (now : ℕ) (generated : GeneratedUser)
  deriving DecidableEq

/-- What a call returns. -/
inductive RegistrationResult
  | issued
  | valid (found : Bool)
  | confirmed (consumed : Bool)
  | session (session : Option ActorSession)
  deriving DecidableEq

/-- The token a call generates or presents. -/
def RegistrationCall.token : RegistrationCall → String
  | .beginVerification _ _ generated => generated.token
  | .verificationIntent token _ => token
  | .confirmVerification token _ => token
  | .confirmAndIssueSession token _ _ => token

/-- The time of a call. -/
def RegistrationCall.now : RegistrationCall → ℕ
  | .beginVerification _ now _ => now
  | .verificationIntent _ now => now
  | .confirmVerification _ now => now
  | .confirmAndIssueSession _ now _ => now

/-- The token a call generates. -/
def RegistrationCall.generatedToken : RegistrationCall → Option String
  | .beginVerification _ _ generated => some generated.token
  | _ => none

variable (service : RegistrationService RegistrationState)

/-- Make a call. -/
def performCall : RegistrationCall → Action RegistrationState RegistrationFault RegistrationResult
  | .beginVerification email now generated => do
      beginVerification service email now generated
      pure .issued
  | .verificationIntent token now => do
      let found ← verificationIntent service token now
      pure (.valid found)
  | .confirmVerification token now => do
      let consumed ← confirmVerification service token now
      pure (.confirmed consumed)
  | .confirmAndIssueSession token now generated => do
      let session ← confirmAndIssueSession service token now generated
      pure (.session session)

/-- The state after some calls. -/
def callsFrom (s : RegistrationState) (calls : List RegistrationCall) : RegistrationState :=
  calls.foldl (fun s call => (performCall service call s).2) s

/-- The state after the calls of a run. -/
def afterCalls (calls : List RegistrationCall) : RegistrationState :=
  callsFrom service .initial calls

/-- The results of some calls, in order. -/
def resultsFrom (s : RegistrationState) :
    List RegistrationCall → List (Except RegistrationFault RegistrationResult)
  | [] => []
  | call :: calls =>
      (performCall service call s).1 :: resultsFrom (performCall service call s).2 calls

/-- The attempt a call issues, whether or not its link is delivered. -/
def issuedBy : RegistrationCall → Option VerificationAttempt
  | .beginVerification email now generated => (newAttempt service email now generated).toOption
  | _ => none

/-- The call confirms this token: it returns that it did, or a session. -/
def Confirms (s : RegistrationState) (call : RegistrationCall) (token : String) : Prop :=
  (∃ now, call = .confirmVerification token now ∧
      (performCall service call s).1 = .ok (.confirmed true)) ∨
    ∃ now generated session, call = .confirmAndIssueSession token now generated ∧
      (performCall service call s).1 = .ok (.session (some session))

variable {service}

theorem callsFrom_cons (s : RegistrationState) (call : RegistrationCall)
    (calls : List RegistrationCall) :
    callsFrom service s (call :: calls) = callsFrom service (performCall service call s).2 calls :=
  rfl

theorem afterCalls_concat (calls : List RegistrationCall) (call : RegistrationCall) :
    afterCalls service (calls ++ [call]) =
      (performCall service call (afterCalls service calls)).2 := by
  unfold afterCalls callsFrom
  rw [List.foldl_append]
  rfl

theorem Confirms.token_eq {s : RegistrationState} {call : RegistrationCall} {token : String}
    (h : Confirms service s call token) : call.token = token := by
  rcases h with ⟨now, rfl, -⟩ | ⟨now, generated, session, rfl, -⟩
  · rfl
  · rfl

/-! ### What a call does to the attempts -/

/-- What a call can do to the attempts. -/
inductive AttemptEffect (service : RegistrationService RegistrationState) (s : RegistrationState)
    (call : RegistrationCall) : AttemptStore → Prop
  | issued {new : VerificationAttempt} (h : issuedBy service call = some new)
      (hno : ∀ token, ¬ Confirms service s call token) :
      AttemptEffect service s call (s.attempts.saveNewAttempt new call.now)
  | consumed {id : String} {attempt : VerificationAttempt} (h : issuedBy service call = none)
      (stored : s.attempts.attemptsById.get? id = some attempt)
      (active : attempt.Active (service.tokenHmac call.token) call.now) :
      AttemptEffect service s call (s.attempts.update id (·.consume call.now))
  | kept (h : issuedBy service call = none) (hno : ∀ token, ¬ Confirms service s call token) :
      AttemptEffect service s call s.attempts

/-- The service works on the attempts in memory, and its accounts are none of them. -/
structure OverAttemptStore (service : RegistrationService RegistrationState) : Prop where
  attempts : service.attempts = inMemoryAttempts
  users : ∀ users, service.users = some users → ∀ email now generated s,
    (users.createOrRecoverVerifiedUser email now generated s).2.attempts = s.attempts

theorem inMemoryService_over (codec : IdnaCodec) (tokenHmac : String → HexDigest)
    (tokenTtlSeconds : ℕ) (ttlPositive : 0 < tokenTtlSeconds) (users : Bool) :
    OverAttemptStore (inMemoryService codec tokenHmac tokenTtlSeconds ttlPositive users) where
  attempts := rfl
  users := by
    intro store hstore email now generated s
    cases users with
    | false => exact absurd hstore (by simp [inMemoryService])
    | true =>
        have hsame : inMemoryUsers codec = store := by simpa [inMemoryService] using hstore
        rw [← hsame]
        unfold inMemoryUsers
        dsimp only

theorem not_confirms_of_issue {s : RegistrationState} {email : String} {now : ℕ}
    {generated : GeneratedAttempt} (token : String) :
    ¬ Confirms service s (.beginVerification email now generated) token := by
  rintro (⟨now, h, -⟩ | ⟨now, generated, session, h, -⟩)
  · cases h
  · cases h

/-- An issue saves its attempt, delivered or not. -/
theorem begin_effect (hover : OverAttemptStore service) (s : RegistrationState) (email : String)
    (now : ℕ) (generated : GeneratedAttempt) :
    AttemptEffect service s (.beginVerification email now generated)
      (performCall service (.beginVerification email now generated) s).2.attempts := by
  have hperform : (performCall service (.beginVerification email now generated) s).2.attempts =
      (beginVerification service email now generated s).2.attempts := by
    simp only [performCall, Action.bind_apply]
    rcases beginVerification service email now generated s with ⟨result, s'⟩
    cases result with
    | error fault => rfl
    | ok value => rfl
  rw [hperform]
  unfold beginVerification
  cases hnew : newAttempt service email now generated with
  | error fault =>
      refine .kept ?_ not_confirms_of_issue
      simp only [issuedBy, hnew]
      rfl
  | ok new =>
      have hissued : issuedBy service (.beginVerification email now generated) = some new := by
        simp only [issuedBy, hnew]
        rfl
      rw [Action.ofExcept_ok_bind_apply, hover.attempts]
      cases generated.delivery with
      | some fault => exact .issued hissued not_confirms_of_issue
      | none => exact .issued hissued not_confirms_of_issue

/-- What the part of a confirmation does that consumes the attempt. -/
theorem consume_effect {s : RegistrationState} {call : RegistrationCall}
    (hissued : issuedBy service call = none) {email : Option String} {s' : RegistrationState}
    (hconsume : inMemoryAttempts.consumeEmailByDigest (service.tokenHmac call.token) call.now s =
      (.ok email, s'))
    (hno : email = none → ∀ token, ¬ Confirms service s call token) :
    AttemptEffect service s call s'.attempts := by
  have hstore : s.attempts.consumeEmailByDigest (service.tokenHmac call.token) call.now =
      (email, s'.attempts) := by
    have hpair := hconsume
    unfold inMemoryAttempts at hpair
    dsimp only at hpair
    have hemail := Except.ok.inj (congrArg Prod.fst hpair)
    have hstate := congrArg RegistrationState.attempts (congrArg Prod.snd hpair)
    exact Prod.ext hemail hstate
  rcases s.attempts.consume_cases (service.tokenHmac call.token) call.now
    with ⟨id, attempt, hstored, hactive, hcase⟩ | hcase
  · rw [hcase] at hstore
    have hattempts : s.attempts.update id (·.consume call.now) = s'.attempts :=
      congrArg Prod.snd hstore
    rw [← hattempts]
    exact .consumed hissued hstored hactive
  · rw [hcase] at hstore
    have hattempts : s.attempts = s'.attempts := congrArg Prod.snd hstore
    rw [← hattempts]
    exact .kept hissued (hno (congrArg Prod.fst hstore).symm)

theorem confirm_effect (hover : OverAttemptStore service) (s : RegistrationState) (token : String)
    (now : ℕ) :
    AttemptEffect service s (.confirmVerification token now)
      (performCall service (.confirmVerification token now) s).2.attempts := by
  have hconfirms : ∀ {result}, (performCall service (.confirmVerification token now) s).1 = result →
      result ≠ .ok (.confirmed true) →
      ∀ token', ¬ Confirms service s (.confirmVerification token now) token' := by
    rintro result hresult hne token' (⟨now', h, hok⟩ | ⟨now', generated, session, h, -⟩)
    · exact hne (hresult.symm.trans hok)
    · cases h
  by_cases htoken : token = ""
  · have hperform : performCall service (.confirmVerification token now) s =
        (.error (.valueError "verification token cannot be empty"), s) := by
      simp only [performCall, confirmVerification, digestVerificationToken, if_pos htoken]
      rfl
    rw [hperform]
    exact .kept rfl (hconfirms (congrArg Prod.fst hperform) (by simp))
  · rcases hconsume : inMemoryAttempts.consumeEmailByDigest (service.tokenHmac token) now s
      with ⟨result, s'⟩
    cases result with
    | error fault => cases hconsume
    | ok email =>
        have hperform : performCall service (.confirmVerification token now) s =
            (.ok (.confirmed email.isSome), s') := by
          simp only [performCall, confirmVerification, digestVerificationToken, if_neg htoken,
            hover.attempts, Action.bind_apply, Action.ofExcept_apply, hconsume, Action.pure_apply]
        rw [hperform]
        refine consume_effect rfl hconsume ?_
        rintro rfl
        exact hconfirms (congrArg Prod.fst hperform) (by simp)

theorem confirmSession_effect (hover : OverAttemptStore service) (s : RegistrationState)
    (token : String) (now : ℕ) (generated : GeneratedUser) :
    AttemptEffect service s (.confirmAndIssueSession token now generated)
      (performCall service (.confirmAndIssueSession token now generated) s).2.attempts := by
  have hconfirms : ∀ {result},
      (performCall service (.confirmAndIssueSession token now generated) s).1 = result →
      (∀ session, result ≠ .ok (.session (some session))) →
      ∀ token', ¬ Confirms service s (.confirmAndIssueSession token now generated) token' := by
    rintro result hresult hne token' (⟨now', h, -⟩ | ⟨now', generated', session, h, hok⟩)
    · cases h
    · exact hne session (hresult.symm.trans hok)
  cases husers : service.users with
  | none =>
      have hperform : performCall service (.confirmAndIssueSession token now generated) s =
          (.ok (.session none), s) := by
        simp only [performCall, confirmAndIssueSession, husers]
        rfl
      rw [hperform]
      exact .kept rfl (hconfirms (congrArg Prod.fst hperform) (by simp))
  | some users =>
      by_cases htoken : token = ""
      · have hperform : performCall service (.confirmAndIssueSession token now generated) s =
            (.error (.valueError "verification token cannot be empty"), s) := by
          simp only [performCall, confirmAndIssueSession, husers, digestVerificationToken,
            if_pos htoken]
          rfl
        rw [hperform]
        exact .kept rfl (hconfirms (congrArg Prod.fst hperform) (by simp))
      · rcases hconsume : inMemoryAttempts.consumeEmailByDigest (service.tokenHmac token) now s
          with ⟨result, s'⟩
        cases result with
        | error fault => cases hconsume
        | ok email =>
            cases email with
            | none =>
                have hperform :
                    performCall service (.confirmAndIssueSession token now generated) s =
                      (.ok (.session none), s') := by
                  simp only [performCall, confirmAndIssueSession, husers, digestVerificationToken,
                    if_neg htoken, hover.attempts, Action.bind_apply, Action.ofExcept_apply,
                    hconsume, Action.pure_apply]
                rw [hperform]
                exact consume_effect rfl hconsume
                  fun _ => hconfirms (congrArg Prod.fst hperform) (by simp)
            | some email =>
                -- the accounts are behind the attempts, whatever becomes of them
                have hattempts :
                    (performCall service (.confirmAndIssueSession token now generated) s).2.attempts
                      = s'.attempts := by
                  have hkept := hover.users users husers email now generated s'
                  simp only [performCall, confirmAndIssueSession, husers, digestVerificationToken,
                    if_neg htoken, hover.attempts, Action.bind_apply, Action.ofExcept_apply,
                    hconsume]
                  rcases hcreate : users.createOrRecoverVerifiedUser email now generated s'
                    with ⟨created, s''⟩
                  rw [hcreate] at hkept
                  cases created with
                  | error fault => exact hkept
                  | ok account => exact hkept
                rw [hattempts]
                refine consume_effect rfl hconsume ?_
                intro hnone
                cases hnone

/-- To inspect a link changes nothing. -/
theorem intent_state (hover : OverAttemptStore service) (s : RegistrationState) (token : String)
    (now : ℕ) : (performCall service (.verificationIntent token now) s).2 = s := by
  by_cases htoken : token = ""
  · simp only [performCall, verificationIntent, digestVerificationToken, if_pos htoken]
    rfl
  · simp only [performCall, verificationIntent, digestVerificationToken, if_neg htoken,
      hover.attempts, Action.bind_apply, Action.ofExcept_apply, inMemoryAttempts, Action.read_apply,
      Action.pure_apply]

/-- **A call issues an attempt, consumes an active one, or leaves the attempts alone.** -/
theorem attemptEffect (hover : OverAttemptStore service) (s : RegistrationState)
    (call : RegistrationCall) :
    AttemptEffect service s call (performCall service call s).2.attempts := by
  cases call with
  | beginVerification email now generated => exact begin_effect hover s email now generated
  | confirmVerification token now => exact confirm_effect hover s token now
  | confirmAndIssueSession token now generated =>
      exact confirmSession_effect hover s token now generated
  | verificationIntent token now =>
      rw [intent_state hover]
      refine .kept rfl ?_
      rintro token' (⟨now', h, -⟩ | ⟨now', generated, session, h, -⟩)
      · cases h
      · cases h

/-! ### Links -/

/-- The attempt was issued in this run, and no later attempt has its address. -/
def LastOfAddress (service : RegistrationService RegistrationState)
    (calls : List RegistrationCall) (token : String) (attempt : VerificationAttempt) : Prop :=
  ∃ pre call post, calls = pre ++ call :: post ∧ issuedBy service call = some attempt ∧
    call.generatedToken = some token ∧
    ∀ call' ∈ post, ∀ attempt', issuedBy service call' = some attempt' →
      attempt'.canonicalEmail ≠ attempt.canonicalEmail

/-- Every usable attempt is stored under its id, is the last one of its address in the store, and is
the last one issued for it. -/
structure Linked (service : RegistrationService RegistrationState) (calls : List RegistrationCall)
    (s : AttemptStore) : Prop where
  keyed : ∀ id attempt, s.attemptsById.get? id = some attempt → attempt.attemptId = id
  current : ∀ id attempt, s.attemptsById.get? id = some attempt → attempt.Usable →
    s.activeAttemptIdByEmail.get? attempt.canonicalEmail = some id
  issued : ∀ id attempt, s.attemptsById.get? id = some attempt → attempt.Usable →
    ∃ token, LastOfAddress service calls token attempt

theorem LastOfAddress.concat {calls : List RegistrationCall} {token : String}
    {attempt : VerificationAttempt} (h : LastOfAddress service calls token attempt)
    {call : RegistrationCall} (hcall : ∀ attempt', issuedBy service call = some attempt' →
      attempt'.canonicalEmail ≠ attempt.canonicalEmail) :
    LastOfAddress service (calls ++ [call]) token attempt := by
  obtain ⟨pre, issue, post, rfl, hissue, htoken, hlast⟩ := h
  refine ⟨pre, issue, post ++ [call], by simp, hissue, htoken, ?_⟩
  intro call' hmem attempt' hissued
  rcases List.mem_append.1 hmem with hmem | hmem
  · exact hlast call' hmem attempt' hissued
  · rw [List.mem_singleton.1 hmem] at hissued
    exact hcall attempt' hissued

theorem issuedBy_spec {call : RegistrationCall} {attempt : VerificationAttempt}
    (h : issuedBy service call = some attempt) :
    attempt.Usable ∧ attempt.tokenDigest = service.tokenHmac call.token ∧
      call.generatedToken = some call.token := by
  cases call with
  | beginVerification email now generated =>
      simp only [issuedBy] at h
      cases hnew : newAttempt service email now generated with
      | error fault =>
          rw [hnew] at h
          cases h
      | ok new =>
          rw [hnew] at h
          have hsame : new = attempt := Option.some.inj h
          subst hsame
          obtain ⟨husable, -, hdigest, -⟩ := newAttempt_spec hnew
          exact ⟨husable, hdigest, rfl⟩
  | verificationIntent token now => cases h
  | confirmVerification token now => cases h
  | confirmAndIssueSession token now generated => cases h

theorem lastOfAddress_new {calls : List RegistrationCall} {call : RegistrationCall}
    {attempt : VerificationAttempt} (h : issuedBy service call = some attempt) :
    LastOfAddress service (calls ++ [call]) call.token attempt :=
  ⟨calls, call, [], rfl, h, (issuedBy_spec h).2.2, by simp⟩

/-- A call keeps the links. -/
theorem Linked.step {calls : List RegistrationCall} {s : RegistrationState}
    (h : Linked service calls s.attempts) {call : RegistrationCall} {attempts : AttemptStore}
    (heffect : AttemptEffect service s call attempts) :
    Linked service (calls ++ [call]) attempts := by
  cases heffect with
  | issued hissued hno =>
      rename_i new
      constructor
      · intro id attempt hstored
        rcases Dict.get?_set_eq_some_iff.1 hstored with ⟨rfl, rfl⟩ | ⟨-, hold⟩
        · rfl
        · unfold AttemptStore.supersede at hold
          cases hprevious : s.attempts.activeAttemptIdByEmail.get? new.canonicalEmail with
          | none =>
              rw [hprevious] at hold
              exact h.keyed id attempt hold
          | some previousId =>
              rw [hprevious] at hold
              dsimp only at hold
              rw [AttemptStore.get?_update] at hold
              split at hold
              · obtain ⟨old, hget, rfl⟩ := Option.map_eq_some_iff.1 hold
                rw [VerificationAttempt.attemptId_invalidate]
                exact h.keyed id old hget
              · exact h.keyed id attempt hold
      · intro id attempt hstored husable
        rcases AttemptStore.usable_of_save hstored husable with ⟨rfl, rfl⟩ | ⟨-, hold, hother⟩
        · exact Dict.get?_set_self _ _ _
        · have hcurrent := h.current id attempt hold husable
          -- the last attempt of the address is not usable any more
          have hne : attempt.canonicalEmail ≠ new.canonicalEmail := by
            intro heq
            rw [heq] at hcurrent
            exact hother hcurrent
          show ((s.attempts.supersede new.canonicalEmail call.now).activeAttemptIdByEmail.set
            new.canonicalEmail new.attemptId).get? attempt.canonicalEmail = some id
          rw [Dict.get?_set_of_ne _ _ hne, AttemptStore.activeAttemptIdByEmail_supersede]
          exact hcurrent
      · intro id attempt hstored husable
        rcases AttemptStore.usable_of_save hstored husable with ⟨rfl, rfl⟩ | ⟨-, hold, hother⟩
        · exact ⟨call.token, lastOfAddress_new hissued⟩
        · obtain ⟨token, hlast⟩ := h.issued id attempt hold husable
          refine ⟨token, hlast.concat ?_⟩
          intro attempt' hissued' heq
          rw [hissued] at hissued'
          cases hissued'
          rw [heq] at hother
          exact hother (h.current id attempt hold husable)
  | consumed hissued hget hactive =>
      rename_i id₀ consumed
      -- what is usable afterwards was usable before
      have hbefore : ∀ id attempt,
          (s.attempts.update id₀ (·.consume call.now)).attemptsById.get? id = some attempt →
          attempt.Usable → s.attempts.attemptsById.get? id = some attempt := by
        intro id attempt hstored husable
        rw [AttemptStore.get?_update] at hstored
        split at hstored
        · obtain ⟨old, -, rfl⟩ := Option.map_eq_some_iff.1 hstored
          exact absurd husable (old.not_usable_consume call.now)
        · exact hstored
      constructor
      · intro id attempt hstored
        rw [AttemptStore.get?_update] at hstored
        split at hstored
        · obtain ⟨old, hold, rfl⟩ := Option.map_eq_some_iff.1 hstored
          exact h.keyed id old hold
        · exact h.keyed id attempt hstored
      · intro id attempt hstored husable
        rw [AttemptStore.activeAttemptIdByEmail_update]
        exact h.current id attempt (hbefore id attempt hstored husable) husable
      · intro id attempt hstored husable
        obtain ⟨token, hlast⟩ := h.issued id attempt (hbefore id attempt hstored husable) husable
        refine ⟨token, hlast.concat fun attempt' hissued' => ?_⟩
        rw [hissued] at hissued'
        cases hissued'
  | kept hissued hno =>
      refine ⟨h.keyed, h.current, fun id attempt hstored husable => ?_⟩
      obtain ⟨token, hlast⟩ := h.issued id attempt hstored husable
      refine ⟨token, hlast.concat fun attempt' hissued' => ?_⟩
      rw [hissued] at hissued'
      cases hissued'

/-- **Every usable attempt of a run is the last one of its address.** -/
theorem linked_run (hover : OverAttemptStore service) (calls : List RegistrationCall) :
    Linked service calls (afterCalls service calls).attempts := by
  induction calls using List.reverseRecOn with
  | nil =>
      constructor
      · intro id attempt h
        cases h
      · intro id attempt h
        cases h
      · intro id attempt h
        cases h
  | append_singleton calls call ih =>
      rw [afterCalls_concat]
      exact ih.step (attemptEffect hover _ call)

/-- No two usable attempts of the store have one address. -/
def AtMostOneUsable (s : AttemptStore) : Prop :=
  ∀ id₁ attempt₁ id₂ attempt₂, s.attemptsById.get? id₁ = some attempt₁ →
    s.attemptsById.get? id₂ = some attempt₂ → attempt₁.Usable → attempt₂.Usable →
    attempt₁.canonicalEmail = attempt₂.canonicalEmail → id₁ = id₂

theorem Linked.atMostOne {calls : List RegistrationCall} {s : AttemptStore}
    (h : Linked service calls s) : AtMostOneUsable s := by
  intro id₁ attempt₁ id₂ attempt₂ hstored₁ hstored₂ husable₁ husable₂ heq
  have hcurrent₁ := h.current id₁ attempt₁ hstored₁ husable₁
  have hcurrent₂ := h.current id₂ attempt₂ hstored₂ husable₂
  rw [heq, hcurrent₂] at hcurrent₁
  exact (Option.some.inj hcurrent₁).symm

/-! ### Confirmed tokens -/

/-- The tokens that the calls generate or present. -/
def tokensOf (calls : List RegistrationCall) : Set String := {t | ∃ call ∈ calls, call.token = t}

/-- No attempt with the digest of the token is usable. -/
def Spent (service : RegistrationService RegistrationState) (s : AttemptStore) (token : String) :
    Prop :=
  ∀ id attempt, s.attemptsById.get? id = some attempt →
    attempt.tokenDigest = service.tokenHmac token → ¬ attempt.Usable

/-- The call that issued the last attempt of an address. -/
theorem LastOfAddress.issue {calls : List RegistrationCall} {token : String}
    {attempt : VerificationAttempt} (h : LastOfAddress service calls token attempt) :
    ∃ issue ∈ calls, issuedBy service issue = some attempt ∧ issue.token = token ∧
      attempt.tokenDigest = service.tokenHmac token ∧ issue.generatedToken = some token := by
  obtain ⟨pre, issue, post, rfl, hissue, htoken, -⟩ := h
  obtain ⟨-, hdigest, hgenerated⟩ := issuedBy_spec hissue
  have hsame : issue.token = token := Option.some.inj (hgenerated.symm.trans htoken)
  rw [hsame] at hdigest
  exact ⟨issue, by simp, hissue, hsame, hdigest, htoken⟩

/-- The attempt behind an active digest was issued with the token that is presented. -/
theorem Linked.issued_token {calls : List RegistrationCall} {s : AttemptStore}
    (h : Linked service calls s) {token : String}
    (hhmac : Set.InjOn service.tokenHmac (insert token (tokensOf calls))) {id : String}
    {attempt : VerificationAttempt} (hstored : s.attemptsById.get? id = some attempt)
    (husable : attempt.Usable) (hdigest : attempt.tokenDigest = service.tokenHmac token) :
    LastOfAddress service calls token attempt := by
  obtain ⟨token', hlast⟩ := h.issued id attempt hstored husable
  obtain ⟨issue, hmem, -, htoken', hdigest', -⟩ := hlast.issue
  have hsame : token' = token :=
    hhmac (Or.inr ⟨issue, hmem, htoken'⟩) (Or.inl rfl) (hdigest'.symm.trans hdigest)
  exact hsame ▸ hlast

/-- A token is generated by one call of a run. -/
theorem issue_unique {calls : List RegistrationCall}
    (hgenerated : (calls.filterMap RegistrationCall.generatedToken).Nodup)
    {call₁ call₂ : RegistrationCall} (h₁ : call₁ ∈ calls) (h₂ : call₂ ∈ calls) {token : String}
    (htoken₁ : call₁.generatedToken = some token) (htoken₂ : call₂.generatedToken = some token) :
    call₁ = call₂ := by
  induction calls with
  | nil => cases h₁
  | cons call calls ih =>
      -- a call behind the first one does not generate the token of the first one
      have hrest : ∀ {other}, other ∈ calls → call.generatedToken = some token →
          other.generatedToken ≠ some token := by
        intro other hmem hfirst hother
        rw [List.filterMap_cons_some hfirst] at hgenerated
        exact (List.nodup_cons.1 hgenerated).1 (List.mem_filterMap.2 ⟨other, hmem, hother⟩)
      have htail : (calls.filterMap RegistrationCall.generatedToken).Nodup :=
        hgenerated.sublist ((List.sublist_cons_self call calls).filterMap _)
      rcases List.mem_cons.1 h₁ with rfl | h₁
      · rcases List.mem_cons.1 h₂ with rfl | h₂
        · rfl
        · exact absurd htoken₂ (hrest h₂ htoken₁)
      · rcases List.mem_cons.1 h₂ with rfl | h₂
        · exact absurd htoken₁ (hrest ‹call₁ ∈ calls› htoken₂)
        · exact ih htail h₁ h₂

/-- **What a call that confirms a token does**: the token is the last one of its address, it has not
expired, and no attempt with its digest stays usable. -/
theorem Confirms.spec {calls : List RegistrationCall} {s : RegistrationState}
    (hlinked : Linked service calls s.attempts)
    (hgenerated : (calls.filterMap RegistrationCall.generatedToken).Nodup)
    {call : RegistrationCall} {token : String} (hconfirms : Confirms service s call token)
    (hhmac : Set.InjOn service.tokenHmac (insert token (tokensOf calls)))
    {attempts : AttemptStore} (heffect : AttemptEffect service s call attempts) :
    (∃ attempt, LastOfAddress service calls token attempt ∧ call.now < attempt.expiresAt) ∧
      Spent service attempts token := by
  cases heffect with
  | issued hissued hno => exact absurd hconfirms (hno token)
  | kept hissued hno => exact absurd hconfirms (hno token)
  | consumed hissued hget hactive =>
      rename_i id₀ consumed
      rw [hconfirms.token_eq] at hactive
      obtain ⟨hdigest, husable, hexpires⟩ := hactive
      have hlast := hlinked.issued_token hhmac hget husable hdigest
      refine ⟨⟨consumed, hlast, hexpires⟩, ?_⟩
      intro id attempt hstored hdigest' husable'
      rw [AttemptStore.get?_update] at hstored
      split at hstored
      · obtain ⟨old, -, rfl⟩ := Option.map_eq_some_iff.1 hstored
        exact old.not_usable_consume call.now husable'
      · rename_i hne
        -- both attempts were issued by the one call that generated the token
        have hlast' := hlinked.issued_token hhmac hstored husable' hdigest'
        obtain ⟨issue, hmem, hissue, -, -, htoken⟩ := hlast.issue
        obtain ⟨issue', hmem', hissue', -, -, htoken'⟩ := hlast'.issue
        have hsame := issue_unique hgenerated hmem hmem' htoken htoken'
        rw [← hsame, hissue] at hissue'
        cases hissue'
        exact hne ((hlinked.keyed id consumed hstored).symm.trans (hlinked.keyed id₀ consumed hget))

/-- A spent token stays spent, unless it is generated again. -/
theorem Spent.step {s : RegistrationState} {token : String} (h : Spent service s.attempts token)
    {call : RegistrationCall} (htoken : call.generatedToken ≠ some token)
    (hhmac : Set.InjOn service.tokenHmac {call.token, token}) {attempts : AttemptStore}
    (heffect : AttemptEffect service s call attempts) : Spent service attempts token := by
  cases heffect with
  | kept hissued hno => exact h
  | consumed hissued hget hactive =>
      intro id attempt hstored hdigest husable
      rw [AttemptStore.get?_update] at hstored
      split at hstored
      · obtain ⟨old, -, rfl⟩ := Option.map_eq_some_iff.1 hstored
        exact old.not_usable_consume call.now husable
      · exact h id attempt hstored hdigest husable
  | issued hissued hno =>
      intro id attempt hstored hdigest husable
      rcases AttemptStore.usable_of_save hstored husable with ⟨-, rfl⟩ | ⟨-, hold, -⟩
      · obtain ⟨-, hnew, hgenerated⟩ := issuedBy_spec hissued
        have hsame : call.token = token :=
          hhmac (Or.inl rfl) (Or.inr rfl) (hnew.symm.trans hdigest)
        exact htoken (hsame ▸ hgenerated)
      · exact h id attempt hold hdigest husable

/-- No call confirms a spent token. -/
theorem Spent.not_confirms {s : RegistrationState} {token : String}
    (h : Spent service s.attempts token) {call : RegistrationCall} {attempts : AttemptStore}
    (heffect : AttemptEffect service s call attempts) : ¬ Confirms service s call token := by
  intro hconfirms
  cases heffect with
  | issued hissued hno => exact hno token hconfirms
  | kept hissued hno => exact hno token hconfirms
  | consumed hissued hget hactive =>
      rw [hconfirms.token_eq] at hactive
      exact h _ _ hget hactive.1 hactive.2.1

/-- **A spent token stays spent over a run** that does not generate it again. -/
theorem spent_run (hover : OverAttemptStore service) {s : RegistrationState} {token : String}
    (h : Spent service s.attempts token) (calls : List RegistrationCall)
    (htoken : ∀ call ∈ calls, call.generatedToken ≠ some token)
    (hhmac : Set.InjOn service.tokenHmac (insert token (tokensOf calls))) :
    Spent service (callsFrom service s calls).attempts token := by
  induction calls generalizing s with
  | nil => exact h
  | cons call calls ih =>
      rw [callsFrom_cons]
      have hfirst : Set.InjOn service.tokenHmac {call.token, token} := by
        refine hhmac.mono ?_
        rintro t (rfl | rfl)
        · exact Or.inr ⟨call, by simp, rfl⟩
        · exact Or.inl rfl
      have hstep := h.step (htoken call (by simp)) hfirst (attemptEffect hover s call)
      refine ih hstep (fun other hmem => htoken other (by simp [hmem])) (hhmac.mono ?_)
      rintro t (rfl | ⟨other, hmem, rfl⟩)
      · exact Or.inl rfl
      · exact Or.inr ⟨other, by simp [hmem], rfl⟩

/-! ### The runs of a service in memory -/

/-- **Verification links.**  At every moment of a run an address has at most one usable attempt.  A
token is confirmed only if it is the last one issued for its address and has not expired, and it is
not confirmed again.  To inspect a link changes no later result. -/
theorem verification_links (codec : IdnaCodec) (tokenHmac : String → HexDigest)
    (tokenTtlSeconds : ℕ) (ttlPositive : 0 < tokenTtlSeconds) (users : Bool)
    (calls : List RegistrationCall)
    (hgenerated : (calls.filterMap RegistrationCall.generatedToken).Nodup)
    (hhmac : Set.InjOn tokenHmac (tokensOf calls)) :
    let service := inMemoryService codec tokenHmac tokenTtlSeconds ttlPositive users
    (∀ pre post, calls = pre ++ post → AtMostOneUsable (afterCalls service pre).attempts) ∧
      (∀ pre call post token, calls = pre ++ call :: post →
        Confirms service (afterCalls service pre) call token →
        (∃ attempt, LastOfAddress service pre token attempt ∧ call.now < attempt.expiresAt) ∧
          ∀ mid later rest, post = mid ++ later :: rest →
            ¬ Confirms service (afterCalls service (pre ++ call :: mid)) later token) ∧
      ∀ pre token now post, calls = pre ++ .verificationIntent token now :: post →
        resultsFrom service (afterCalls service (pre ++ [.verificationIntent token now])) post =
          resultsFrom service (afterCalls service pre) post := by
  intro service
  have hover : OverAttemptStore service :=
    inMemoryService_over codec tokenHmac tokenTtlSeconds ttlPositive users
  have hdigests : Set.InjOn service.tokenHmac (tokensOf calls) := hhmac
  clear_value service
  refine ⟨fun pre post _ => (linked_run hover pre).atMostOne, ?_, ?_⟩
  · rintro pre call post token rfl hconfirms
    rw [List.filterMap_append] at hgenerated
    obtain ⟨hpre, -, hdisjoint⟩ := List.nodup_append.1 hgenerated
    have htoken : call.token = token := hconfirms.token_eq
    have hbefore : Set.InjOn service.tokenHmac (insert token (tokensOf pre)) := by
      refine hdigests.mono ?_
      rintro t (rfl | ⟨other, hmem, rfl⟩)
      · exact ⟨call, by simp, htoken⟩
      · exact ⟨other, by simp [hmem], rfl⟩
    obtain ⟨hlast, hspent⟩ := hconfirms.spec (linked_run hover pre) hpre hbefore
      (attemptEffect hover _ call)
    refine ⟨hlast, ?_⟩
    rintro mid later rest rfl
    -- the token was generated before, so no later call generates it again
    obtain ⟨attempt, hlast, -⟩ := hlast
    obtain ⟨issue, hmem, -, -, -, hissue⟩ := hlast.issue
    have hfresh : ∀ other ∈ mid, other.generatedToken ≠ some token := by
      intro other hother hsame
      exact hdisjoint token (List.mem_filterMap.2 ⟨issue, hmem, hissue⟩) token
        (List.mem_filterMap.2 ⟨other, by simp [hother], hsame⟩) rfl
    have hafter : Set.InjOn service.tokenHmac (insert token (tokensOf mid)) := by
      refine hdigests.mono ?_
      rintro t (rfl | ⟨other, hother, rfl⟩)
      · exact ⟨call, by simp, htoken⟩
      · exact ⟨other, by simp [hother], rfl⟩
    have hstays := spent_run hover hspent mid hfresh hafter
    have hstate : afterCalls service (pre ++ call :: mid) =
        callsFrom service (performCall service call (afterCalls service pre)).2 mid := by
      unfold afterCalls callsFrom
      rw [List.foldl_append]
      rfl
    rw [hstate]
    exact hstays.not_confirms (attemptEffect hover _ later)
  · rintro pre token now post rfl
    rw [afterCalls_concat, intent_state hover]

/-- Two links to one address, the second one of which is confirmed. -/
def linkCalls : List RegistrationCall :=
  [.beginVerification "ann@Example.com" 0 ⟨"first", "a1", none⟩,
    .beginVerification "ann@example.com" 1 ⟨"second", "a2", none⟩,
    .verificationIntent "second" 2, .confirmVerification "first" 3,
    .confirmVerification "second" 4, .confirmVerification "second" 5]

/-- The digests of their tokens. -/
def linkHmac : String → HexDigest :=
  hashTable [("first",
      .ofNat 0xa5a44866e4e1998539bcb95c18dbc379fc36a14f33b2da0d6f44ebfcfeb6e005),
    ("second",
      .ofNat 0x688df867fab4de9fdbaac3d79175c23d8985f493c153964b123679c5eaa9a8dd)]

/-- The service that sent them. -/
def linkService : RegistrationService RegistrationState :=
  inMemoryService .asciiOnly linkHmac 900 quarterHour_pos false

theorem linkHmac_injOn : Set.InjOn linkHmac (tokensOf linkCalls) := by
  refine (hashTable_injOn (by decide) (by decide)).mono ?_
  rintro t ⟨call, hmem, rfl⟩
  have htokens : ∀ call ∈ linkCalls, call.token ∈ ["first", "second"] := by decide
  exact htokens call hmem

/-- The second link is confirmed once, the first one never, and the address has no two usable
attempts. -/
theorem second_link_confirmed_once :
    resultsFrom linkService .initial linkCalls =
        [.ok .issued, .ok .issued, .ok (.valid true), .ok (.confirmed false),
          .ok (.confirmed true), .ok (.confirmed false)] ∧
      AtMostOneUsable (afterCalls linkService linkCalls).attempts :=
  ⟨by decide +kernel,
    (verification_links .asciiOnly linkHmac 900 quarterHour_pos false linkCalls (by decide)
      linkHmac_injOn).1 linkCalls [] rfl⟩

end PlatformOps
