/-
**Browser sessions over whole runs.**

Sessions are issued, used, ended and revoked in any order and at any times, the signing keys are
rotated, and anybody presents any text as a token.  Only what the issuer has signed carries a tag
that is right under a signing key, and proofs are told apart by their digests.  Then a token is
believed only for a session that was issued and is still active, and never again once the session
was ended or revoked.

Main definitions:

* `SessionStep`, `SessionWorld`, `performStep` — steps, and what was signed and issued so far;
* `sessionsAfter` — runs;
* `Accepts`, `Ends` — a step believes a token, and a step ends a session;
* `Ideal` — what the tags and the digests of a run are assumed to be;
* `SessionRows`, `SoundAcceptance` — what is known of the store, and of an accepted token.

Main results:

* `performStep_cases` — **a step issues a session, revokes one, or leaves the store alone**;
* `sessionRows_after`, `ended_after` — the store holds what was issued, and what was ended stays so;
* `browser_sessions_sound` — **an accepted token names an issued session that is active; a mutation
  has the origin and the proof of it; and what was ended is never accepted again**.
-/

import PlatformOps.BrowserSessions

set_option relaxedAutoImplicit false
set_option autoImplicit false

namespace PlatformOps

/-! ### Steps -/

/-- A step of a run. -/
inductive SessionStep
  | issue (subject : String) (now : ℤ) (generated : GeneratedSession)
  | authenticate (token : String) (now : ℤ)
  | authenticateMutation (token : String) (origin csrfProof : Option String) (now later : ℤ)
  | logout (token : String) (now later : ℤ)
  | revoke (sessionId reason : String) (now : ℤ)
  | rotate (keys : SigningKeys)

/-- What a step returns. -/
inductive SessionResult
  | issued (issue : BrowserSessionIssue)
  | principal (principal : ValidatedPrincipal)
  | revoked
  | rotated

/-- The token a step presents, and when. -/
def SessionStep.presents : SessionStep → Option (String × ℤ)
  | .authenticate token now => some (token, now)
  | .authenticateMutation token _ _ now _ => some (token, now)
  | .logout token now _ => some (token, now)
  | _ => none

/-- The proof a step generates or presents. -/
def SessionStep.csrfProof : SessionStep → Option String
  | .issue _ _ generated => some generated.csrfProof
  | .authenticateMutation _ _ csrfProof _ _ => csrfProof
  | _ => none

/-- The sessions, the keys, and what was signed and issued so far. -/
structure SessionWorld where
  sessions : Dict String BrowserSession
  keys : SigningKeys
  signed : List (SigningKey × BrowserSession)
  issued : List BrowserSessionIssue

/-- The gateway over the store in memory. -/
abbrev MemoryGateway := BrowserGateway (Dict String BrowserSession)

variable (gateway : MemoryGateway)

/-- The world after an action on the sessions. -/
def SessionWorld.act {α : Type} (w : SessionWorld)
    (action : Action (Dict String BrowserSession) RegistrationFault α)
    (result : α → SessionResult) : Except RegistrationFault SessionResult × SessionWorld :=
  ((action w.sessions).1.map result, { w with sessions := (action w.sessions).2 })

/-- The world once a session was signed. -/
def SessionWorld.sign (w : SessionWorld) (subject : String) (now : ℤ)
    (generated : GeneratedSession) : SessionWorld :=
  match signSession gateway w.keys subject now generated with
  | .ok (session, _) => { w with signed := (w.keys.current, session) :: w.signed }
  | .error _ => w

/-- The world once a session was issued. -/
def SessionWorld.issue (w : SessionWorld) (subject : String) (now : ℤ)
    (generated : GeneratedSession) : Except RegistrationFault SessionResult × SessionWorld :=
  match PlatformOps.issue gateway w.keys subject now generated w.sessions with
  | (.ok issue, sessions) =>
      (.ok (.issued issue), { w with sessions := sessions, issued := issue :: w.issued })
  | (.error fault, sessions) => (.error fault, { w with sessions := sessions })

/-- Take a step. -/
def performStep (w : SessionWorld) :
    SessionStep → Except RegistrationFault SessionResult × SessionWorld
  | .issue subject now generated =>
      (w.sign gateway subject now generated).issue gateway subject now generated
  | .authenticate token now => w.act (authenticate gateway w.keys token now) .principal
  | .authenticateMutation token origin csrfProof now later =>
      w.act (authenticateMutation gateway w.keys token origin csrfProof now later) .principal
  | .logout token now later => w.act (logout gateway w.keys token now later) .principal
  | .revoke sessionId reason now =>
      w.act (gateway.repository.revoke sessionId reason now) fun _ => .revoked
  | .rotate keys => (.ok .rotated, { w with keys := keys })

/-- The world without sessions. -/
def SessionWorld.initial (keys : SigningKeys) : SessionWorld := ⟨.empty, keys, [], []⟩

/-- The world after some steps. -/
def sessionsFrom (w : SessionWorld) (steps : List SessionStep) : SessionWorld :=
  steps.foldl (fun w e => (performStep gateway w e).2) w

/-- The world after the steps of a run. -/
def sessionsAfter (keys : SigningKeys) (steps : List SessionStep) : SessionWorld :=
  sessionsFrom gateway (.initial keys) steps

/-- The step believes the token it presents. -/
def Accepts (w : SessionWorld) (e : SessionStep) (token : String) (now : ℤ)
    (principal : ValidatedPrincipal) : Prop :=
  e.presents = some (token, now) ∧ (performStep gateway w e).1 = .ok (.principal principal)

/-- The claims of a token, whatever its tag. -/
def tokenClaims (token : String) : Option (Dict String ClaimValue) :=
  (splitToken token).bind fun parts => gateway.library.claims parts.1

/-- The claims of the token name this session. -/
def NamesSession (token sessionId : String) : Prop :=
  ∃ claims, tokenClaims gateway token = some claims ∧ claims.get? "sid" = some (.text sessionId)

/-- The step ends a session: a logout with a token for it, or a revocation of a session that is
stored. -/
def Ends (w : SessionWorld) (e : SessionStep) (sessionId : String) : Prop :=
  (∃ token now later principal, e = .logout token now later ∧
      Accepts gateway w e token now principal ∧ NamesSession gateway token sessionId) ∨
    ∃ reason now, e = .revoke sessionId reason now ∧ w.sessions.get? sessionId ≠ none ∧
      ∃ result, (performStep gateway w e).1 = .ok result

/-- The proofs of a run. -/
def csrfProofs (steps : List SessionStep) : Set String :=
  {proof | ∃ e ∈ steps, e.csrfProof = some proof}

/-- What is assumed of the tags and the digests of a run: a presented text whose tag is right under
one of the keys was signed under that secret before; what was signed reads back; and the digests of
the proofs differ. -/
structure Ideal (keys : SigningKeys) (steps : List SessionStep) : Prop where
  unforgeable : ∀ pre e post token now input segment, steps = pre ++ e :: post →
    e.presents = some (token, now) → splitToken token = some (input, segment) →
    ∀ key ∈ (sessionsAfter gateway keys pre).keys.previous ++
        [(sessionsAfter gateway keys pre).keys.current],
      gateway.library.decodeTag segment = some (gateway.library.hs256 key.secret input) →
      ∃ signed ∈ (sessionsAfter gateway keys pre).signed, signed.1.secret = key.secret ∧
        input = gateway.library.signingInput signed.1.keyId
          (sessionClaims gateway.audience signed.2)
  readable : ∀ pre post, steps = pre ++ post → ∀ signed ∈ (sessionsAfter gateway keys pre).signed,
    gateway.library.claims
        (gateway.library.signingInput signed.1.keyId (sessionClaims gateway.audience signed.2)) =
      some (.ofPairs (sessionClaims gateway.audience signed.2))
  csrf : Set.InjOn gateway.csrfHmac (csrfProofs steps)

variable {gateway}

theorem sessionsAfter_concat (keys : SigningKeys) (steps : List SessionStep) (e : SessionStep) :
    sessionsAfter gateway keys (steps ++ [e]) =
      (performStep gateway (sessionsAfter gateway keys steps) e).2 := by
  unfold sessionsAfter sessionsFrom
  rw [List.foldl_append]
  rfl

/-! ### What a step does -/

theorem act_eq_ok {α : Type} {w : SessionWorld}
    {action : Action (Dict String BrowserSession) RegistrationFault α} {result : α → SessionResult}
    {value : SessionResult} (h : (w.act action result).1 = .ok value) :
    ∃ a sessions, action w.sessions = (.ok a, sessions) ∧ result a = value := by
  unfold SessionWorld.act at h
  rcases haction : action w.sessions with ⟨outcome, sessions⟩
  rw [haction] at h
  cases outcome with
  | error fault => cases h
  | ok a => exact ⟨a, sessions, rfl, Except.ok.inj h⟩

/-- A step that believes a token has authenticated its identity. -/
theorem identity_of_accepts {w : SessionWorld} {e : SessionStep} {token : String} {now : ℤ}
    {principal : ValidatedPrincipal} (h : Accepts gateway w e token now principal) :
    ∃ sessionId t, authenticateIdentity gateway w.keys token now w.sessions =
      (.ok (principal, sessionId), t) := by
  obtain ⟨hpresents, hresult⟩ := h
  cases e with
  | issue subject now' generated => cases hpresents
  | revoke sessionId reason now' => cases hpresents
  | rotate keys => cases hpresents
  | authenticate token' now' =>
      cases hpresents
      obtain ⟨a, sessions, haction, hsame⟩ := act_eq_ok hresult
      cases hsame
      obtain ⟨sessionId, hidentity⟩ := authenticate_eq_ok haction
      exact ⟨sessionId, _, hidentity⟩
  | authenticateMutation token' origin csrfProof now' later =>
      cases hpresents
      obtain ⟨a, sessions, haction, hsame⟩ := act_eq_ok hresult
      cases hsame
      obtain ⟨sessionId, s', proof, hidentity, -⟩ := authenticateMutation_eq_ok haction
      exact ⟨sessionId, _, hidentity⟩
  | logout token' now' later =>
      cases hpresents
      obtain ⟨a, sessions, haction, hsame⟩ := act_eq_ok hresult
      cases hsame
      obtain ⟨sessionId, s', hidentity, -⟩ := logout_eq_ok haction
      exact ⟨sessionId, _, hidentity⟩

/-- What stands behind an authenticated identity in memory. -/
theorem identity_spec (hmemory : gateway.repository = inMemorySessions) {w : SessionWorld}
    {token : String} {now : ℤ} {principal : ValidatedPrincipal} {sessionId : String}
    {t : Dict String BrowserSession} (h : authenticateIdentity gateway w.keys token now w.sessions =
      (.ok (principal, sessionId), t)) :
    t = w.sessions ∧ ∃ claims session,
      verifyToken gateway.library gateway.audience w.keys token now = some claims ∧
        w.sessions.get? sessionId = some session ∧ session.subject = claims.sub ∧
        session.IsActive now ∧ claims.sid = sessionId ∧
        principal = ⟨platformopsBrowserSessionIssuer, claims.sub⟩ := by
  obtain ⟨claims, session, hverify, hactive, hsame⟩ := authenticateIdentity_eq_ok h
  rw [hmemory] at hactive
  have hfound : activeSession w.sessions claims.sid claims.sub now = some session :=
    Except.ok.inj (congrArg Prod.fst hactive)
  have hstate : w.sessions = t := congrArg Prod.snd hactive
  obtain ⟨hget, hsubject, hlive⟩ := activeSession_eq_some hfound
  obtain ⟨hprincipal, hid⟩ := Prod.mk.inj hsame
  rw [← hid] at hget
  exact ⟨hstate.symm, claims, session, hverify, hget, hsubject, hlive, hid.symm, hprincipal⟩

/-- What a step can do to the store. -/
inductive StoreEffect (gateway : MemoryGateway) (w : SessionWorld) (e : SessionStep) :
    SessionWorld → Prop
  | issued {w' : SessionWorld} (issue : BrowserSessionIssue)
      (hfresh : w.sessions.get? issue.session.sessionId = none)
      (hsessions : w'.sessions = w.sessions.set issue.session.sessionId issue.session)
      (hissued : w'.issued = issue :: w.issued)
      (hdigest : issue.session.csrfProofDigest = gateway.csrfHmac issue.csrfProof)
      (hproof : e.csrfProof = some issue.csrfProof) : StoreEffect gateway w e w'
  | revoked {w' : SessionWorld} (sessionId reason : String) (now : ℤ) (session : BrowserSession)
      (hstored : w.sessions.get? sessionId = some session)
      (hsessions : w'.sessions = w.sessions.set sessionId (session.revoke reason now))
      (hissued : w'.issued = w.issued) : StoreEffect gateway w e w'
  | kept {w' : SessionWorld} (hsessions : w'.sessions = w.sessions)
      (hissued : w'.issued = w.issued) : StoreEffect gateway w e w'

theorem sessions_sign (gateway : MemoryGateway) (w : SessionWorld) (subject : String) (now : ℤ)
    (generated : GeneratedSession) :
    (w.sign gateway subject now generated).sessions = w.sessions ∧
      (w.sign gateway subject now generated).issued = w.issued ∧
      (w.sign gateway subject now generated).keys = w.keys := by
  unfold SessionWorld.sign
  cases signSession gateway w.keys subject now generated with
  | error fault => exact ⟨rfl, rfl, rfl⟩
  | ok signed => exact ⟨rfl, rfl, rfl⟩

/-- An issue stores its session under a new id, or changes nothing. -/
theorem issue_effect (hmemory : gateway.repository = inMemorySessions) (w : SessionWorld)
    (subject : String) (now : ℤ) (generated : GeneratedSession) :
    StoreEffect gateway w (.issue subject now generated)
      (performStep gateway w (.issue subject now generated)).2 := by
  obtain ⟨hsessions, hissued, hkeys⟩ := sessions_sign gateway w subject now generated
  show StoreEffect gateway w (.issue subject now generated)
    ((w.sign gateway subject now generated).issue gateway subject now generated).2
  generalize w.sign gateway subject now generated = signed at *
  unfold SessionWorld.issue PlatformOps.issue
  cases hsign : signSession gateway signed.keys subject now generated with
  | error fault => exact .kept hsessions hissued
  | ok pair =>
      obtain ⟨session, token⟩ := pair
      obtain ⟨-, -, hdigest, -, -⟩ := signSession_spec hsign
      rw [Action.ofExcept_ok_bind_apply, hmemory]
      dsimp only
      cases hstored : signed.sessions.get? session.sessionId with
      | some other =>
          have hcreate : inMemorySessions.create session signed.sessions =
              (.error (.valueError "browser session already exists"), signed.sessions) := by
            unfold inMemorySessions createSession
            dsimp only
            rw [hstored]
          rw [Action.bind_of_error hcreate]
          exact .kept hsessions hissued
      | none =>
          have hcreate : inMemorySessions.create session signed.sessions =
              (.ok (), signed.sessions.set session.sessionId session) := by
            unfold inMemorySessions createSession
            dsimp only
            rw [hstored]
          rw [Action.bind_of_ok hcreate]
          refine .issued ⟨session, ⟨token, gateway.cookieName, gateway.ttlSeconds⟩,
            generated.csrfProof⟩ ?_ ?_ ?_ hdigest rfl
          · rw [← hsessions]
            exact hstored
          · rw [← hsessions]
            rfl
          · rw [← hissued]
            rfl

theorem revoke_effect {w w' : SessionWorld} (e : SessionStep) (sessionId reason : String) (now : ℤ)
    (hsessions : w'.sessions = (revokeSession w.sessions sessionId reason now).2)
    (hissued : w'.issued = w.issued) : StoreEffect gateway w e w' := by
  unfold revokeSession at hsessions
  split at hsessions
  · exact .kept hsessions hissued
  · split at hsessions
    · rename_i session hstored
      exact .revoked sessionId reason now session hstored hsessions hissued
    · exact .kept hsessions hissued

theorem readOnly_getActive (hmemory : gateway.repository = inMemorySessions)
    (sessionId subject : String) (now : ℤ) :
    (gateway.repository.getActive sessionId subject now).ReadOnly := by
  rw [hmemory]
  exact Action.readOnly_read _

theorem readOnly_authenticateIdentity (hmemory : gateway.repository = inMemorySessions)
    (keys : SigningKeys) (token : String) (now : ℤ) :
    (authenticateIdentity gateway keys token now).ReadOnly := by
  unfold authenticateIdentity
  split
  · exact Action.readOnly_raise _
  · refine (readOnly_getActive hmemory _ _ _).bind fun found => ?_
    split
    · exact Action.readOnly_raise _
    · exact Action.readOnly_pure _

theorem readOnly_verifyCsrf (hmemory : gateway.repository = inMemorySessions)
    (sessionId subject proof : String) (now : ℤ) :
    (verifyCsrf gateway sessionId subject proof now).ReadOnly := by
  refine (readOnly_getActive hmemory _ _ _).bind fun found => ?_
  split
  · exact Action.readOnly_pure _
  · exact (Action.readOnly_ofExcept _).bind fun digest => Action.readOnly_pure _

theorem readOnly_authenticateMutation (hmemory : gateway.repository = inMemorySessions)
    (keys : SigningKeys) (token : String) (origin csrfProof : Option String) (now later : ℤ) :
    (authenticateMutation gateway keys token origin csrfProof now later).ReadOnly := by
  refine (readOnly_authenticateIdentity hmemory _ _ _).bind fun identity => ?_
  cases csrfProof with
  | none => exact Action.readOnly_raise _
  | some proof =>
      refine Action.ReadOnly.ite ?_ (Action.readOnly_raise _)
      exact (readOnly_verifyCsrf hmemory _ _ _ _).bind fun verified =>
        Action.ReadOnly.ite (Action.readOnly_pure _) (Action.readOnly_raise _)

/-- **A step issues a session, revokes one, or leaves the store alone.** -/
theorem performStep_effect (hmemory : gateway.repository = inMemorySessions) (w : SessionWorld)
    (e : SessionStep) : StoreEffect gateway w e (performStep gateway w e).2 := by
  cases e with
  | issue subject now generated => exact issue_effect hmemory w subject now generated
  | authenticate token now =>
      refine .kept ?_ rfl
      have hidentity := readOnly_authenticateIdentity hmemory w.keys token now
      exact (hidentity.bind fun identity => Action.readOnly_pure identity.1) w.sessions
  | authenticateMutation token origin csrfProof now later =>
      exact .kept (readOnly_authenticateMutation hmemory _ _ _ _ _ _ w.sessions) rfl
  | logout token now later =>
      rcases hidentity : authenticateIdentity gateway w.keys token now w.sessions with ⟨outcome, s'⟩
      have hs : s' = w.sessions :=
        (readOnly_authenticateIdentity hmemory w.keys token now).state_eq hidentity
      cases outcome with
      | error fault =>
          refine .kept ?_ rfl
          show (logout gateway w.keys token now later w.sessions).2 = w.sessions
          unfold logout
          rw [Action.bind_of_error hidentity, hs]
      | ok identity =>
          refine revoke_effect (.logout token now later) identity.2 "logout" later ?_ rfl
          show (logout gateway w.keys token now later w.sessions).2 = _
          unfold logout
          rw [Action.bind_of_ok hidentity, hs, hmemory, Action.bind_apply]
          unfold inMemorySessions
          dsimp only
          rcases revokeSession w.sessions identity.2 "logout" later with ⟨result, sessions⟩
          cases result with
          | error fault => rfl
          | ok value => rfl
  | revoke sessionId reason now =>
      refine revoke_effect (.revoke sessionId reason now) sessionId reason now ?_ rfl
      show (gateway.repository.revoke sessionId reason now w.sessions).2 = _
      rw [hmemory]
      rfl
  | rotate keys => exact .kept rfl rfl

/-! ### What is known of the store -/

/-- A stored session that is not revoked was issued as it is stored, and an issued session has the
digest of its proof. -/
structure SessionRows (gateway : MemoryGateway) (proofs : Set String) (w : SessionWorld) :
    Prop where
  stored : ∀ sessionId session, w.sessions.get? sessionId = some session →
    session.sessionId = sessionId ∧
      (session.revokedAt = none → ∃ issue ∈ w.issued, issue.session = session)
  digest : ∀ issue ∈ w.issued, issue.session.csrfProofDigest = gateway.csrfHmac issue.csrfProof ∧
    issue.csrfProof ∈ proofs

theorem SessionRows.step {proofs : Set String} {w w' : SessionWorld} {e : SessionStep}
    (h : SessionRows gateway proofs w) (heffect : StoreEffect gateway w e w')
    (hproofs : ∀ proof, e.csrfProof = some proof → proof ∈ proofs) :
    SessionRows gateway proofs w' := by
  cases heffect with
  | kept hsessions hissued =>
      constructor
      · rw [hsessions, hissued]
        exact h.stored
      · rw [hissued]
        exact h.digest
  | issued issue hfresh hsessions hissued hdigest hproof =>
      constructor
      · intro sessionId session hget
        rw [hsessions] at hget
        rw [hissued]
        rcases Dict.get?_set_eq_some_iff.1 hget with ⟨rfl, rfl⟩ | ⟨-, hold⟩
        · exact ⟨rfl, fun _ => ⟨issue, List.mem_cons_self, rfl⟩⟩
        · obtain ⟨hid, hlive⟩ := h.stored sessionId session hold
          refine ⟨hid, fun hrevoked => ?_⟩
          obtain ⟨other, hmem, hsame⟩ := hlive hrevoked
          exact ⟨other, List.mem_cons_of_mem _ hmem, hsame⟩
      · intro other hmem
        rw [hissued] at hmem
        rcases List.mem_cons.1 hmem with rfl | hmem
        · exact ⟨hdigest, hproofs _ hproof⟩
        · exact h.digest other hmem
  | revoked sessionId reason now session hstored hsessions hissued =>
      constructor
      · intro sessionId' session' hget
        rw [hsessions] at hget
        rw [hissued]
        rcases Dict.get?_set_eq_some_iff.1 hget with ⟨rfl, rfl⟩ | ⟨-, hold⟩
        · exact ⟨(h.stored _ session hstored).1, fun hrevoked => by cases hrevoked⟩
        · exact h.stored sessionId' session' hold
      · rw [hissued]
        exact h.digest

/-- The session is stored, and revoked. -/
def Ended (w : SessionWorld) (sessionId : String) : Prop :=
  ∃ session, w.sessions.get? sessionId = some session ∧ session.revokedAt ≠ none

/-- What was ended stays so. -/
theorem Ended.step {w w' : SessionWorld} {e : SessionStep} {sessionId : String}
    (h : Ended w sessionId) (heffect : StoreEffect gateway w e w') : Ended w' sessionId := by
  obtain ⟨session, hstored, hrevoked⟩ := h
  cases heffect with
  | kept hsessions hissued => exact ⟨session, by rw [hsessions]; exact hstored, hrevoked⟩
  | issued issue hfresh hsessions hissued hdigest hproof =>
      have hne : sessionId ≠ issue.session.sessionId := by
        rintro rfl
        rw [hfresh] at hstored
        cases hstored
      exact ⟨session, by rw [hsessions, Dict.get?_set_of_ne _ _ hne]; exact hstored, hrevoked⟩
  | revoked sessionId' reason now other hother hsessions hissued =>
      by_cases hid : sessionId = sessionId'
      · subst hid
        exact ⟨_, by rw [hsessions, Dict.get?_set_self], by simp [BrowserSession.revoke]⟩
      · exact ⟨session, by rw [hsessions, Dict.get?_set_of_ne _ _ hid]; exact hstored, hrevoked⟩

/-- What was ended stays so over a run. -/
theorem ended_from (hmemory : gateway.repository = inMemorySessions) {w : SessionWorld}
    {sessionId : String} (h : Ended w sessionId) (steps : List SessionStep) :
    Ended (sessionsFrom gateway w steps) sessionId := by
  induction steps generalizing w with
  | nil => exact h
  | cons e steps ih => exact ih (h.step (performStep_effect hmemory w e))

/-- **The store holds what was issued**, at every moment of a run. -/
theorem sessionRows_after (hmemory : gateway.repository = inMemorySessions) (keys : SigningKeys)
    (steps : List SessionStep) :
    SessionRows gateway (csrfProofs steps) (sessionsAfter gateway keys steps) := by
  induction steps using List.reverseRecOn with
  | nil =>
      constructor
      · intro sessionId session h
        cases h
      · intro issue h
        cases h
  | append_singleton steps e ih =>
      rw [sessionsAfter_concat]
      have hmono : SessionRows gateway (csrfProofs (steps ++ [e]))
          (sessionsAfter gateway keys steps) := by
        refine ⟨ih.stored, fun issue hissue => ⟨(ih.digest issue hissue).1, ?_⟩⟩
        obtain ⟨e', hmem, hproof⟩ := (ih.digest issue hissue).2
        exact ⟨e', List.mem_append_left _ hmem, hproof⟩
      exact hmono.step (performStep_effect hmemory _ e) fun proof hproof => ⟨e, by simp, hproof⟩

/-! ### Accepted tokens -/

/-- What is known of an accepted token: the session that was issued, which is stored as it was and
active, and the text of the token, which the issuer signed for this session. -/
structure SoundAcceptance (gateway : MemoryGateway) (w : SessionWorld) (token : String) (now : ℤ)
    (principal : ValidatedPrincipal) (issue : BrowserSessionIssue) : Prop where
  issued : issue ∈ w.issued
  principal : principal = ⟨platformopsBrowserSessionIssuer, issue.session.subject⟩
  stored : w.sessions.get? issue.session.sessionId = some issue.session
  active : issue.session.IsActive now
  named : NamesSession gateway token issue.session.sessionId
  signed : ∃ signed ∈ w.signed, signed.2.sessionId = issue.session.sessionId ∧
    signed.2.subject = issue.session.subject ∧ ∃ segment, splitToken token =
      some (gateway.library.signingInput signed.1.keyId (sessionClaims gateway.audience signed.2),
        segment)

theorem namesSession_of_verify {keys : SigningKeys} {token : String} {now : ℤ}
    {claims : VerifiedClaims}
    (h : verifyToken gateway.library gateway.audience keys token now = some claims) :
    NamesSession gateway token claims.sid := by
  obtain ⟨key, -, input, segment, dict, hsplit, -, hclaims, hcheck⟩ := verifyToken_eq_some h
  refine ⟨dict, ?_, (checkClaims_eq_some hcheck).2⟩
  unfold tokenClaims
  rw [hsplit]
  exact hclaims

theorem NamesSession.unique {token a b : String} (ha : NamesSession gateway token a)
    (hb : NamesSession gateway token b) : a = b := by
  obtain ⟨claims, hclaims, hsid⟩ := ha
  obtain ⟨claims', hclaims', hsid'⟩ := hb
  rw [hclaims] at hclaims'
  cases hclaims'
  rw [hsid] at hsid'
  cases hsid'
  rfl

/-- The claims that verify are those of a session that the issuer signed. -/
theorem signed_of_verify {keys : SigningKeys} {steps pre post : List SessionStep}
    (hideal : Ideal gateway keys steps) {e : SessionStep} (hsteps : steps = pre ++ e :: post)
    {token : String} {now : ℤ} (hpresents : e.presents = some (token, now))
    {claims : VerifiedClaims}
    (h : verifyToken gateway.library gateway.audience (sessionsAfter gateway keys pre).keys token
      now = some claims) :
    ∃ signed ∈ (sessionsAfter gateway keys pre).signed, signed.2.sessionId = claims.sid ∧
      signed.2.subject = claims.sub ∧ ∃ segment, splitToken token =
        some (gateway.library.signingInput signed.1.keyId
          (sessionClaims gateway.audience signed.2), segment) := by
  obtain ⟨key, hkey, input, segment, dict, hsplit, htag, hclaims, hcheck⟩ := verifyToken_eq_some h
  obtain ⟨signed, hmem, -, rfl⟩ :=
    hideal.unforgeable pre e post token now input segment hsteps hpresents hsplit key hkey htag
  rw [hideal.readable pre (e :: post) hsteps signed hmem] at hclaims
  cases hclaims
  obtain ⟨hsub, hsid⟩ := checkClaims_eq_some hcheck
  rw [get?_sub_sessionClaims] at hsub
  rw [get?_sid_sessionClaims] at hsid
  have hsubject : signed.2.subject = claims.sub := ClaimValue.text.inj (Option.some.inj hsub)
  have hid : signed.2.sessionId = claims.sid := ClaimValue.text.inj (Option.some.inj hsid)
  exact ⟨signed, hmem, hid, hsubject, segment, hsplit⟩

/-- **An accepted token is sound.** -/
theorem sound_of_accepts (hmemory : gateway.repository = inMemorySessions) {keys : SigningKeys}
    {steps pre post : List SessionStep} (hideal : Ideal gateway keys steps) {e : SessionStep}
    (hsteps : steps = pre ++ e :: post) {token : String} {now : ℤ}
    {principal : ValidatedPrincipal}
    (h : Accepts gateway (sessionsAfter gateway keys pre) e token now principal) :
    ∃ issue,
      SoundAcceptance gateway (sessionsAfter gateway keys pre) token now principal issue := by
  obtain ⟨sessionId, t, hidentity⟩ := identity_of_accepts h
  obtain ⟨-, claims, session, hverify, hget, hsubject, hactive, hsid, hprincipal⟩ :=
    identity_spec hmemory hidentity
  obtain ⟨hid, hlive⟩ := (sessionRows_after hmemory keys pre).stored sessionId session hget
  obtain ⟨issue, hissue, hsame⟩ := hlive hactive.1
  obtain ⟨signed, hmem, hsignedId, hsignedSubject, hsegment⟩ :=
    signed_of_verify hideal hsteps h.1 hverify
  have hissueId : issue.session.sessionId = sessionId := by rw [hsame, hid]
  have hissueSubject : issue.session.subject = claims.sub := by rw [hsame, hsubject]
  refine ⟨issue, hissue, ?_, ?_, ?_, ?_, signed, hmem, ?_, ?_, hsegment⟩
  · rw [hprincipal, hissueSubject]
  · rw [hissueId, hget, hsame]
  · rw [hsame]
    exact hactive
  · rw [hissueId, ← hsid]
    exact namesSession_of_verify hverify
  · rw [hsignedId, hsid, hissueId]
  · rw [hsignedSubject, hissueSubject]

/-- A mutation is accepted with the origin of the gateway and the proof of its session. -/
theorem proof_of_mutation (hmemory : gateway.repository = inMemorySessions) {keys : SigningKeys}
    {steps pre post : List SessionStep} (hideal : Ideal gateway keys steps) {token : String}
    {origin csrfProof : Option String} {now later : ℤ}
    (hsteps : steps = pre ++ .authenticateMutation token origin csrfProof now later :: post)
    {principal : ValidatedPrincipal} {issue : BrowserSessionIssue}
    (h : Accepts gateway (sessionsAfter gateway keys pre)
      (.authenticateMutation token origin csrfProof now later) token now principal)
    (hsound : SoundAcceptance gateway (sessionsAfter gateway keys pre) token now principal issue) :
    origin = some gateway.expectedOrigin ∧ csrfProof = some issue.csrfProof := by
  obtain ⟨a, sessions, haction, hsame⟩ := act_eq_ok h.2
  cases hsame
  obtain ⟨sessionId, s', proof, hidentity, rfl, horigin, hverified⟩ :=
    authenticateMutation_eq_ok haction
  obtain ⟨hs, claims, -, hverify, -, -, -, hsid, -⟩ := identity_spec hmemory hidentity
  have hid : sessionId = issue.session.sessionId := by
    rw [← hsid]
    exact (namesSession_of_verify hverify).unique hsound.named
  obtain ⟨session, s'', hactive, hdigest⟩ := verifyCsrf_eq_true hverified
  rw [hmemory] at hactive
  have hfound : activeSession s' sessionId principal.subject later = some session :=
    Except.ok.inj (congrArg Prod.fst hactive)
  have hget := (activeSession_eq_some hfound).1
  rw [hs, hid, hsound.stored] at hget
  cases hget
  -- the digests of the two proofs agree
  obtain ⟨hissueDigest, e, hmem, hproof⟩ :=
    (sessionRows_after hmemory keys pre).digest issue hsound.issued
  have hproofs : issue.csrfProof = proof := by
    have hissued : issue.csrfProof ∈ csrfProofs steps := by
      rw [hsteps]
      exact ⟨e, List.mem_append_left _ hmem, hproof⟩
    have hpresented : proof ∈ csrfProofs steps := by
      rw [hsteps]
      exact ⟨_, List.mem_append_right _ List.mem_cons_self, rfl⟩
    exact hideal.csrf hissued hpresented (hissueDigest.symm.trans hdigest)
  exact ⟨horigin, by rw [hproofs]⟩

/-- A step that ends a session leaves it revoked. -/
theorem ended_of_ends (hmemory : gateway.repository = inMemorySessions) {w : SessionWorld}
    {e : SessionStep} {sessionId : String} (h : Ends gateway w e sessionId) :
    Ended (performStep gateway w e).2 sessionId := by
  have hrevoked : ∀ reason now session, reason ≠ "" → w.sessions.get? sessionId = some session →
      ∀ w' : SessionWorld, w'.sessions = (revokeSession w.sessions sessionId reason now).2 →
      Ended w' sessionId := by
    intro reason now session hreason hstored w' hsessions
    refine ⟨session.revoke reason now, ?_, by simp [BrowserSession.revoke]⟩
    unfold revokeSession at hsessions
    rw [if_neg hreason, hstored] at hsessions
    rw [hsessions, Dict.get?_set_self]
  rcases h with ⟨token, now, later, principal, rfl, haccepts, hnames⟩ | ⟨reason, now, rfl, hstored,
    result, hresult⟩
  · obtain ⟨a, sessions, haction, hsame⟩ := act_eq_ok haccepts.2
    cases hsame
    obtain ⟨sessionId', s', hidentity, hrevoke⟩ := logout_eq_ok haction
    obtain ⟨hs, claims, session, hverify, hget, -, -, hsid, -⟩ := identity_spec hmemory hidentity
    have hid : sessionId' = sessionId := by
      rw [← hsid]
      exact (namesSession_of_verify hverify).unique hnames
    rw [hid] at hget hrevoke
    refine hrevoked "logout" later session (by decide) hget _ ?_
    show (logout gateway w.keys token now later w.sessions).2 = _
    rw [hs, hmemory] at hrevoke
    rw [haction]
    exact (congrArg Prod.snd hrevoke).symm
  · obtain ⟨session, hget⟩ := Option.ne_none_iff_exists'.1 hstored
    have hreason : reason ≠ "" := by
      rintro rfl
      obtain ⟨a, sessions, haction, -⟩ := act_eq_ok hresult
      rw [hmemory] at haction
      have hfault := congrArg Prod.fst haction
      cases hfault
    refine hrevoked reason now session hreason hget _ ?_
    show (gateway.repository.revoke sessionId reason now w.sessions).2 = _
    rw [hmemory]
    rfl

/-- **Browser sessions are sound.**  In every run whose tags are ideal, an accepted token names a
session that was issued for its principal and is active, and was signed for it; an accepted mutation
has the origin of the gateway and the proof that was issued with that session; and once a session
was ended or revoked, no token that names it is accepted. -/
theorem browser_sessions_sound (gateway : MemoryGateway)
    (hmemory : gateway.repository = inMemorySessions) (keys : SigningKeys)
    (steps : List SessionStep) (hideal : Ideal gateway keys steps) :
    (∀ pre e post token now principal, steps = pre ++ e :: post →
      Accepts gateway (sessionsAfter gateway keys pre) e token now principal →
      ∃ issue,
        SoundAcceptance gateway (sessionsAfter gateway keys pre) token now principal issue ∧
        ∀ origin csrfProof later, e = .authenticateMutation token origin csrfProof now later →
          origin = some gateway.expectedOrigin ∧ csrfProof = some issue.csrfProof) ∧
      ∀ pre e mid later post sessionId token now principal,
        steps = pre ++ e :: (mid ++ later :: post) →
        Ends gateway (sessionsAfter gateway keys pre) e sessionId →
        NamesSession gateway token sessionId →
        ¬ Accepts gateway (sessionsAfter gateway keys (pre ++ e :: mid)) later token now
          principal := by
  constructor
  · intro pre e post token now principal hsteps haccepts
    obtain ⟨issue, hsound⟩ := sound_of_accepts hmemory hideal hsteps haccepts
    refine ⟨issue, hsound, ?_⟩
    rintro origin csrfProof later rfl
    exact proof_of_mutation hmemory hideal hsteps haccepts hsound
  · intro pre e mid later post sessionId token now principal hsteps hends hnames haccepts
    have hended := ended_from hmemory (ended_of_ends hmemory hends) mid
    have hworld : sessionsAfter gateway keys (pre ++ e :: mid) =
        sessionsFrom gateway (performStep gateway (sessionsAfter gateway keys pre) e).2 mid := by
      unfold sessionsAfter sessionsFrom
      rw [List.foldl_append]
      rfl
    rw [hworld] at haccepts
    obtain ⟨sessionId', t, hidentity⟩ := identity_of_accepts haccepts
    obtain ⟨-, claims, session, hverify, hget, -, hactive, hsid, -⟩ :=
      identity_spec hmemory hidentity
    have hid : sessionId' = sessionId := by
      rw [← hsid]
      exact (namesSession_of_verify hverify).unique hnames
    obtain ⟨ended, hstored, hrevoked⟩ := hended
    rw [← hid, hget] at hstored
    cases hstored
    exact hrevoked hactive.1

/-! ### A session that is used and ended -/

/-- A signing key. -/
def annKey : SigningKey := ⟨"k1", "0123456789abcdef0123456789abcdef".toUTF8.toList⟩

/-- The keys with this one alone. -/
def annKeys : SigningKeys := ⟨annKey, [], by decide +kernel, by decide⟩

/-- The text that is signed for the session of Ann. -/
def annInput : String :=
  "eyJhbGciOiJIUzI1NiIsImtpZCI6ImsxIiwidHlwIjoiSldUIn0." ++
    "eyJpc3MiOiJwbGF0Zm9ybW9wcyIsInN1YiI6InVzcl9hbm4iLCJzaWQiOiJic2Vzc18wMSIsImF1ZCI6InBsYXRm" ++
    "b3Jtb3BzLWJyb3dzZXIiLCJpYXQiOjE3NjcyMjU2MDAsImV4cCI6MTc2NzIyNjUwMH0"

/-- Its tag. -/
def annTag : List UInt8 :=
  [252, 72, 235, 225, 210, 141, 27, 30, 68, 144, 219, 43, 139, 133, 147, 55, 98, 94, 58, 109, 156,
    186, 221, 144, 36, 143, 138, 30, 237, 84, 250, 68]

/-- The tag as text. -/
def annSegment : String := "_Ejr4dKNGx5EkNsri4WTN2JeOm2cut2QJI-KHu1U-kQ"

/-- The token of Ann. -/
def annToken : String := annInput ++ "." ++ annSegment

/-- When the session of Ann begins. -/
def annTime : ℤ := 1767225600 * second

/-- The session of Ann. -/
def annSession : BrowserSession :=
  ⟨"bsess_01", "usr_ann",
    .ofNat 0xc2ec168621b6dfdfa8d76d09c6bb14d0ae98f964a960747e8bba2b0a4b1d1104,
    annTime, annTime + 900 * second, none, none, by decide, by decide, by decide,
    fun h => absurd rfl h⟩

/-- The token library, on the token of Ann. -/
def annLibrary : TokenLibrary where
  signingInput _ _ := annInput
  headerKeyId token := if token = annToken then some annKey.keyId else none
  claims input :=
    if input = annInput then some (.ofPairs (sessionClaims "platformops-browser" annSession))
    else none
  hs256 secret input := if secret = annKey.secret ∧ input = annInput then annTag else []
  encodeTag tag := if tag = annTag then annSegment else ""
  decodeTag segment := if segment = annSegment then some annTag else none

/-- A gateway in memory. -/
def annGateway : MemoryGateway where
  library := annLibrary
  repository := inMemorySessions
  csrfHmac := hashTable [("proof", annSession.csrfProofDigest)]
  audience := "platformops-browser"
  cookieName := "platformops_session"
  ttlSeconds := 900
  expectedOrigin := "https://ops.example"
  audience_ne := by decide
  cookieName_ne := by decide
  expectedOrigin_ne := by decide
  ttlPositive := quarterHour_pos

/-- What is generated for the session of Ann. -/
def annGenerated : GeneratedSession := ⟨"bsess_01", "proof", by decide⟩

/-- The session of Ann is issued. -/
def annIssue : SessionStep := .issue "usr_ann" annTime annGenerated

/-- Ann changes something a second later. -/
def annMutation : SessionStep :=
  .authenticateMutation annToken (some "https://ops.example") (some "proof") (annTime + second)
    (annTime + second)

/-- Ann ends her session after another second. -/
def annLogout : SessionStep :=
  .logout annToken (annTime + 2 * second) (annTime + 2 * second)

/-- Somebody presents her token after that. -/
def annReplay : SessionStep := .authenticate annToken (annTime + 3 * second)

theorem splitToken_annToken : splitToken annToken = some (annInput, annSegment) :=
  splitToken_append (by decide)

theorem annLibrary_keyId : annLibrary.headerKeyId annToken = some "k1" := by
  simp only [annLibrary, if_true]
  rfl

theorem annLibrary_hs256 : annLibrary.hs256 annKey.secret annInput = annTag := by
  simp only [annLibrary, and_self, if_true]

theorem annLibrary_encodeTag : annLibrary.encodeTag annTag = annSegment := by
  simp only [annLibrary, if_true]

theorem annLibrary_decodeTag : annLibrary.decodeTag annSegment = some annTag := by
  simp only [annLibrary, if_true]

theorem annLibrary_claims : annLibrary.claims annInput =
    some (.ofPairs (sessionClaims "platformops-browser" annSession)) := by
  simp only [annLibrary, if_true]

theorem annLibrary_encode :
    annLibrary.encode annKey (sessionClaims "platformops-browser" annSession) = annToken := by
  show annInput ++ "." ++ annLibrary.encodeTag (annLibrary.hs256 annKey.secret annInput) = _
  rw [annLibrary_hs256, annLibrary_encodeTag]
  rfl

theorem decodeToken_annToken : decodeToken annLibrary annToken annKey.secret =
    some (.ofPairs (sessionClaims "platformops-browser" annSession)) := by
  rw [decodeToken_of_split splitToken_annToken, annLibrary_decodeTag, annLibrary_hs256, if_pos rfl,
    annLibrary_claims]

theorem verifyToken_annToken (now : ℤ) :
    verifyToken annLibrary "platformops-browser" annKeys annToken now =
      checkClaims "platformops-browser"
        (.ofPairs (sessionClaims "platformops-browser" annSession)) now := by
  have hkey : annKeys.verificationKeys.get? "k1" = some annKey := by decide +kernel
  unfold verifyToken
  rw [annLibrary_keyId, Option.bind_eq_bind, Option.bind_some, hkey, Option.bind_eq_bind,
    Option.bind_some, decodeToken_annToken, Option.bind_eq_bind, Option.bind_some]

theorem signSession_annIssue :
    signSession annGateway annKeys "usr_ann" annTime annGenerated =
      .ok (annSession, annToken) := by
  have hbuild : buildBrowserSession annGateway "usr_ann" annTime annGenerated =
      .ok annSession := by decide
  unfold signSession
  rw [hbuild]
  show (if annKey.secret.length < 32 then _ else _) = _
  rw [if_neg (by decide +kernel)]
  exact congrArg (fun token => Except.ok (annSession, token)) annLibrary_encode

/-- The world once the session of Ann was issued. -/
def annWorld : SessionWorld :=
  ⟨Dict.empty.set "bsess_01" annSession, annKeys, [(annKey, annSession)],
    [⟨annSession, ⟨annToken, "platformops_session", 900⟩, "proof"⟩]⟩

theorem sessionsAfter_annIssue : sessionsAfter annGateway annKeys [annIssue] = annWorld := by
  show ((SessionWorld.initial annKeys).sign annGateway "usr_ann" annTime annGenerated |>.issue
    annGateway "usr_ann" annTime annGenerated).2 = _
  have hkeys : (SessionWorld.initial annKeys).keys = annKeys := rfl
  simp only [SessionWorld.sign, SessionWorld.issue, PlatformOps.issue, hkeys, signSession_annIssue,
    Action.ofExcept_ok_bind_apply]
  rfl

/-- The whole seconds of the instants of the session of Ann. -/
theorem timestampSeconds_ann (now : ℤ) (hfrom : 0 ≤ now) (hto : now ≤ annTime + 1000 * second) :
    timestampSeconds now = now / second :=
  timestampSeconds_of_nonneg hfrom (hto.trans_lt (by decide))

/-- While the session of Ann lasts her token is believed. -/
theorem authenticateIdentity_ann {now : ℤ} (hfrom : annTime ≤ now)
    (hto : now < annTime + 900 * second) :
    authenticateIdentity annGateway annKeys annToken now annWorld.sessions =
      (.ok (⟨"platformops", "usr_ann"⟩, "bsess_01"), annWorld.sessions) := by
  have hclaims : checkClaims "platformops-browser"
      (.ofPairs (sessionClaims "platformops-browser" annSession)) now =
        some ⟨"usr_ann", "bsess_01"⟩ := by
    rw [checkClaims_sessionClaims, if_pos]
    · rfl
    show timestampSeconds annTime ≤ _ ∧ _ < timestampSeconds (annTime + 900 * second)
    rw [timestampSeconds_ann annTime (by decide) (by decide),
      timestampSeconds_ann (annTime + 900 * second) (by decide) (by decide),
      timestampSeconds_ann now (le_trans (by decide) hfrom) (hto.le.trans (by decide))]
    simp only [annTime, second] at hfrom hto ⊢
    omega
  have hactive : activeSession annWorld.sessions "bsess_01" "usr_ann" now = some annSession := by
    have hstored : annWorld.sessions.get? "bsess_01" = some annSession := rfl
    unfold activeSession
    rw [hstored]
    exact if_pos ⟨rfl, rfl, hto⟩
  have hverify : verifyToken annGateway.library annGateway.audience annKeys annToken now =
      some ⟨"usr_ann", "bsess_01"⟩ := (verifyToken_annToken now).trans hclaims
  have hget : annGateway.repository.getActive "bsess_01" "usr_ann" now annWorld.sessions =
      (.ok (some annSession), annWorld.sessions) := congrArg (fun x => (Except.ok x, _)) hactive
  exact authenticateIdentity_of_active hverify hget

theorem performStep_annMutation : performStep annGateway annWorld annMutation =
    (.ok (.principal ⟨"platformops", "usr_ann"⟩), annWorld) := by
  have haction : authenticateMutation annGateway annKeys annToken (some "https://ops.example")
      (some "proof") (annTime + second) (annTime + second) annWorld.sessions =
        (.ok ⟨"platformops", "usr_ann"⟩, annWorld.sessions) := by
    have hverified : verifyCsrf annGateway "bsess_01" "usr_ann" "proof" (annTime + second)
        annWorld.sessions = (.ok true, annWorld.sessions) := by decide
    unfold authenticateMutation
    rw [Action.bind_of_ok (authenticateIdentity_ann (by decide) (by decide))]
    dsimp only
    rw [if_pos (by decide), Action.bind_of_ok hverified]
    rfl
  show annWorld.act _ _ = _
  unfold SessionWorld.act
  rw [show annWorld.keys = annKeys from rfl, haction]
  rfl

theorem performStep_annLogout :
    (performStep annGateway annWorld annLogout).1 =
      .ok (.principal ⟨"platformops", "usr_ann"⟩) := by
  have haction : (logout annGateway annKeys annToken (annTime + 2 * second)
      (annTime + 2 * second) annWorld.sessions).1 = .ok ⟨"platformops", "usr_ann"⟩ := by
    unfold logout
    rw [Action.bind_of_ok (authenticateIdentity_ann (by decide) (by decide))]
    rfl
  show (annWorld.act _ _).1 = _
  unfold SessionWorld.act
  rw [show annWorld.keys = annKeys from rfl, haction]
  rfl

/-- The steps with the session of Ann. -/
def annSteps : List SessionStep := [annIssue, annMutation, annLogout, annReplay]

theorem sessionsAfter_annMutation :
    sessionsAfter annGateway annKeys [annIssue, annMutation] = annWorld := by
  show sessionsAfter annGateway annKeys ([annIssue] ++ [annMutation]) = annWorld
  rw [sessionsAfter_concat, sessionsAfter_annIssue, performStep_annMutation]

/-- Nothing but the session of Ann is signed. -/
theorem signed_annSteps {pre post : List SessionStep} (h : annSteps = pre ++ post) :
    (sessionsAfter annGateway annKeys pre).keys = annKeys ∧
      (sessionsAfter annGateway annKeys pre).signed =
        if pre = [] then [] else [(annKey, annSession)] := by
  have hmem : pre ∈ annSteps.inits := (List.mem_inits _ _).2 ⟨post, h.symm⟩
  have hlogout : sessionsAfter annGateway annKeys [annIssue, annMutation, annLogout] =
      (performStep annGateway annWorld annLogout).2 := by
    show sessionsAfter annGateway annKeys ([annIssue, annMutation] ++ [annLogout]) = _
    rw [sessionsAfter_concat, sessionsAfter_annMutation]
  have hreplay : sessionsAfter annGateway annKeys annSteps =
      (performStep annGateway (performStep annGateway annWorld annLogout).2 annReplay).2 := by
    show sessionsAfter annGateway annKeys ([annIssue, annMutation, annLogout] ++ [annReplay]) = _
    rw [sessionsAfter_concat, hlogout]
  simp only [annSteps, List.inits, List.map_cons, List.map_nil, List.mem_cons, List.not_mem_nil,
    or_false] at hmem
  rcases hmem with rfl | rfl | rfl | rfl | rfl
  · exact ⟨rfl, rfl⟩
  · rw [sessionsAfter_annIssue]
    exact ⟨rfl, rfl⟩
  · rw [sessionsAfter_annMutation]
    exact ⟨rfl, rfl⟩
  · rw [hlogout]
    exact ⟨rfl, rfl⟩
  · show (sessionsAfter annGateway annKeys annSteps).keys = _ ∧
      (sessionsAfter annGateway annKeys annSteps).signed = _
    rw [hreplay]
    exact ⟨rfl, rfl⟩

theorem presents_annSteps {e : SessionStep} (hmem : e ∈ annSteps) {token : String} {now : ℤ}
    (hpresents : e.presents = some (token, now)) : token = annToken ∧ e ≠ annIssue := by
  simp only [annSteps, List.mem_cons, List.not_mem_nil, or_false] at hmem
  rcases hmem with rfl | rfl | rfl | rfl
  · cases hpresents
  · cases hpresents
    exact ⟨rfl, by rintro ⟨⟩⟩
  · cases hpresents
    exact ⟨rfl, by rintro ⟨⟩⟩
  · cases hpresents
    exact ⟨rfl, by rintro ⟨⟩⟩

theorem namesSession_annToken : NamesSession annGateway annToken "bsess_01" := by
  have hclaims : tokenClaims annGateway annToken = annLibrary.claims annInput := by
    unfold tokenClaims
    rw [splitToken_annToken]
    rfl
  exact ⟨_, hclaims.trans annLibrary_claims, get?_sid_sessionClaims _ _⟩

theorem ideal_annSteps : Ideal annGateway annKeys annSteps := by
  constructor
  · intro pre e post token now input segment hsteps hpresents hsplit key hkey htag
    obtain ⟨hkeys, hsigned⟩ := signed_annSteps hsteps
    have hmem : e ∈ annSteps := by
      rw [hsteps]
      simp
    obtain ⟨rfl, hissue⟩ := presents_annSteps hmem hpresents
    rw [splitToken_annToken] at hsplit
    cases hsplit
    have hpre : pre ≠ [] := by
      rintro rfl
      exact hissue (List.cons.inj hsteps).1.symm
    rw [if_neg hpre] at hsigned
    rw [hkeys] at hkey
    have hsame : key = annKey := List.mem_singleton.1 hkey
    exact ⟨(annKey, annSession), by rw [hsigned]; simp, by rw [hsame], rfl⟩
  · intro pre post hsteps signed hmem
    rw [(signed_annSteps hsteps).2] at hmem
    split at hmem
    · cases hmem
    · have hsame : signed = (annKey, annSession) := List.mem_singleton.1 hmem
      rw [hsame]
      exact annLibrary_claims
  · have hproofs : ∀ proof ∈ csrfProofs annSteps, proof = "proof" := by
      rintro proof ⟨e, hmem, hproof⟩
      simp only [annSteps, List.mem_cons, List.not_mem_nil, or_false] at hmem
      rcases hmem with rfl | rfl | rfl | rfl
      · exact (Option.some.inj hproof).symm
      · exact (Option.some.inj hproof).symm
      · cases hproof
      · cases hproof
    intro a ha b hb _
    rw [hproofs a ha, hproofs b hb]

/-- The session of Ann is used once and ended, and her token is not believed after that. -/
theorem ann_used_and_ended :
    (∃ issue, SoundAcceptance annGateway (sessionsAfter annGateway annKeys [annIssue]) annToken
        (annTime + second) ⟨"platformops", "usr_ann"⟩ issue ∧ issue.csrfProof = "proof") ∧
      ∀ principal, ¬ Accepts annGateway
        (sessionsAfter annGateway annKeys [annIssue, annMutation, annLogout]) annReplay annToken
        (annTime + 3 * second) principal := by
  obtain ⟨hsound, hended⟩ :=
    browser_sessions_sound annGateway rfl annKeys annSteps ideal_annSteps
  constructor
  · obtain ⟨issue, hissue, hproof⟩ := hsound [annIssue] annMutation [annLogout, annReplay] annToken
      (annTime + second) ⟨"platformops", "usr_ann"⟩ rfl
      ⟨rfl, by rw [sessionsAfter_annIssue, performStep_annMutation]⟩
    refine ⟨issue, hissue, ?_⟩
    have hsame := (hproof _ _ _ rfl).2
    exact (Option.some.inj hsame).symm
  · intro principal
    refine hended [annIssue, annMutation] annLogout [] annReplay [] "bsess_01" annToken
      (annTime + 3 * second) principal rfl ?_ ?_
    · refine Or.inl ⟨annToken, _, _, ⟨"platformops", "usr_ann"⟩, rfl, ⟨rfl, ?_⟩, ?_⟩
      · rw [sessionsAfter_annMutation, performStep_annLogout]
      · exact namesSession_annToken
    · exact namesSession_annToken

end PlatformOps
