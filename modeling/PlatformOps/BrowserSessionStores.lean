/-
**The two stores of browser sessions.**

Both stores keep the sessions under their identifiers.  The store in the database refuses a text
that cannot be sent, and it revokes a session only if the session is not revoked yet: the first
revocation stays.  The store in memory takes every text, and writes the new revocation over the one
that is there.  So the two hold the same records, and answer alike, exactly as long as every text
can be sent and no revoked session is revoked again with another time or another reason.

Main definitions:

* `SessionCall`, `SessionAnswer` — the calls of a repository, and what they return;
* `sendingSessions` — the repository in the database, with the texts it sends;
* `BrowserSessionRepository.perform`, `BrowserSessionRepository.after` — one call, and a run;
* `SameRecords`, `SessionStoresAgree` — what the stores have in common along a run;
* `SessionCall.Comparable` — the calls that do not tell the stores apart.

Main results:

* `postgres_revoked_final` — **the first revocation is final in the database**, in every run;
* `SameRecords.create_iff`, `SameRecords.revoke_iff` — when a call keeps the records the same;
* `session_stores_agree_iff` — **the stores agree along exactly the runs of such calls**;
* `revoked_again_in_memory` — a session is revoked again, and memory loses its first revocation.
-/

import PlatformOps.BrowserSessionRuns
import PlatformOps.Confirmation
import PlatformOps.OnboardingTables

set_option relaxedAutoImplicit false
set_option autoImplicit false

namespace PlatformOps

/-! ### Calls of a repository -/

/-- A call of a repository. -/
inductive SessionCall
  | create (session : BrowserSession)
  | getActive (sessionId subject : String) (now : ℤ)
  | verifyCsrf (sessionId subject proof : String) (now : ℤ)
  | revoke (sessionId reason : String) (now : ℤ)

/-- What a call returns. -/
inductive SessionAnswer
  | done
  | active (session : Option BrowserSession)
  | verified (result : Bool)

/-- The subject of a session that is created is one of a registered user. -/
def SessionCall.Registered (accounts : List UserAccount) : SessionCall → Prop
  | .create session => ∃ account ∈ accounts, account.subject = session.subject
  | .getActive _ _ _ => True
  | .verifyCsrf _ _ _ _ => True
  | .revoke _ _ _ => True

/-- `digest_csrf_proof`, under the key of a repository. -/
def csrfProofDigest (csrfHmac : String → HexDigest) (proof : String) :
    Except RegistrationFault HexDigest :=
  if proof = "" then .error (.valueError "CSRF proof cannot be empty") else .ok (csrfHmac proof)

/-- The proof is that of the session that was found. -/
def csrfMatches (csrfHmac : String → HexDigest) (proof : String) :
    Option BrowserSession → Except RegistrationFault Bool
  | none => .ok false
  | some session => do
      let digest ← csrfProofDigest csrfHmac proof
      .ok (decide (session.csrfProofDigest = digest))

namespace BrowserSessionRepository

variable {σ : Type} (repository : BrowserSessionRepository σ) (csrfHmac : String → HexDigest)

/-- `verify_csrf`. -/
def verifyCsrf (sessionId subject proof : String) (now : ℤ) : Action σ RegistrationFault Bool := do
  let session ← repository.getActive sessionId subject now
  .ofExcept (csrfMatches csrfHmac proof session)

/-- Make a call. -/
def perform : SessionCall → Action σ RegistrationFault SessionAnswer
  | .create session => do
      repository.create session
      pure .done
  | .getActive sessionId subject now => do
      let session ← repository.getActive sessionId subject now
      pure (.active session)
  | .verifyCsrf sessionId subject proof now => do
      let result ← repository.verifyCsrf csrfHmac sessionId subject proof now
      pure (.verified result)
  | .revoke sessionId reason now => do
      repository.revoke sessionId reason now
      pure .done

/-- The state after some calls. -/
def after (s : σ) (calls : List SessionCall) : σ :=
  calls.foldl (fun s call => (repository.perform csrfHmac call s).2) s

variable {repository csrfHmac}

theorem after_concat (s : σ) (calls : List SessionCall) (call : SessionCall) :
    repository.after csrfHmac s (calls ++ [call]) =
      (repository.perform csrfHmac call (repository.after csrfHmac s calls)).2 := by
  unfold after
  rw [List.foldl_concat]

/-- What no call changes stays as it is over a run. -/
theorem after_append_invariant {P : σ → Prop}
    (hstep : ∀ s call, P s → P (repository.perform csrfHmac call s).2) {s : σ}
    (pre post : List SessionCall) (h : P (repository.after csrfHmac s pre)) :
    P (repository.after csrfHmac s (pre ++ post)) := by
  induction post using List.reverseRecOn with
  | nil => rwa [List.append_nil]
  | append_singleton post call ih =>
      rw [← List.append_assoc, after_concat]
      exact hstep _ call ih

/-- The gateway verifies proofs as its repository does. -/
theorem verifyCsrf_gateway (gateway : BrowserGateway σ) (sessionId subject proof : String)
    (now : ℤ) : PlatformOps.verifyCsrf gateway sessionId subject proof now =
      gateway.repository.verifyCsrf gateway.csrfHmac sessionId subject proof now := by
  unfold PlatformOps.verifyCsrf BrowserSessionRepository.verifyCsrf
  refine congrArg (Action.bind _) (funext fun session => ?_)
  cases session with
  | none => rfl
  | some session =>
      unfold csrfMatches digestCsrfProof csrfProofDigest
      dsimp only
      split
      · rfl
      · rfl

end BrowserSessionRepository

/-! ### The repository in the database -/

/-- What is raised for a text that cannot be sent. -/
def unsendableText : RegistrationFault :=
  .external "DataError" "PostgreSQL text fields cannot contain NUL (0x00) bytes"

/-- Send texts with a statement. -/
def sendTexts (texts : List String) : AuthAction Unit :=
  .guard (∀ text ∈ texts, Sendable text) unsendableText

/-- The texts of the row of a session. -/
def BrowserSession.texts (session : BrowserSession) : List String :=
  [session.sessionId, platformopsBrowserSessionIssuer, session.subject,
    session.csrfProofDigest.text] ++ session.revocationReason.toList

/-- `PostgresBrowserSessionRepository`: its statements, and the texts they are sent with. -/
def sendingSessions : BrowserSessionRepository AuthDatabase where
  create session := do
    sendTexts session.texts
    (postgresSessions none).create session
  getActive sessionId subject now := do
    sendTexts [sessionId, subject]
    (postgresSessions none).getActive sessionId subject now
  revoke sessionId reason now :=
    if reason = "" then .raise (.valueError "revocation reason cannot be empty")
    else do
      sendTexts [reason, sessionId]
      (postgresSessions none).revoke sessionId reason now

/-! ### Runs of both -/

section
variable (csrfHmac : String → HexDigest) (start : AuthDatabase)

/-- The store in memory after some calls. -/
def memorySessionsAfter (calls : List SessionCall) : Dict String BrowserSession :=
  inMemorySessions.after csrfHmac .empty calls

/-- The tables after some calls: the accounts are there from the start, and no sessions. -/
def postgresSessionsAfter (calls : List SessionCall) : AuthDatabase :=
  sendingSessions.after csrfHmac { start with sessions := [] } calls

/-- The stores hold the same sessions, each under its identifier. -/
def SameRecords (m : Dict String BrowserSession) (s : AuthDatabase) : Prop :=
  ∀ sessionId session, m.get? sessionId = some session ↔
    session ∈ s.sessions ∧ session.sessionId = sessionId

/-- **The stores agree along a run**: they accept and refuse the same calls, return the same, hold
the same records, and a session that is revoked stays as it was revoked first. -/
structure SessionStoresAgree (calls : List SessionCall) : Prop where
  answers : ∀ pre call, pre ++ [call] <+: calls → ∀ answer,
    (inMemorySessions.perform csrfHmac call (memorySessionsAfter csrfHmac pre)).1 = .ok answer ↔
      (sendingSessions.perform csrfHmac call (postgresSessionsAfter csrfHmac start pre)).1 =
        .ok answer
  records : ∀ pre, pre <+: calls →
    SameRecords (memorySessionsAfter csrfHmac pre) (postgresSessionsAfter csrfHmac start pre)
  memory_final : ∀ pre post, pre ++ post <+: calls → ∀ sessionId session,
    (memorySessionsAfter csrfHmac pre).get? sessionId = some session → session.revokedAt ≠ none →
      (memorySessionsAfter csrfHmac (pre ++ post)).get? sessionId = some session
  postgres_final : ∀ pre post, pre ++ post <+: calls → ∀ session,
    session ∈ (postgresSessionsAfter csrfHmac start pre).sessions → session.revokedAt ≠ none →
      session ∈ (postgresSessionsAfter csrfHmac start (pre ++ post)).sessions

end

/-- **The call does not tell the stores apart**: its texts can be sent, unless it is refused anyway;
and if it revokes a session that is revoked, then at the same time for the same reason. -/
def SessionCall.Comparable (m : Dict String BrowserSession) : SessionCall → Prop
  | .create session =>
      m.get? session.sessionId = none → ∀ text ∈ session.texts, Sendable text
  | .getActive sessionId subject _ => Sendable sessionId ∧ Sendable subject
  | .verifyCsrf sessionId subject _ _ => Sendable sessionId ∧ Sendable subject
  | .revoke sessionId reason now =>
      reason ≠ "" → (Sendable reason ∧ Sendable sessionId) ∧
        ∀ session, m.get? sessionId = some session → session.revokedAt ≠ none →
          session.revokedAt = some now ∧ session.revocationReason = some reason

/-! ### What a call does in memory -/

section
variable (csrfHmac : String → HexDigest) {m : Dict String BrowserSession} {s : AuthDatabase}
  {sessionId subject reason proof : String} {session : BrowserSession} {now : ℤ}

theorem memory_create_of_known {stored : BrowserSession}
    (h : m.get? session.sessionId = some stored) :
    inMemorySessions.perform csrfHmac (.create session) m =
      (.error (.valueError "browser session already exists"), m) := by
  have hcreate : inMemorySessions.create session m =
      (.error (.valueError "browser session already exists"), m) := by
    change createSession m session = _
    unfold createSession
    rw [h]
  exact Action.bind_of_error hcreate _

theorem memory_create_of_new (h : m.get? session.sessionId = none) :
    inMemorySessions.perform csrfHmac (.create session) m =
      (.ok .done, m.set session.sessionId session) := by
  have hcreate : inMemorySessions.create session m =
      (.ok (), m.set session.sessionId session) := by
    change createSession m session = _
    unfold createSession
    rw [h]
  exact Action.bind_of_ok hcreate _

theorem memory_revoke_of_known (hreason : reason ≠ "") (h : m.get? sessionId = some session) :
    inMemorySessions.perform csrfHmac (.revoke sessionId reason now) m =
      (.ok .done, m.set sessionId (session.revoke reason now)) := by
  have hrevoke : inMemorySessions.revoke sessionId reason now m =
      (.ok (), m.set sessionId (session.revoke reason now)) := by
    change revokeSession m sessionId reason now = _
    unfold revokeSession
    rw [if_neg hreason, h]
  exact Action.bind_of_ok hrevoke _

theorem memory_revoke_of_new (hreason : reason ≠ "") (h : m.get? sessionId = none) :
    inMemorySessions.perform csrfHmac (.revoke sessionId reason now) m = (.ok .done, m) := by
  have hrevoke : inMemorySessions.revoke sessionId reason now m = (.ok (), m) := by
    change revokeSession m sessionId reason now = _
    unfold revokeSession
    rw [if_neg hreason, h]
  exact Action.bind_of_ok hrevoke _

/-- Without a reason nothing is revoked, in either store. -/
theorem memory_revoke_of_empty :
    inMemorySessions.perform csrfHmac (.revoke sessionId "" now) m =
      (.error (.valueError "revocation reason cannot be empty"), m) := rfl

theorem postgres_revoke_of_empty :
    sendingSessions.perform csrfHmac (.revoke sessionId "" now) s =
      (.error (.valueError "revocation reason cannot be empty"), s) := rfl

/-! ### What a call does in the database -/

theorem sendTexts_bind {α : Type} {texts : List String} {f : Unit → AuthAction α} :
    (sendTexts texts >>= f) s =
      if ∀ text ∈ texts, Sendable text then f () s else (.error unsendableText, s) :=
  Action.guard_bind_apply _ _ _

theorem postgres_create_of_unsendable (h : ¬ ∀ text ∈ session.texts, Sendable text) :
    sendingSessions.perform csrfHmac (.create session) s = (.error unsendableText, s) := by
  have hcreate : sendingSessions.create session s = (.error unsendableText, s) :=
    sendTexts_bind.trans (if_neg h)
  exact Action.bind_of_error hcreate _

theorem insertSession_of_known
    (h : ∃ other ∈ s.sessions, other.sessionId = session.sessionId) :
    insertSession session s = (.error (uniqueViolation "auth_browser_sessions_pkey"), s) := by
  unfold insertSession
  refine if_neg fun hall => ?_
  obtain ⟨other, hother, hid⟩ := h
  exact hall other hother hid

theorem insertSession_of_unregistered
    (h : ∀ other ∈ s.sessions, other.sessionId ≠ session.sessionId)
    (haccount : ¬ ∃ account ∈ s.accounts, account.subject = session.subject) :
    insertSession session s =
      (.error (foreignKeyViolation "auth_browser_sessions_user_subject_fkey"), s) := by
  unfold insertSession
  rw [if_pos h, if_neg haccount]

theorem postgres_create_of_refused {fault : RegistrationFault}
    (hsend : ∀ text ∈ session.texts, Sendable text)
    (h : insertSession session s = (.error fault, s)) :
    sendingSessions.perform csrfHmac (.create session) s = (.error fault, s) := by
  have hcreate : sendingSessions.create session s = (.error fault, s) :=
    (sendTexts_bind.trans (if_pos hsend)).trans (Action.transaction_of_error h)
  exact Action.bind_of_error hcreate _

theorem postgres_create_of_new (hsend : ∀ text ∈ session.texts, Sendable text)
    (h : ∀ other ∈ s.sessions, other.sessionId ≠ session.sessionId)
    (haccount : ∃ account ∈ s.accounts, account.subject = session.subject) :
    sendingSessions.perform csrfHmac (.create session) s =
      (.ok .done, { s with sessions := s.sessions ++ [session] }) := by
  have hinsert : insertSession session s =
      (.ok (), { s with sessions := s.sessions ++ [session] }) := by
    unfold insertSession
    rw [if_pos h, if_pos haccount]
  have hcreate : sendingSessions.create session s =
      (.ok (), { s with sessions := s.sessions ++ [session] }) :=
    (sendTexts_bind.trans (if_pos hsend)).trans (Action.transaction_of_ok hinsert)
  exact Action.bind_of_ok hcreate _

/-- The rows once a session is revoked that is not revoked yet. -/
def revokeRows (sessionId reason : String) (now : ℤ) (sessions : List BrowserSession) :
    List BrowserSession :=
  sessions.map fun session =>
    if session.sessionId = sessionId ∧ session.revokedAt = none then session.revoke reason now
    else session

theorem postgres_revoke_of_unsendable (hreason : reason ≠ "")
    (h : ¬ (Sendable reason ∧ Sendable sessionId)) :
    sendingSessions.perform csrfHmac (.revoke sessionId reason now) s =
      (.error unsendableText, s) := by
  have hsend : ¬ ∀ text ∈ [reason, sessionId], Sendable text := by simpa using h
  have hrevoke : sendingSessions.revoke sessionId reason now s = (.error unsendableText, s) := by
    unfold sendingSessions
    dsimp only
    rw [if_neg hreason, sendTexts_bind, if_neg hsend]
  exact Action.bind_of_error hrevoke _

variable (s now) in
theorem postgres_revoke_of_sendable (hreason : reason ≠ "")
    (h : Sendable reason ∧ Sendable sessionId) :
    sendingSessions.perform csrfHmac (.revoke sessionId reason now) s =
      (.ok .done, { s with sessions := revokeRows sessionId reason now s.sessions }) := by
  have hsend : ∀ text ∈ [reason, sessionId], Sendable text := by simpa using h
  have hrevoke : sendingSessions.revoke sessionId reason now s =
      (.ok (), { s with sessions := revokeRows sessionId reason now s.sessions }) := by
    unfold sendingSessions postgresSessions
    dsimp only
    rw [if_neg hreason, sendTexts_bind, if_pos hsend, if_neg hreason]
    rfl
  exact Action.bind_of_ok hrevoke _

/-- The row of an active session of the subject. -/
def AuthDatabase.activeSession? (s : AuthDatabase) (sessionId subject : String) (now : ℤ) :
    Option BrowserSession :=
  s.sessions.find? fun session =>
    session.sessionId = sessionId ∧ session.subject = subject ∧ session.IsActive now

theorem postgres_getActive_of_unsendable (h : ¬ (Sendable sessionId ∧ Sendable subject)) :
    sendingSessions.getActive sessionId subject now s = (.error unsendableText, s) := by
  have hsend : ¬ ∀ text ∈ [sessionId, subject], Sendable text := by simpa using h
  exact sendTexts_bind.trans (if_neg hsend)

variable (s now) in
theorem postgres_getActive_of_sendable (h : Sendable sessionId ∧ Sendable subject) :
    sendingSessions.getActive sessionId subject now s =
      (.ok (s.activeSession? sessionId subject now), s) := by
  have hsend : ∀ text ∈ [sessionId, subject], Sendable text := by simpa using h
  exact sendTexts_bind.trans (if_pos hsend)

end

/-! ### The first revocation -/

section
variable {session : BrowserSession} {reason : String} {now : ℤ}

/-- The session once it is revoked, if it was not revoked before. -/
def BrowserSession.revokeOnce (session : BrowserSession) (reason : String) (now : ℤ) :
    BrowserSession :=
  if session.revokedAt = none then session.revoke reason now else session

@[simp] theorem sessionId_revokeOnce :
    (session.revokeOnce reason now).sessionId = session.sessionId := by
  unfold BrowserSession.revokeOnce
  split
  · rfl
  · rfl

/-- The only text that a revocation writes is its reason. -/
theorem mem_texts_revokeOnce {text : String} (h : text ∈ (session.revokeOnce reason now).texts) :
    text = reason ∨ text ∈ session.texts := by
  unfold BrowserSession.revokeOnce at h
  split at h
  · unfold BrowserSession.texts at h ⊢
    rcases List.mem_append.1 h with hold | hnew
    · exact Or.inr (List.mem_append_left _ hold)
    · exact Or.inl (List.mem_singleton.1 hnew)
  · exact Or.inr h

/-- A revocation changes nothing exactly if it is the one that is there. -/
theorem revoke_eq_self_iff : session.revoke reason now = session ↔
    session.revokedAt = some now ∧ session.revocationReason = some reason := by
  unfold BrowserSession.revoke
  rw [BrowserSession.ext_iff]
  simp [eq_comm]

/-- **Revoking again is revoking once** exactly if it repeats the first revocation. -/
theorem revoke_eq_revokeOnce_iff :
    session.revoke reason now = session.revokeOnce reason now ↔
      (session.revokedAt ≠ none →
        session.revokedAt = some now ∧ session.revocationReason = some reason) := by
  unfold BrowserSession.revokeOnce
  split
  · rename_i hnone
    exact iff_of_true rfl fun h => absurd hnone h
  · rename_i hrevoked
    rw [revoke_eq_self_iff]
    exact ⟨fun h _ => h, fun h => h hrevoked⟩

theorem mem_revokeRows_iff {sessionId : String} {sessions : List BrowserSession}
    {x : BrowserSession} : x ∈ revokeRows sessionId reason now sessions ↔
      ∃ y ∈ sessions, x = if y.sessionId = sessionId then y.revokeOnce reason now else y := by
  unfold revokeRows
  rw [List.mem_map]
  refine exists_congr fun y => and_congr_right fun _ => ?_
  unfold BrowserSession.revokeOnce
  by_cases hid : y.sessionId = sessionId
  · by_cases hnone : y.revokedAt = none
    · simp [hid, hnone, eq_comm]
    · simp [hid, hnone, eq_comm]
  · simp [hid, eq_comm]

end

/-! ### The records on both sides -/

namespace SameRecords

variable {m : Dict String BrowserSession} {s : AuthDatabase} (h : SameRecords m s)
  {sessionId subject reason : String} {session : BrowserSession} {now : ℤ}
include h

theorem new_iff : m.get? sessionId = none ↔
    ∀ other ∈ s.sessions, other.sessionId ≠ sessionId := by
  constructor
  · intro hnone other hother hid
    rw [(h sessionId other).2 ⟨hother, hid⟩] at hnone
    cases hnone
  · intro hall
    cases hget : m.get? sessionId with
    | none => rfl
    | some other =>
        obtain ⟨hother, hid⟩ := (h sessionId other).1 hget
        exact absurd hid (hall other hother)

/-- **The same active session is found.** -/
theorem activeSession?_eq :
    s.activeSession? sessionId subject now = activeSession m sessionId subject now := by
  unfold AuthDatabase.activeSession?
  cases hactive : activeSession m sessionId subject now with
  | none =>
      refine List.find?_eq_none.2 fun other hother => ?_
      rw [decide_eq_true_eq]
      rintro ⟨hid, hsubject, hother_active⟩
      unfold activeSession at hactive
      rw [(h sessionId other).2 ⟨hother, hid⟩] at hactive
      dsimp only at hactive
      rw [if_pos ⟨hsubject, hother_active⟩] at hactive
      cases hactive
  | some session =>
      obtain ⟨hget, hfits⟩ := activeSession_eq_some hactive
      obtain ⟨hmem, hid⟩ := (h sessionId session).1 hget
      cases hfind : s.sessions.find? fun session =>
          decide (session.sessionId = sessionId ∧ session.subject = subject ∧
            session.IsActive now) with
      | none =>
          have hnot := List.find?_eq_none.1 hfind session hmem
          exact absurd (decide_eq_true ⟨hid, hfits⟩) hnot
      | some other =>
          -- two rows with this identifier are one
          have hother := List.mem_of_find?_eq_some hfind
          have hfound := List.find?_some hfind
          rw [decide_eq_true_eq] at hfound
          have hsame := (h sessionId other).2 ⟨hother, hfound.1⟩
          rw [hget] at hsame
          exact hsame.symm

/-- A session is created on both sides. -/
theorem create (hnew : m.get? session.sessionId = none) :
    SameRecords (m.set session.sessionId session)
      { s with sessions := s.sessions ++ [session] } := by
  intro i x
  rw [Dict.get?_set_eq_some_iff, List.mem_append, List.mem_singleton]
  constructor
  · rintro (⟨rfl, rfl⟩ | ⟨-, hget⟩)
    · exact ⟨Or.inr rfl, rfl⟩
    · obtain ⟨hmem, hid⟩ := (h i x).1 hget
      exact ⟨Or.inl hmem, hid⟩
  · rintro ⟨hmem | rfl, rfl⟩
    · refine Or.inr ⟨fun hid => ?_, (h _ x).2 ⟨hmem, rfl⟩⟩
      exact h.new_iff.1 hnew x hmem hid
    · exact Or.inl ⟨rfl, rfl⟩

/-- What is in the rows after a revocation. -/
theorem mem_revokeRows_iff {i : String} {x : BrowserSession} :
    (x ∈ revokeRows sessionId reason now s.sessions ∧ x.sessionId = i) ↔
      ∃ y, m.get? i = some y ∧ x = if i = sessionId then y.revokeOnce reason now else y := by
  rw [PlatformOps.mem_revokeRows_iff]
  constructor
  · rintro ⟨⟨y, hy, rfl⟩, hid⟩
    have hkeeps : y.sessionId = i := by
      rw [← hid]
      split <;> simp
    refine ⟨y, (h i y).2 ⟨hy, hkeeps⟩, ?_⟩
    rw [hkeeps]
  · rintro ⟨y, hget, rfl⟩
    obtain ⟨hy, rfl⟩ := (h i y).1 hget
    refine ⟨⟨y, hy, rfl⟩, ?_⟩
    split <;> simp

/-- **A revocation keeps the records the same** exactly if it is the first one of the session, or
repeats it. -/
theorem revoke_iff (hget : m.get? sessionId = some session) :
    SameRecords (m.set sessionId (session.revoke reason now))
        { s with sessions := revokeRows sessionId reason now s.sessions } ↔
      (session.revokedAt ≠ none →
        session.revokedAt = some now ∧ session.revocationReason = some reason) := by
  rw [← revoke_eq_revokeOnce_iff]
  constructor
  · intro hafter
    have hrow := (hafter sessionId _).1 (Dict.get?_set_self m sessionId _)
    obtain ⟨y, hy, heq⟩ := h.mem_revokeRows_iff.1 hrow
    rw [hget] at hy
    cases hy
    rwa [if_pos rfl] at heq
  · intro honce i x
    rw [h.mem_revokeRows_iff, Dict.get?_set, honce]
    by_cases hi : i = sessionId
    · subst hi
      simp [hget, eq_comm]
    · simp [hi]

/-- A revocation of a session that is not there changes nothing in the rows. -/
theorem revokeRows_of_new (hnew : m.get? sessionId = none) :
    revokeRows sessionId reason now s.sessions = s.sessions := by
  have hsame : ∀ other ∈ s.sessions,
      (if other.sessionId = sessionId ∧ other.revokedAt = none then other.revoke reason now
        else other) = other := by
    intro other hother
    exact if_neg fun hcondition => h.new_iff.1 hnew other hother hcondition.1
  exact (List.map_congr_left hsame).trans (List.map_id' _)

end SameRecords

/-! ### Reading -/

section
variable {σ : Type} {repository : BrowserSessionRepository σ} (csrfHmac : String → HexDigest)
  {sessionId subject proof : String} {now : ℤ} {s : σ}

theorem perform_getActive {found : Option BrowserSession}
    (h : repository.getActive sessionId subject now s = (.ok found, s)) :
    repository.perform csrfHmac (.getActive sessionId subject now) s =
      (.ok (.active found), s) :=
  Action.bind_of_ok h _

theorem perform_getActive_of_error {fault : RegistrationFault}
    (h : repository.getActive sessionId subject now s = (.error fault, s)) :
    repository.perform csrfHmac (.getActive sessionId subject now) s = (.error fault, s) :=
  Action.bind_of_error h _

variable (proof) in
/-- A proof is verified against the session that is found. -/
theorem perform_verifyCsrf {found : Option BrowserSession}
    (h : repository.getActive sessionId subject now s = (.ok found, s)) :
    repository.perform csrfHmac (.verifyCsrf sessionId subject proof now) s =
      ((csrfMatches csrfHmac proof found).map .verified, s) := by
  have hverify : repository.verifyCsrf csrfHmac sessionId subject proof now s =
      (csrfMatches csrfHmac proof found, s) :=
    Action.bind_of_ok h _
  cases hmatches : csrfMatches csrfHmac proof found with
  | ok result =>
      rw [hmatches] at hverify
      exact Action.bind_of_ok hverify _
  | error fault =>
      rw [hmatches] at hverify
      exact Action.bind_of_error hverify _

theorem perform_verifyCsrf_of_error {fault : RegistrationFault}
    (h : repository.getActive sessionId subject now s = (.error fault, s)) :
    repository.perform csrfHmac (.verifyCsrf sessionId subject proof now) s =
      (.error fault, s) := by
  have hverify : repository.verifyCsrf csrfHmac sessionId subject proof now s =
      (.error fault, s) :=
    Action.bind_of_error h _
  exact Action.bind_of_error hverify _

end

theorem memory_getActive (m : Dict String BrowserSession) (sessionId subject : String) (now : ℤ) :
    inMemorySessions.getActive sessionId subject now m =
      (.ok (activeSession m sessionId subject now), m) := rfl

/-! ### What a run of the database keeps -/

section
variable {csrfHmac : String → HexDigest} {start s : AuthDatabase} {call : SessionCall}

variable (csrfHmac s call) in
/-- **A call leaves the rows alone, inserts a session, or revokes one for the first time.** -/
theorem postgres_perform_cases :
    (sendingSessions.perform csrfHmac call s).2 = s ∨
      (∃ session, call = .create session ∧ (∀ text ∈ session.texts, Sendable text) ∧
        (sendingSessions.perform csrfHmac call s).2 =
          { s with sessions := s.sessions ++ [session] }) ∨
      ∃ sessionId reason now, call = .revoke sessionId reason now ∧ Sendable reason ∧
        (sendingSessions.perform csrfHmac call s).2 =
          { s with sessions := revokeRows sessionId reason now s.sessions } := by
  cases call with
  | create session =>
      by_cases hsend : ∀ text ∈ session.texts, Sendable text
      · by_cases hknown : ∃ other ∈ s.sessions, other.sessionId = session.sessionId
        · rw [postgres_create_of_refused csrfHmac hsend (insertSession_of_known hknown)]
          exact Or.inl rfl
        · have hnew : ∀ other ∈ s.sessions, other.sessionId ≠ session.sessionId :=
            fun other hother hid => hknown ⟨other, hother, hid⟩
          by_cases haccount : ∃ account ∈ s.accounts, account.subject = session.subject
          · rw [postgres_create_of_new csrfHmac hsend hnew haccount]
            exact Or.inr (Or.inl ⟨session, rfl, hsend, rfl⟩)
          · rw [postgres_create_of_refused csrfHmac hsend
              (insertSession_of_unregistered hnew haccount)]
            exact Or.inl rfl
      · rw [postgres_create_of_unsendable csrfHmac hsend]
        exact Or.inl rfl
  | getActive sessionId subject now =>
      refine Or.inl ?_
      by_cases hsend : Sendable sessionId ∧ Sendable subject
      · rw [perform_getActive csrfHmac (postgres_getActive_of_sendable s now hsend)]
      · rw [perform_getActive_of_error csrfHmac (postgres_getActive_of_unsendable hsend)]
  | verifyCsrf sessionId subject proof now =>
      refine Or.inl ?_
      by_cases hsend : Sendable sessionId ∧ Sendable subject
      · rw [perform_verifyCsrf csrfHmac proof (postgres_getActive_of_sendable s now hsend)]
      · rw [perform_verifyCsrf_of_error csrfHmac (postgres_getActive_of_unsendable hsend)]
  | revoke sessionId reason now =>
      by_cases hreason : reason = ""
      · subst hreason
        exact Or.inl rfl
      · by_cases hsend : Sendable reason ∧ Sendable sessionId
        · rw [postgres_revoke_of_sendable csrfHmac s now hreason hsend]
          exact Or.inr (Or.inr ⟨sessionId, reason, now, rfl, hsend.1, rfl⟩)
        · rw [postgres_revoke_of_unsendable csrfHmac hreason hsend]
          exact Or.inl rfl

/-- The accounts stay as they are. -/
theorem accounts_perform :
    (sendingSessions.perform csrfHmac call s).2.accounts = s.accounts := by
  rcases postgres_perform_cases csrfHmac s call with
    h | ⟨session, -, -, h⟩ | ⟨sessionId, reason, now, -, -, h⟩
  · rw [h]
  · rw [h]
  · rw [h]

/-- Every text in the rows can be sent. -/
def RowsSendable (s : AuthDatabase) : Prop :=
  ∀ session ∈ s.sessions, ∀ text ∈ session.texts, Sendable text

theorem RowsSendable.perform (hrows : RowsSendable s) :
    RowsSendable (sendingSessions.perform csrfHmac call s).2 := by
  rcases postgres_perform_cases csrfHmac s call with
    h | ⟨session, -, hsend, h⟩ | ⟨sessionId, reason, now, -, hreason, h⟩
  · rwa [h]
  · rw [h]
    intro other hother
    rcases List.mem_append.1 hother with hold | hnew
    · exact hrows other hold
    · rw [List.mem_singleton.1 hnew]
      exact hsend
  · rw [h]
    intro other hother text htext
    obtain ⟨y, hy, rfl⟩ := mem_revokeRows_iff.1 hother
    split at htext
    · rcases mem_texts_revokeOnce htext with rfl | hold
      · exact hreason
      · exact hrows y hy text hold
    · exact hrows y hy text htext

/-- A row that is revoked stays as it is. -/
theorem revoked_mem_perform {session : BrowserSession} (hmem : session ∈ s.sessions)
    (hrevoked : session.revokedAt ≠ none) :
    session ∈ (sendingSessions.perform csrfHmac call s).2.sessions := by
  rcases postgres_perform_cases csrfHmac s call with
    h | ⟨created, -, -, h⟩ | ⟨sessionId, reason, now, -, -, h⟩
  · rwa [h]
  · rw [h]
    exact List.mem_append_left _ hmem
  · rw [h]
    refine mem_revokeRows_iff.2 ⟨session, hmem, ?_⟩
    unfold BrowserSession.revokeOnce
    rw [if_neg hrevoked]
    split <;> rfl

variable (csrfHmac start) in
/-- **The first revocation is final in the database**: no call of a run changes the row of a session
that is revoked. -/
theorem postgres_revoked_final (pre post : List SessionCall) {session : BrowserSession}
    (hmem : session ∈ (postgresSessionsAfter csrfHmac start pre).sessions)
    (hrevoked : session.revokedAt ≠ none) :
    session ∈ (postgresSessionsAfter csrfHmac start (pre ++ post)).sessions :=
  BrowserSessionRepository.after_append_invariant
    (P := fun s : AuthDatabase => session ∈ s.sessions)
    (fun _ _ h => revoked_mem_perform h hrevoked) pre post hmem

theorem accounts_postgresSessionsAfter (calls : List SessionCall) :
    (postgresSessionsAfter csrfHmac start calls).accounts = start.accounts :=
  BrowserSessionRepository.after_append_invariant
    (P := fun s : AuthDatabase => s.accounts = start.accounts)
    (fun _ _ h => accounts_perform.trans h) [] calls rfl

theorem rowsSendable_postgresSessionsAfter (calls : List SessionCall) :
    RowsSendable (postgresSessionsAfter csrfHmac start calls) :=
  BrowserSessionRepository.after_append_invariant (P := RowsSendable)
    (fun _ _ h => h.perform) [] calls fun _ h => absurd h List.not_mem_nil

/-! ### One call of both -/

variable {m : Dict String BrowserSession}

/-- The call is answered alike, and leaves the same records. -/
structure Agrees (csrfHmac : String → HexDigest) (m : Dict String BrowserSession)
    (s : AuthDatabase) (call : SessionCall) : Prop where
  answers : ∀ answer, (inMemorySessions.perform csrfHmac call m).1 = .ok answer ↔
    (sendingSessions.perform csrfHmac call s).1 = .ok answer
  records : SameRecords (inMemorySessions.perform csrfHmac call m).2
    (sendingSessions.perform csrfHmac call s).2

/-- An error is no answer. -/
theorem Agrees.of_refused {fault fault' : RegistrationFault} (h : SameRecords m s)
    (hmemory : inMemorySessions.perform csrfHmac call m = (.error fault, m))
    (hpostgres : sendingSessions.perform csrfHmac call s = (.error fault', s)) :
    Agrees csrfHmac m s call := by
  refine ⟨fun answer => ?_, ?_⟩
  · rw [hmemory, hpostgres]
    exact iff_of_false (fun h => by cases h) fun h => by cases h
  · rw [hmemory, hpostgres]
    exact h

/-- What only one of the stores answers is not answered alike. -/
theorem not_agrees_of_unsendable {answer : SessionAnswer}
    (hmemory : (inMemorySessions.perform csrfHmac call m).1 = .ok answer)
    (hpostgres : sendingSessions.perform csrfHmac call s = (.error unsendableText, s)) :
    ¬ Agrees csrfHmac m s call := by
  intro h
  have hanswer := (h.answers answer).1 hmemory
  rw [hpostgres] at hanswer
  cases hanswer

/-- Two calls with one outcome on both sides. -/
theorem Agrees.of_eq {result : Except RegistrationFault SessionAnswer}
    {m' : Dict String BrowserSession} {s' : AuthDatabase}
    (hmemory : inMemorySessions.perform csrfHmac call m = (result, m'))
    (hpostgres : sendingSessions.perform csrfHmac call s = (result, s')) :
    Agrees csrfHmac m s call ↔ SameRecords m' s' := by
  constructor
  · intro h
    have hrecords := h.records
    rwa [hmemory, hpostgres] at hrecords
  · intro h
    refine ⟨fun answer => ?_, ?_⟩
    · rw [hmemory, hpostgres]
    · rw [hmemory, hpostgres]
      exact h

namespace SameRecords

theorem agrees_create_iff (h : SameRecords m s) {session : BrowserSession}
    (haccount : ∃ account ∈ s.accounts, account.subject = session.subject) :
    Agrees csrfHmac m s (.create session) ↔ (SessionCall.create session).Comparable m := by
  cases hget : m.get? session.sessionId with
  | some stored =>
      refine iff_of_true ?_ fun hnone => ?_
      · have hmemory := memory_create_of_known csrfHmac hget
        by_cases hsend : ∀ text ∈ session.texts, Sendable text
        · obtain ⟨hmem, hid⟩ := (h _ stored).1 hget
          exact .of_refused h hmemory
            (postgres_create_of_refused csrfHmac hsend (insertSession_of_known ⟨stored, hmem, hid⟩))
        · exact .of_refused h hmemory (postgres_create_of_unsendable csrfHmac hsend)
      · rw [hget] at hnone
        cases hnone
  | none =>
      have hmemory := memory_create_of_new csrfHmac hget
      have hcomparable : (SessionCall.create session).Comparable m ↔
          ∀ text ∈ session.texts, Sendable text :=
        ⟨fun hall => hall hget, fun hsend _ => hsend⟩
      rw [hcomparable]
      by_cases hsend : ∀ text ∈ session.texts, Sendable text
      · have hpostgres := postgres_create_of_new csrfHmac hsend (h.new_iff.1 hget)
          haccount
        exact iff_of_true ((Agrees.of_eq hmemory hpostgres).2 (h.create hget)) hsend
      · refine iff_of_false ?_ hsend
        exact not_agrees_of_unsendable (congrArg Prod.fst hmemory)
          (postgres_create_of_unsendable csrfHmac hsend)

theorem agrees_getActive_iff (h : SameRecords m s) {sessionId subject : String} {now : ℤ} :
    Agrees csrfHmac m s (.getActive sessionId subject now) ↔
      Sendable sessionId ∧ Sendable subject := by
  have hmemory := perform_getActive csrfHmac
    (memory_getActive m sessionId subject now)
  by_cases hsend : Sendable sessionId ∧ Sendable subject
  · have hpostgres := perform_getActive csrfHmac
      (postgres_getActive_of_sendable s now hsend)
    rw [h.activeSession?_eq] at hpostgres
    exact iff_of_true ((Agrees.of_eq hmemory hpostgres).2 h) hsend
  · refine iff_of_false ?_ hsend
    exact not_agrees_of_unsendable (congrArg Prod.fst hmemory)
      (perform_getActive_of_error csrfHmac (postgres_getActive_of_unsendable hsend))

/-- No session is stored whose identifier or subject cannot be sent. -/
theorem activeSession_of_unsendable (h : SameRecords m s) (hrows : RowsSendable s)
    {sessionId subject : String} {now : ℤ} (hsend : ¬ (Sendable sessionId ∧ Sendable subject)) :
    activeSession m sessionId subject now = none := by
  cases hactive : activeSession m sessionId subject now with
  | none => rfl
  | some session =>
      obtain ⟨hget, rfl, -⟩ := activeSession_eq_some hactive
      obtain ⟨hmem, rfl⟩ := (h _ session).1 hget
      have htexts := hrows session hmem
      refine absurd ⟨htexts _ ?_, htexts _ ?_⟩ hsend
      · simp [BrowserSession.texts]
      · simp [BrowserSession.texts]

theorem agrees_verifyCsrf_iff (h : SameRecords m s) (hrows : RowsSendable s)
    {sessionId subject proof : String} {now : ℤ} :
    Agrees csrfHmac m s (.verifyCsrf sessionId subject proof now) ↔
      Sendable sessionId ∧ Sendable subject := by
  have hmemory := perform_verifyCsrf csrfHmac proof
    (memory_getActive m sessionId subject now)
  by_cases hsend : Sendable sessionId ∧ Sendable subject
  · have hpostgres := perform_verifyCsrf csrfHmac proof
      (postgres_getActive_of_sendable s now hsend)
    rw [h.activeSession?_eq] at hpostgres
    exact iff_of_true ((Agrees.of_eq hmemory hpostgres).2 h) hsend
  · refine iff_of_false ?_ hsend
    rw [h.activeSession_of_unsendable hrows hsend] at hmemory
    exact not_agrees_of_unsendable (congrArg Prod.fst hmemory)
      (perform_verifyCsrf_of_error csrfHmac (postgres_getActive_of_unsendable hsend))

theorem agrees_revoke_iff (h : SameRecords m s) {sessionId reason : String} {now : ℤ} :
    Agrees csrfHmac m s (.revoke sessionId reason now) ↔
      (SessionCall.revoke sessionId reason now).Comparable m := by
  by_cases hreason : reason = ""
  · subst hreason
    exact iff_of_true
      (.of_refused h (memory_revoke_of_empty csrfHmac) (postgres_revoke_of_empty csrfHmac))
      fun hne => absurd rfl hne
  · by_cases hsend : Sendable reason ∧ Sendable sessionId
    · have hpostgres := postgres_revoke_of_sendable csrfHmac s now hreason hsend
      cases hget : m.get? sessionId with
      | none =>
          rw [h.revokeRows_of_new hget] at hpostgres
          have hagrees := (Agrees.of_eq (memory_revoke_of_new csrfHmac hreason hget) hpostgres).2 h
          refine iff_of_true hagrees fun _ => ⟨hsend, fun session hsome => ?_⟩
          rw [hget] at hsome
          cases hsome
      | some session =>
          rw [Agrees.of_eq (memory_revoke_of_known csrfHmac hreason hget) hpostgres,
            h.revoke_iff hget]
          constructor
          · intro honce _
            refine ⟨hsend, fun session' hsome => ?_⟩
            rw [hget] at hsome
            cases hsome
            exact honce
          · exact fun hcomparable => (hcomparable hreason).2 session hget
    · refine iff_of_false ?_ fun hcomparable => hsend (hcomparable hreason).1
      have hmemory : (inMemorySessions.perform csrfHmac (.revoke sessionId reason now) m).1 =
          .ok .done := by
        cases hget : m.get? sessionId with
        | none => rw [memory_revoke_of_new csrfHmac hreason hget]
        | some session => rw [memory_revoke_of_known csrfHmac hreason hget]
      exact not_agrees_of_unsendable hmemory (postgres_revoke_of_unsendable csrfHmac hreason hsend)

/-- **One call of both**: it is answered alike and keeps the records the same exactly if it does not
tell the stores apart. -/
theorem agrees_iff (h : SameRecords m s) (hrows : RowsSendable s)
    (hregistered : call.Registered s.accounts) :
    Agrees csrfHmac m s call ↔ call.Comparable m := by
  cases call with
  | create session => exact h.agrees_create_iff hregistered
  | getActive sessionId subject now => exact h.agrees_getActive_iff
  | verifyCsrf sessionId subject proof now => exact h.agrees_verifyCsrf_iff hrows
  | revoke sessionId reason now => exact h.agrees_revoke_iff

end SameRecords

/-! ### Whole runs -/

theorem sameRecords_empty : SameRecords .empty { start with sessions := [] } := by
  intro i session
  rw [Dict.get?_empty]
  exact iff_of_false (fun h => by cases h) fun h => absurd h.1 List.not_mem_nil

/-- What the stores have in common after calls that do not tell them apart. -/
theorem sameRecords_after {calls : List SessionCall}
    (hregistered : ∀ call ∈ calls, call.Registered start.accounts)
    (h : ∀ pre call, pre ++ [call] <+: calls →
      call.Comparable (memorySessionsAfter csrfHmac pre))
    (pre : List SessionCall) (hpre : pre <+: calls) :
    SameRecords (memorySessionsAfter csrfHmac pre) (postgresSessionsAfter csrfHmac start pre) := by
  induction pre using List.reverseRecOn with
  | nil => exact sameRecords_empty
  | append_singleton pre call ih =>
      have hbefore := ih ((List.prefix_append _ _).trans hpre)
      have hcall : call.Registered (postgresSessionsAfter csrfHmac start pre).accounts := by
        rw [accounts_postgresSessionsAfter]
        exact hregistered call (hpre.subset (by simp))
      have hagrees : Agrees csrfHmac _ _ call :=
        (hbefore.agrees_iff (rowsSendable_postgresSessionsAfter pre) hcall).2 (h pre call hpre)
      unfold memorySessionsAfter postgresSessionsAfter
      rw [BrowserSessionRepository.after_concat, BrowserSessionRepository.after_concat]
      exact hagrees.records

end

/-- **The stores agree along exactly the runs** whose calls do not tell them apart: every text can
be sent, and no session that is revoked is revoked again otherwise. -/
theorem session_stores_agree_iff (csrfHmac : String → HexDigest) (start : AuthDatabase)
    (calls : List SessionCall) (hregistered : ∀ call ∈ calls, call.Registered start.accounts) :
    SessionStoresAgree csrfHmac start calls ↔
      ∀ pre call, pre ++ [call] <+: calls →
        call.Comparable (memorySessionsAfter csrfHmac pre) := by
  have hstep : ∀ pre call, pre ++ [call] <+: calls →
      SameRecords (memorySessionsAfter csrfHmac pre) (postgresSessionsAfter csrfHmac start pre) →
        (Agrees csrfHmac (memorySessionsAfter csrfHmac pre)
            (postgresSessionsAfter csrfHmac start pre) call ↔
          call.Comparable (memorySessionsAfter csrfHmac pre)) := by
    intro pre call hpre hrecords
    refine hrecords.agrees_iff (rowsSendable_postgresSessionsAfter pre) ?_
    rw [accounts_postgresSessionsAfter]
    exact hregistered call (hpre.subset (by simp))
  constructor
  · intro h pre call hpre
    have hbefore := h.records pre ((List.prefix_append _ _).trans hpre)
    refine (hstep pre call hpre hbefore).1 ⟨h.answers pre call hpre, ?_⟩
    have hafter := h.records (pre ++ [call]) hpre
    unfold memorySessionsAfter postgresSessionsAfter at hafter
    rwa [BrowserSessionRepository.after_concat, BrowserSessionRepository.after_concat] at hafter
  · intro h
    have hrecords := sameRecords_after hregistered h
    constructor
    · intro pre call hpre
      have hbefore := hrecords pre ((List.prefix_append _ _).trans hpre)
      exact ((hstep pre call hpre hbefore).2 (h pre call hpre)).answers
    · exact hrecords
    · -- in memory the first revocation stays because it does in the database
      intro pre post hpost sessionId session hget hrevoked
      have hbefore := hrecords pre ((List.prefix_append _ _).trans hpost)
      obtain ⟨hmem, hid⟩ := (hbefore sessionId session).1 hget
      exact (hrecords (pre ++ post) hpost sessionId session).2
        ⟨postgres_revoked_final csrfHmac start pre post hmem hrevoked, hid⟩
    · intro pre post _ session hmem hrevoked
      exact postgres_revoked_final csrfHmac start pre post hmem hrevoked

/-- The tables with the account of Ann. -/
def annAccounts : AuthDatabase :=
  ⟨[], [⟨annSession.subject, annTime.toNat, annSession.subject_length⟩], [], []⟩

/-- The digests of the proofs of Ann. -/
def annHmac : String → HexDigest := annGateway.csrfHmac

/-- Ann has a session, which she ends a second later. -/
def annLogsOut : List SessionCall :=
  [.create annSession, .verifyCsrf "bsess_01" "usr_ann" "proof" annTime,
    .revoke "bsess_01" "logout" (annTime + second)]

/-- Another second later the session is revoked again. -/
def annRevokedAgain : List SessionCall :=
  annLogsOut ++ [.revoke "bsess_01" "security" (annTime + 2 * second)]

theorem get?_annLogsOut : (memorySessionsAfter annHmac (annLogsOut.take 2)).get? "bsess_01" =
    some annSession := by
  decide

theorem registered_annRevokedAgain :
    ∀ call ∈ annRevokedAgain, call.Registered annAccounts.accounts := by
  simp only [annRevokedAgain, annLogsOut, List.cons_append, List.nil_append, List.mem_cons,
    List.not_mem_nil, or_false]
  rintro call (rfl | rfl | rfl | rfl)
  · exact ⟨_, List.mem_singleton_self _, rfl⟩
  · trivial
  · trivial
  · trivial

theorem ann_logs_out_alike : SessionStoresAgree annHmac annAccounts annLogsOut := by
  refine (session_stores_agree_iff annHmac annAccounts annLogsOut ?_).2 ?_
  · intro call hcall
    exact registered_annRevokedAgain call (List.mem_append_left _ hcall)
  · intro pre call hpre
    rcases pre with _ | ⟨first, _ | ⟨second, _ | ⟨third, pre⟩⟩⟩
    · obtain rfl : call = .create annSession := by simpa [annLogsOut] using hpre
      intro _
      decide
    · obtain ⟨rfl, rfl⟩ : first = .create annSession ∧
        call = .verifyCsrf "bsess_01" "usr_ann" "proof" annTime := by simpa [annLogsOut] using hpre
      exact ⟨by decide, by decide⟩
    · obtain ⟨rfl, rfl, rfl⟩ : first = .create annSession ∧
        second = .verifyCsrf "bsess_01" "usr_ann" "proof" annTime ∧
        call = .revoke "bsess_01" "logout" (annTime + PlatformOps.second) := by
          simpa [annLogsOut] using hpre
      refine fun _ => ⟨⟨by decide, by decide⟩, fun session hget hrevoked => ?_⟩
      have hstored := get?_annLogsOut.symm.trans hget
      cases hstored
      exact absurd rfl hrevoked
    · simp [annLogsOut] at hpre

/-- **A session is revoked again**: in memory the first revocation is lost. -/
theorem revoked_again_in_memory :
    (∀ call ∈ annRevokedAgain, call.Registered annAccounts.accounts) ∧
      ¬ SessionStoresAgree annHmac annAccounts annRevokedAgain := by
  refine ⟨registered_annRevokedAgain, fun h => ?_⟩
  have hfinal := h.memory_final annLogsOut _ (List.prefix_refl _) "bsess_01"
    (annSession.revoke "logout" (annTime + second)) (by decide) (by decide)
  exact absurd hfinal (by decide)

end PlatformOps
