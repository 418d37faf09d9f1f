/-
**Confirmation over the database.**

A link is confirmed in four stages: its attempt is consumed, the account of its address is recovered
or created, the session is constructed, and the browser session is stored.  Each stage that writes
is a transaction of its own, so what an earlier one has committed stays when a later one raises.
The repository also has the first two stages as one transaction, which the service does not use.

Main definitions:

* `AuthDatabase` — the tables;
* `FailurePoints` — what the stages raise from outside;
* `postgresAttempts`, `postgresUsers`, `postgresSessions` — the repositories over the tables;
* `issueConfirmedSession`, `LoginConfirmationHandler.confirm` — the two ways to confirm a link;
* `AllOrNothing` — a session for an account and a spent link, or attempts as they were;
* `SessionCompletes`, `BrowserSessionCompletes` — the later stages go through.

Main results:

* `createOrRecover_of_available`, `createOrRecover_of_not_available` — when an account can be had;
* `consumeAttemptCreateOrRecoverUser_all_or_nothing` — the one transaction is all or nothing;
* `confirmation_all_or_nothing_iff` — **a confirmation is all or nothing exactly if no stage after
  the one that consumes the attempt raises**.
-/

import PlatformOps.AttemptTransactions
import PlatformOps.BrowserSessions

set_option relaxedAutoImplicit false
set_option autoImplicit false

namespace PlatformOps

/-! ### The tables -/

/-- The tables of accounts, contacts, attempts and browser sessions. -/
structure AuthDatabase where
  attempts : List VerificationAttempt
  accounts : List UserAccount
  contacts : List VerifiedEmailContact
  sessions : List BrowserSession

/-- An action on the tables. -/
abbrev AuthAction := Action AuthDatabase RegistrationFault

/-- A unique key is taken. -/
def uniqueViolation (constraint : String) : RegistrationFault :=
  .external "UniqueViolation" constraint

/-- A reference has no row to refer to. -/
def foreignKeyViolation (constraint : String) : RegistrationFault :=
  .external "ForeignKeyViolation" constraint

/-- What the stages raise from outside, if anything: a lost connection, or no memory. -/
structure FailurePoints where
  accounts : Option RegistrationFault
  construction : Option RegistrationFault
  browserSessions : Option RegistrationFault

/-- The action, unless it raises from outside. -/
def failAt {α : Type} (fault : Option RegistrationFault) (x : AuthAction α) : AuthAction α :=
  match fault with
  | some fault => .raise fault
  | none => x

/-- The attempts once those that are meant are consumed. -/
def consumeAll (meant : VerificationAttempt → Bool) (now : ℕ)
    (attempts : List VerificationAttempt) : List VerificationAttempt :=
  attempts.map fun attempt => if meant attempt then attempt.consume now else attempt

namespace AuthDatabase

/-- The account of the first contact of the address that has one. -/
def accountOf (s : AuthDatabase) (canonicalEmail : String) : Option UserAccount :=
  s.contacts.findSome? fun contact =>
    if contact.canonicalEmail = canonicalEmail then
      s.accounts.find? fun account => account.subject = contact.userSubject
    else none

/-- The first active attempt with this digest. -/
def findActive (s : AuthDatabase) (digest : HexDigest) (now : ℕ) : Option VerificationAttempt :=
  s.attempts.find? fun attempt => attempt.Active digest now

/-- The tables once every active attempt with this digest is consumed. -/
def consumed (s : AuthDatabase) (digest : HexDigest) (now : ℕ) : AuthDatabase :=
  { s with
    attempts := consumeAll (fun attempt => decide (attempt.Active digest now)) now s.attempts }

end AuthDatabase

/-- Insert an attempt. -/
def insertAttempt (attempt : VerificationAttempt) : AuthAction Unit := fun s =>
  if ∀ other ∈ s.attempts, other.attemptId ≠ attempt.attemptId then
    (.ok (), { s with attempts := s.attempts ++ [attempt] })
  else (.error (uniqueViolation "auth_verification_attempts_pkey"), s)

/-- Insert an account. -/
def insertAccount (account : UserAccount) : AuthAction Unit := fun s =>
  if ∀ other ∈ s.accounts, other.subject ≠ account.subject then
    (.ok (), { s with accounts := s.accounts ++ [account] })
  else (.error (uniqueViolation "auth_user_accounts_pkey"), s)

/-- Insert a contact. -/
def insertContact (contact : VerifiedEmailContact) : AuthAction Unit := fun s =>
  if ∀ other ∈ s.contacts, other.contactId ≠ contact.contactId then
    if ∀ other ∈ s.contacts, other.canonicalEmail ≠ contact.canonicalEmail then
      if ∃ account ∈ s.accounts, account.subject = contact.userSubject then
        (.ok (), { s with contacts := s.contacts ++ [contact] })
      else (.error (foreignKeyViolation "auth_verified_email_contacts_user_subject_fkey"), s)
    else (.error (uniqueViolation "auth_verified_email_contacts_canonical_email_key"), s)
  else (.error (uniqueViolation "auth_verified_email_contacts_pkey"), s)

/-- Insert a browser session. -/
def insertSession (session : BrowserSession) : AuthAction Unit := fun s =>
  if ∀ other ∈ s.sessions, other.sessionId ≠ session.sessionId then
    if ∃ account ∈ s.accounts, account.subject = session.subject then
      (.ok (), { s with sessions := s.sessions ++ [session] })
    else (.error (foreignKeyViolation "auth_browser_sessions_user_subject_fkey"), s)
  else (.error (uniqueViolation "auth_browser_sessions_pkey"), s)

/-! ### The repositories -/

/-- `save_new_attempt`. -/
def saveAttempt (attempt : VerificationAttempt) (now : ℕ) : AuthAction Unit :=
  .transaction do
    .modify fun s =>
      { s with
        attempts := s.attempts.map fun other =>
          if usableOf attempt.canonicalEmail other then setInvalidated now other else other }
    insertAttempt attempt

/-- `consume_email_by_digest`. -/
def consumeEmail (digest : HexDigest) (now : ℕ) : AuthAction (Option String) :=
  .transaction fun s =>
    (.ok ((s.findActive digest now).map VerificationAttempt.canonicalEmail), s.consumed digest now)

/-- The attempts in the database. -/
def postgresAttempts : VerificationAttemptRepository AuthDatabase where
  saveNewAttempt := saveAttempt
  findActiveByDigest digest now := .read fun s => s.findActive digest now
  consumeEmailByDigest := consumeEmail

/-- Recover the account of an address, or create one with a contact. -/
def recoverOrCreate (email localPart domain : String) (verifiedAt : ℕ) (generated : GeneratedUser) :
    AuthAction UserAccount := do
  let found ← .read fun s => s.accountOf (localPart ++ "@" ++ domain)
  match found with
  | some account => pure account
  | none => do
      insertAccount generated.account
      insertContact ⟨generated.contactId, generated.subject, email, localPart ++ "@" ++ domain,
        domain, verifiedAt⟩
      pure generated.account

variable (codec : IdnaCodec)

/-- `create_or_recover_verified_user`. -/
def createOrRecoverUser (fault : Option RegistrationFault) (email : String) (verifiedAt : ℕ)
    (generated : GeneratedUser) : AuthAction UserAccount := do
  let (localPart, domain) ← .ofExcept ((canonicalizeEmail codec email).mapError .valueError)
  .transaction (failAt fault (recoverOrCreate email localPart domain verifiedAt generated))

/-- The accounts in the database. -/
def postgresUsers (fault : Option RegistrationFault) : VerifiedUserStore AuthDatabase where
  createOrRecoverVerifiedUser := createOrRecoverUser codec fault

/-- The attempt has this id, and is active. -/
def activeWithId (attemptId : String) (digest : HexDigest) (now : ℕ)
    (attempt : VerificationAttempt) : Bool :=
  attempt.attemptId = attemptId ∧ attempt.Active digest now

/-- Consume an attempt, and recover or create the account of its address. -/
def consumeThenRecover (fault : Option RegistrationFault) (attemptId : String)
    (digest : HexDigest) (now : ℕ) (generated : GeneratedUser) :
    AuthAction (Option UserAccount) := do
  let found ← .read fun s => s.attempts.find? (activeWithId attemptId digest now)
  .modify fun s =>
    { s with attempts := consumeAll (activeWithId attemptId digest now) now s.attempts }
  match found with
  | none => pure none
  | some attempt => do
      let account ← createOrRecoverUser codec fault attempt.canonicalEmail now generated
      pure (some account)

/-- `consume_attempt_create_or_recover_user`: both stages in one transaction. -/
def consumeAttemptCreateOrRecoverUser (fault : Option RegistrationFault) (attemptId : String)
    (digest : HexDigest) (now : ℕ) (generated : GeneratedUser) : AuthAction (Option UserAccount) :=
  .transaction (consumeThenRecover codec fault attemptId digest now generated)

/-- The browser sessions in the database. -/
def postgresSessions (fault : Option RegistrationFault) :
    BrowserSessionRepository AuthDatabase where
  create session := .transaction (failAt fault (insertSession session))
  getActive sessionId subject now := .read fun s =>
    s.sessions.find? fun session =>
      session.sessionId = sessionId ∧ session.subject = subject ∧ session.IsActive now
  revoke sessionId reason now :=
    if reason = "" then .raise (.valueError "revocation reason cannot be empty")
    else .transaction (.modify fun s =>
      { s with
        sessions := s.sessions.map fun session =>
          if session.sessionId = sessionId ∧ session.revokedAt = none then
            session.revoke reason now
          else session })

/-- A service over the database. -/
def postgresService (tokenHmac : String → HexDigest) (tokenTtlSeconds : ℕ)
    (ttlPositive : 0 < tokenTtlSeconds) (users : Bool) (fault : Option RegistrationFault) :
    RegistrationService AuthDatabase where
  codec := codec
  attempts := postgresAttempts
  users := if users then some (postgresUsers codec fault) else none
  tokenHmac := tokenHmac
  tokenTtlSeconds := tokenTtlSeconds
  rateLimiter := none
  diagnostics := none
  ttlPositive := ttlPositive

/-! ### Confirming a link -/

/-- `confirm_and_issue_session`, where the construction of the session raises if it has to. -/
def issueConfirmedSession (service : RegistrationService AuthDatabase)
    (construction : Option RegistrationFault) (token : String) (now : ℕ)
    (generated : GeneratedUser) : AuthAction (Option ActorSession) := do
  let session ← confirmAndIssueSession service token now generated
  match session with
  | none => pure none
  | some session => failAt construction (pure (some session))

/-- The body of a confirmation. -/
@[ext] structure BrowserLoginConfirmationResponse where
  subject : String
  csrfProof : String
  subject_length : 5 ≤ subject.length
  csrfProof_length : 1 ≤ csrfProof.length

instance : DecidableEq BrowserLoginConfirmationResponse := fun _ _ =>
  decidable_of_iff _ BrowserLoginConfirmationResponse.ext_iff.symm

/-- A confirmation: its body, and the cookie of the session. -/
structure BrowserLoginConfirmation where
  body : BrowserLoginConfirmationResponse
  setCookie : BrowserSessionSetCookie
  deriving DecidableEq

/-- Validate the body of a confirmation. -/
def browserLoginConfirmationResponse (subject csrfProof : String) :
    Except RegistrationFault BrowserLoginConfirmationResponse :=
  if hsubject : 5 ≤ subject.length then
    if hproof : 1 ≤ csrfProof.length then .ok ⟨subject, csrfProof, hsubject, hproof⟩
    else .error (.validationError ⟨"BrowserLoginConfirmationResponse", "csrf_proof"⟩)
  else .error (.validationError ⟨"BrowserLoginConfirmationResponse", "subject"⟩)

/-- The handler: the service, and the issuer of browser sessions with its keys. -/
structure LoginConfirmationHandler where
  service : RegistrationService AuthDatabase
  gateway : BrowserGateway AuthDatabase
  keys : SigningKeys

/-- `LoginConfirmationHandler.confirm`.  The clock is read once for the link and once for the
browser session. -/
def LoginConfirmationHandler.confirm (handler : LoginConfirmationHandler)
    (construction : Option RegistrationFault) (token : String) (now later : ℕ)
    (user : GeneratedUser) (browser : GeneratedSession) :
    AuthAction (Option BrowserLoginConfirmation) := do
  let session ← issueConfirmedSession handler.service construction token now user
  match session with
  | none => pure none
  | some session => do
      let issued ← issue handler.gateway handler.keys session.actor.userId later browser
      let body ← .ofExcept (browserLoginConfirmationResponse session.actor.userId issued.csrfProof)
      pure (some ⟨body, issued.setCookie⟩)

/-- What a gateway over the database is made of, and where it fails.  The repository of the browser
sessions is the one of the database. -/
structure AuthDeployment where
  codec : IdnaCodec
  tokenHmac : String → HexDigest
  tokenTtlSeconds : ℕ
  ttlPositive : 0 < tokenTtlSeconds
  users : Bool
  gateway : BrowserGateway AuthDatabase
  keys : SigningKeys
  faults : FailurePoints

/-- The service over the database. -/
def AuthDeployment.service (auth : AuthDeployment) : RegistrationService AuthDatabase :=
  postgresService auth.codec auth.tokenHmac auth.tokenTtlSeconds auth.ttlPositive auth.users
    auth.faults.accounts

/-- The handler over the database. -/
def AuthDeployment.handler (auth : AuthDeployment) : LoginConfirmationHandler where
  service := auth.service
  gateway := { auth.gateway with repository := postgresSessions auth.faults.browserSessions }
  keys := auth.keys

/-- A session for an account and a spent link, or attempts as they were. -/
def AllOrNothing {α : Type} (s : AuthDatabase) (digest : HexDigest) (now : ℕ)
    (issued : AuthDatabase → α → Prop)
    (outcome : Except RegistrationFault (Option α) × AuthDatabase) : Prop :=
  (∃ a, outcome.1 = .ok (some a) ∧ issued outcome.2 a ∧ s.findActive digest now ≠ none ∧
      outcome.2.findActive digest now = none) ∨
    outcome.2.attempts = s.attempts

/-- The session is one for an account. -/
def IssuedSession (t : AuthDatabase) (session : ActorSession) : Prop :=
  ∃ account ∈ t.accounts, account.subject = session.actor.userId

/-- The confirmation is that of a browser session for an account. -/
def IssuedBrowserSession (auth : AuthDeployment) (t : AuthDatabase)
    (confirmation : BrowserLoginConfirmation) : Prop :=
  (∃ account ∈ t.accounts, account.subject = confirmation.body.subject) ∧
    ∃ session ∈ t.sessions, session.subject = confirmation.body.subject ∧
      session.revokedAt = none ∧
      session.csrfProofDigest = auth.gateway.csrfHmac confirmation.body.csrfProof ∧
      confirmation.setCookie.token = auth.gateway.library.encode auth.keys.current
        (sessionClaims auth.gateway.audience session)

/-- An account can be recovered or created for the address. -/
def AccountAvailable (s : AuthDatabase) (email : String) (generated : GeneratedUser) : Prop :=
  ∃ localPart domain, canonicalizeEmail codec email = .ok (localPart, domain) ∧
    (s.accountOf (localPart ++ "@" ++ domain) ≠ none ∨
      (∀ contact ∈ s.contacts, contact.canonicalEmail ≠ localPart ++ "@" ++ domain ∧
        contact.contactId ≠ generated.contactId) ∧
      ∀ account ∈ s.accounts, account.subject ≠ generated.subject)

/-- The stages up to the construction of the session go through. -/
structure SessionCompletes (auth : AuthDeployment) (s : AuthDatabase) (email : String)
    (user : GeneratedUser) : Prop where
  accounts : auth.faults.accounts = none
  construction : auth.faults.construction = none
  available : AccountAvailable auth.codec s email user

/-- The stages up to the storing of the browser session go through. -/
structure BrowserSessionCompletes (auth : AuthDeployment) (s : AuthDatabase) (email : String)
    (user : GeneratedUser) (browser : GeneratedSession) : Prop where
  session : SessionCompletes auth s email user
  browserSessions : auth.faults.browserSessions = none
  csrfProof : browser.csrfProof ≠ ""
  sessionId : ∀ session ∈ s.sessions, session.sessionId ≠ browser.sessionId

variable {codec}

/-! ### What the stages do -/

/-- None that is meant is left, if only usable attempts are. -/
theorem find?_consumeAll {meant : VerificationAttempt → Bool}
    (h : ∀ attempt, meant attempt = true → attempt.Usable) (now : ℕ)
    (attempts : List VerificationAttempt) : (consumeAll meant now attempts).find? meant = none := by
  unfold consumeAll
  rw [List.find?_eq_none]
  intro attempt hmem hmeant
  obtain ⟨old, -, rfl⟩ := List.mem_map.1 hmem
  by_cases hold : meant old = true
  · rw [if_pos hold] at hmeant
    exact old.not_usable_consume now (h _ hmeant)
  · rw [if_neg hold] at hmeant
    exact hold hmeant

/-- Where none is meant, none is consumed. -/
theorem consumeAll_of_find?_eq_none {meant : VerificationAttempt → Bool} (now : ℕ)
    {attempts : List VerificationAttempt} (h : attempts.find? meant = none) :
    consumeAll meant now attempts = attempts := by
  refine (List.map_congr_left fun attempt hmem => ?_).trans (List.map_id _)
  exact if_neg (List.find?_eq_none.1 h attempt hmem)

theorem findActive_consumed (s : AuthDatabase) (digest : HexDigest) (now : ℕ) :
    (s.consumed digest now).findActive digest now = none :=
  find?_consumeAll (fun _ hactive => (of_decide_eq_true hactive).2.1) now s.attempts

theorem consumed_of_findActive_eq_none {s : AuthDatabase} {digest : HexDigest} {now : ℕ}
    (h : s.findActive digest now = none) : s.consumed digest now = s := by
  unfold AuthDatabase.consumed
  rw [consumeAll_of_find?_eq_none now h]

theorem attempts_consumed_ne {s : AuthDatabase} {digest : HexDigest} {now : ℕ}
    (h : s.findActive digest now ≠ none) : (s.consumed digest now).attempts ≠ s.attempts := by
  intro hsame
  have hnone := findActive_consumed s digest now
  unfold AuthDatabase.findActive at h hnone
  rw [hsame] at hnone
  exact h hnone

theorem accountOf_eq_some {s : AuthDatabase} {email : String} {account : UserAccount}
    (h : s.accountOf email = some account) : account ∈ s.accounts := by
  obtain ⟨contact, -, hfound⟩ := List.exists_of_findSome?_eq_some h
  split at hfound
  · exact List.mem_of_find?_eq_some hfound
  · cases hfound

/-- The tables differ in accounts and contacts at most. -/
structure SameLinks (s t : AuthDatabase) : Prop where
  attempts : t.attempts = s.attempts
  sessions : t.sessions = s.sessions

/-- A contact can be inserted together with the account it refers to. -/
theorem insertContact_of_fresh {s : AuthDatabase} {contact : VerifiedEmailContact}
    (hcontacts : ∀ other ∈ s.contacts, other.canonicalEmail ≠ contact.canonicalEmail ∧
      other.contactId ≠ contact.contactId)
    (haccount : ∃ account ∈ s.accounts, account.subject = contact.userSubject) :
    insertContact contact s = (.ok (), { s with contacts := s.contacts ++ [contact] }) := by
  unfold insertContact
  rw [if_pos fun other hmem => (hcontacts other hmem).2,
    if_pos fun other hmem => (hcontacts other hmem).1, if_pos haccount]

theorem insertContact_of_taken {s : AuthDatabase} {contact : VerifiedEmailContact}
    (h : ¬ ∀ other ∈ s.contacts, other.canonicalEmail ≠ contact.canonicalEmail ∧
      other.contactId ≠ contact.contactId) :
    ∃ fault, insertContact contact s = (.error fault, s) := by
  unfold insertContact
  by_cases hids : ∀ other ∈ s.contacts, other.contactId ≠ contact.contactId
  · rw [if_pos hids]
    have hemails : ¬ ∀ other ∈ s.contacts, other.canonicalEmail ≠ contact.canonicalEmail :=
      fun hemails => h fun other hmem => ⟨hemails other hmem, hids other hmem⟩
    exact ⟨_, if_neg hemails⟩
  · exact ⟨_, if_neg hids⟩

/-- The account of an address is recovered, or created with a contact, or neither is possible. -/
theorem recoverOrCreate_cases (s : AuthDatabase) (email localPart domain : String)
    (verifiedAt : ℕ) (generated : GeneratedUser) :
    (∃ account, s.accountOf (localPart ++ "@" ++ domain) = some account ∧
        recoverOrCreate email localPart domain verifiedAt generated s = (.ok account, s)) ∨
      s.accountOf (localPart ++ "@" ++ domain) = none ∧
        ((∀ contact ∈ s.contacts, contact.canonicalEmail ≠ localPart ++ "@" ++ domain ∧
            contact.contactId ≠ generated.contactId) ∧
          (∀ account ∈ s.accounts, account.subject ≠ generated.subject) ∧
          recoverOrCreate email localPart domain verifiedAt generated s =
            (.ok generated.account,
              { s with
                accounts := s.accounts ++ [generated.account]
                contacts := s.contacts ++ [⟨generated.contactId, generated.subject, email,
                  localPart ++ "@" ++ domain, domain, verifiedAt⟩] }) ∨
        ¬ ((∀ contact ∈ s.contacts, contact.canonicalEmail ≠ localPart ++ "@" ++ domain ∧
            contact.contactId ≠ generated.contactId) ∧
          ∀ account ∈ s.accounts, account.subject ≠ generated.subject) ∧
          ∃ fault t, recoverOrCreate email localPart domain verifiedAt generated s =
            (.error fault, t)) := by
  unfold recoverOrCreate
  rw [Action.read_bind_apply]
  cases hof : s.accountOf (localPart ++ "@" ++ domain) with
  | some account => exact Or.inl ⟨account, rfl, rfl⟩
  | none =>
      refine Or.inr ⟨rfl, ?_⟩
      dsimp only
      by_cases hsubjects : ∀ account ∈ s.accounts, account.subject ≠ generated.subject
      · have haccount : insertAccount generated.account s =
            (.ok (), { s with accounts := s.accounts ++ [generated.account] }) := if_pos hsubjects
        rw [Action.bind_of_ok haccount]
        by_cases hcontacts : ∀ contact ∈ s.contacts,
            contact.canonicalEmail ≠ localPart ++ "@" ++ domain ∧
              contact.contactId ≠ generated.contactId
        · refine Or.inl ⟨hcontacts, hsubjects, ?_⟩
          rw [Action.bind_of_ok (insertContact_of_fresh hcontacts
            ⟨generated.account, by simp, rfl⟩)]
          rfl
        · refine Or.inr ⟨fun h => hcontacts h.1, ?_⟩
          have htaken : ∃ fault, insertContact ⟨generated.contactId, generated.subject, email,
              localPart ++ "@" ++ domain, domain, verifiedAt⟩
                { s with accounts := s.accounts ++ [generated.account] } = (.error fault, _) :=
            insertContact_of_taken hcontacts
          obtain ⟨fault, hfault⟩ := htaken
          exact ⟨fault, _, Action.bind_of_error hfault _⟩
      · refine Or.inr ⟨fun h => hsubjects h.2, ?_⟩
        have haccount : insertAccount generated.account s =
            (.error (uniqueViolation "auth_user_accounts_pkey"), s) := if_neg hsubjects
        exact ⟨_, _, Action.bind_of_error haccount _⟩

/-- **An account is had exactly where it can be**, and otherwise nothing changes. -/
theorem createOrRecoverUser_spec (codec : IdnaCodec) (fault : Option RegistrationFault)
    (email : String) (verifiedAt : ℕ) (generated : GeneratedUser) (s : AuthDatabase) :
    (fault = none ∧ AccountAvailable codec s email generated ∧
        ∃ account t, createOrRecoverUser codec fault email verifiedAt generated s =
          (.ok account, t) ∧ account ∈ t.accounts ∧ SameLinks s t) ∨
      ¬ (fault = none ∧ AccountAvailable codec s email generated) ∧
        ∃ raised, createOrRecoverUser codec fault email verifiedAt generated s =
          (.error raised, s) := by
  unfold createOrRecoverUser
  cases hcanonical : canonicalizeEmail codec email with
  | error detail =>
      refine Or.inr ⟨?_, _, rfl⟩
      rintro ⟨-, localPart, domain, hparts, -⟩
      rw [hcanonical] at hparts
      cases hparts
  | ok parts =>
      obtain ⟨localPart, domain⟩ := parts
      have hparts : ∀ {l d}, canonicalizeEmail codec email = .ok (l, d) →
          l = localPart ∧ d = domain := by
        intro l d h
        rw [hcanonical] at h
        cases h
        exact ⟨rfl, rfl⟩
      show _ ∨ _ ∧ ∃ raised, Action.transaction _ s = _
      cases fault with
      | some fault =>
          refine Or.inr ⟨?_, fault, rfl⟩
          rintro ⟨hnone, -⟩
          cases hnone
      | none =>
          rcases recoverOrCreate_cases s email localPart domain verifiedAt generated with
            ⟨account, hof, hrun⟩ | ⟨hof, ⟨hcontacts, hsubjects, hrun⟩ | ⟨hnot, raised, t, hrun⟩⟩
          · refine Or.inl ⟨rfl, ⟨localPart, domain, hcanonical, Or.inl (by simp [hof])⟩, account, s,
              Action.transaction_of_ok hrun, accountOf_eq_some hof, rfl, rfl⟩
          · exact Or.inl ⟨rfl, ⟨localPart, domain, hcanonical, Or.inr ⟨hcontacts, hsubjects⟩⟩, _, _,
              Action.transaction_of_ok hrun, by simp, rfl, rfl⟩
          · refine Or.inr ⟨?_, raised, Action.transaction_of_error hrun⟩
            rintro ⟨-, l, d, hld, havailable⟩
            obtain ⟨rfl, rfl⟩ := hparts hld
            rcases havailable with hsome | hfresh
            · exact hsome hof
            · exact hnot hfresh

/-- **The one transaction is all or nothing.**  It returns a stored account and leaves no such
attempt active, or it changes nothing. -/
theorem consumeAttemptCreateOrRecoverUser_all_or_nothing (codec : IdnaCodec)
    (fault : Option RegistrationFault) (attemptId : String) (digest : HexDigest) (now : ℕ)
    (generated : GeneratedUser) (s : AuthDatabase) :
    (∃ account t, consumeAttemptCreateOrRecoverUser codec fault attemptId digest now generated s =
        (.ok (some account), t) ∧ account ∈ t.accounts ∧
        t.attempts.find? (activeWithId attemptId digest now) = none) ∨
      (consumeAttemptCreateOrRecoverUser codec fault attemptId digest now generated s).2 = s := by
  unfold consumeAttemptCreateOrRecoverUser
  cases hfind : s.attempts.find? (activeWithId attemptId digest now) with
  | none =>
      have hrun : consumeThenRecover codec fault attemptId digest now generated s =
          (.ok none, s) := by
        unfold consumeThenRecover
        rw [Action.read_bind_apply, Action.modify_bind_apply, hfind,
          consumeAll_of_find?_eq_none now hfind]
        rfl
      rw [Action.transaction_of_ok hrun]
      exact Or.inr rfl
  | some attempt =>
      have hleft : (consumeAll (activeWithId attemptId digest now) now s.attempts).find?
          (activeWithId attemptId digest now) = none :=
        find?_consumeAll (fun _ hactive => (of_decide_eq_true hactive).2.2.1) now s.attempts
      have hstart : consumeThenRecover codec fault attemptId digest now generated s =
          (createOrRecoverUser codec fault attempt.canonicalEmail now generated >>= fun account =>
            pure (some account)) { s with
              attempts := consumeAll (activeWithId attemptId digest now) now s.attempts } := by
        unfold consumeThenRecover
        rw [Action.read_bind_apply, Action.modify_bind_apply, hfind]
      rcases createOrRecoverUser_spec codec fault attempt.canonicalEmail now generated
          { s with attempts := consumeAll (activeWithId attemptId digest now) now s.attempts } with
        ⟨-, -, account, t, hrun, hstored, hsame⟩ | ⟨-, raised, hrun⟩
      · rw [Action.bind_of_ok hrun] at hstart
        refine Or.inl ⟨account, t, Action.transaction_of_ok hstart, hstored, ?_⟩
        rw [hsame.attempts]
        exact hleft
      · rw [Action.bind_of_error hrun] at hstart
        rw [Action.transaction_of_error hstart]
        exact Or.inr rfl

/-! ### The two ways to confirm -/

/-- **A browser session is issued** for a stored account exactly if it can be stored. -/
theorem issue_over_postgres (gateway : BrowserGateway AuthDatabase) (keys : SigningKeys)
    (fault : Option RegistrationFault) {subject : String} (hsubject : 5 ≤ subject.length)
    {t : AuthDatabase} (haccount : ∃ account ∈ t.accounts, account.subject = subject) (later : ℕ)
    (browser : GeneratedSession) :
    ((fault = none ∧ browser.csrfProof ≠ "" ∧
          ∀ session ∈ t.sessions, session.sessionId ≠ browser.sessionId) ∧
        ∃ issued session, issue { gateway with repository := postgresSessions fault } keys subject
            later browser t = (.ok issued, { t with sessions := t.sessions ++ [session] }) ∧
          session.subject = subject ∧ session.revokedAt = none ∧
          session.csrfProofDigest = gateway.csrfHmac issued.csrfProof ∧
          issued.setCookie.token =
            gateway.library.encode keys.current (sessionClaims gateway.audience session) ∧
          issued.csrfProof = browser.csrfProof) ∨
      ¬ (fault = none ∧ browser.csrfProof ≠ "" ∧
          ∀ session ∈ t.sessions, session.sessionId ≠ browser.sessionId) ∧
        ∃ raised, issue { gateway with repository := postgresSessions fault } keys subject later
          browser t = (.error raised, t) := by
  unfold issue
  by_cases hproof : browser.csrfProof = ""
  · rw [signSession_of_no_proof keys subject later hproof]
    exact Or.inr ⟨fun h => h.2.1 hproof, _, rfl⟩
  · obtain ⟨session, cookie, hsign⟩ := exists_signSession
      { gateway with repository := postgresSessions fault } keys later hproof hsubject
    obtain ⟨hid, hsame, hdigest, hrevoked, hcookie⟩ := signSession_spec hsign
    rw [hsign, Action.ofExcept_ok_bind_apply]
    dsimp only
    cases fault with
    | some fault =>
        refine Or.inr ⟨?_, fault, rfl⟩
        rintro ⟨hnone, -⟩
        cases hnone
    | none =>
        by_cases hfresh : ∀ other ∈ t.sessions, other.sessionId ≠ browser.sessionId
        · have hinsert : insertSession session t =
              (.ok (), { t with sessions := t.sessions ++ [session] }) := by
            unfold insertSession
            rw [hid, hsame, if_pos hfresh, if_pos haccount]
          have hcreate : (postgresSessions none).create session t =
              (.ok (), { t with sessions := t.sessions ++ [session] }) :=
            Action.transaction_of_ok hinsert
          rw [Action.bind_of_ok hcreate]
          exact Or.inl ⟨⟨rfl, hproof, hfresh⟩, _, session, rfl, hsame, hrevoked, hdigest, hcookie,
            rfl⟩
        · have hinsert : insertSession session t =
              (.error (uniqueViolation "auth_browser_sessions_pkey"), t) := by
            unfold insertSession
            rw [hid, if_neg hfresh]
          have hcreate : (postgresSessions none).create session t =
              (.error (uniqueViolation "auth_browser_sessions_pkey"), t) :=
            Action.transaction_of_error hinsert
          rw [Action.bind_of_error hcreate]
          exact Or.inr ⟨fun h => hfresh h.2.2, _, rfl⟩

/-- The body of a confirmation of an account is valid. -/
theorem browserLoginConfirmationResponse_eq_ok {subject : String} (hsubject : 5 ≤ subject.length)
    (csrfProof : String) (hproof : csrfProof ≠ "") :
    ∃ body, browserLoginConfirmationResponse subject csrfProof = .ok body ∧
      body.subject = subject ∧ body.csrfProof = csrfProof := by
  have hlength : 1 ≤ csrfProof.length := by
    rcases Nat.eq_zero_or_pos csrfProof.length with hzero | hpos
    · exact absurd (String.length_eq_zero_iff.1 hzero) hproof
    · exact hpos
  unfold browserLoginConfirmationResponse
  rw [dif_pos hsubject, dif_pos hlength]
  exact ⟨_, rfl, rfl, rfl⟩

section
variable (auth : AuthDeployment) {s : AuthDatabase} {token : String} {now : ℕ}

/-- There is no link to confirm, or nothing to confirm it for. -/
def AuthDeployment.NoLink (s : AuthDatabase) (token : String) (now : ℕ) : Prop :=
  auth.users = false ∨ token = "" ∨ s.findActive (auth.tokenHmac token) now = none

theorem AuthDeployment.users_service (husers : auth.users = true) :
    auth.service.users = some (postgresUsers auth.codec auth.faults.accounts) := by
  simp [AuthDeployment.service, postgresService, husers]

/-- Nothing happens to a link that is not confirmed. -/
theorem issueConfirmedSession_of_noLink (h : auth.NoLink s token now) (user : GeneratedUser) :
    ∃ outcome, (outcome = .ok none ∨ ∃ fault, outcome = .error fault) ∧
      issueConfirmedSession auth.service auth.faults.construction token now user s =
        (outcome, s) := by
  unfold issueConfirmedSession
  cases husers : auth.users with
  | false =>
      have hnone : auth.service.users = none := by
        simp [AuthDeployment.service, postgresService, husers]
      rw [confirmAndIssueSession_of_no_users hnone]
      exact ⟨_, Or.inl rfl, rfl⟩
  | true =>
      have hsome := auth.users_service husers
      have h := h.resolve_left (by simp [husers])
      by_cases htoken : token = ""
      · rw [htoken, Action.bind_of_error (confirmAndIssueSession_of_no_token hsome now user s)]
        exact ⟨_, Or.inr ⟨_, rfl⟩, rfl⟩
      · have hnone := h.resolve_left htoken
        have hconsume : consumeEmail (auth.tokenHmac token) now s = (.ok none, s) := by
          refine Action.transaction_of_ok ?_
          rw [hnone, consumed_of_findActive_eq_none hnone]
          rfl
        have hconfirm := confirmAndIssueSession_of_token hsome htoken user hconsume
        rw [Action.bind_of_ok hconfirm]
        exact ⟨_, Or.inl rfl, rfl⟩

/-- **A link that is confirmed** gives a session for a stored account exactly if the later stages
go through; either way it is spent. -/
theorem issueConfirmedSession_of_link (husers : auth.users = true) (htoken : token ≠ "")
    {attempt : VerificationAttempt}
    (hactive : s.findActive (auth.tokenHmac token) now = some attempt) (user : GeneratedUser) :
    (SessionCompletes auth s attempt.canonicalEmail user ∧
        ∃ session t, issueConfirmedSession auth.service auth.faults.construction token now user s =
            (.ok (some session), t) ∧ IssuedSession t session ∧
          SameLinks (s.consumed (auth.tokenHmac token) now) t) ∨
      ¬ SessionCompletes auth s attempt.canonicalEmail user ∧
        ∃ raised t, issueConfirmedSession auth.service auth.faults.construction token now user s =
            (.error raised, t) ∧ SameLinks (s.consumed (auth.tokenHmac token) now) t := by
  have hconsume : consumeEmail (auth.tokenHmac token) now s =
      (.ok (some attempt.canonicalEmail), s.consumed (auth.tokenHmac token) now) := by
    refine Action.transaction_of_ok ?_
    rw [hactive]
    rfl
  have hconfirm : confirmAndIssueSession auth.service token now user s =
      (createOrRecoverUser auth.codec auth.faults.accounts attempt.canonicalEmail now user >>=
        fun account => pure
          (some (buildActorSession account.subject attempt.canonicalEmail user.sessionId now)))
        (s.consumed (auth.tokenHmac token) now) :=
    confirmAndIssueSession_of_token (auth.users_service husers) htoken user hconsume
  -- whether an account can be had does not depend on the attempts
  have havailable : AccountAvailable auth.codec (s.consumed (auth.tokenHmac token) now)
      attempt.canonicalEmail user ↔ AccountAvailable auth.codec s attempt.canonicalEmail user :=
    Iff.rfl
  unfold issueConfirmedSession
  rcases createOrRecoverUser_spec auth.codec auth.faults.accounts attempt.canonicalEmail now user
      (s.consumed (auth.tokenHmac token) now) with
    ⟨hfault, hhad, account, t, hrun, hstored, hsame⟩ | ⟨hnot, raised, hrun⟩
  · rw [Action.bind_of_ok hrun] at hconfirm
    rw [Action.bind_of_ok hconfirm]
    cases hconstruction : auth.faults.construction with
    | none =>
        exact Or.inl ⟨⟨hfault, hconstruction, havailable.1 hhad⟩, _, t, rfl,
          ⟨account, hstored, rfl⟩, hsame⟩
    | some fault =>
        refine Or.inr ⟨fun h => ?_, fault, t, rfl, hsame⟩
        have hnone := h.construction
        rw [hconstruction] at hnone
        cases hnone
  · rw [Action.bind_of_error hrun] at hconfirm
    rw [Action.bind_of_error hconfirm]
    exact Or.inr ⟨fun h => hnot ⟨h.accounts, havailable.2 h.available⟩, raised, _, rfl, rfl, rfl⟩

theorem confirm_of_noLink (h : auth.NoLink s token now) (later : ℕ) (user : GeneratedUser)
    (browser : GeneratedSession) :
    (auth.handler.confirm auth.faults.construction token now later user browser s).2 = s := by
  obtain ⟨outcome, houtcome, hrun⟩ := issueConfirmedSession_of_noLink auth h user
  unfold LoginConfirmationHandler.confirm
  rcases houtcome with rfl | ⟨fault, rfl⟩
  · exact congrArg Prod.snd (Action.bind_of_ok hrun _)
  · exact congrArg Prod.snd (Action.bind_of_error hrun _)

/-- **A link that is confirmed at the handler** gives a browser session for a stored account exactly
if the later stages go through; either way it is spent. -/
theorem confirm_of_link (husers : auth.users = true) (htoken : token ≠ "")
    {attempt : VerificationAttempt}
    (hactive : s.findActive (auth.tokenHmac token) now = some attempt) (later : ℕ)
    (user : GeneratedUser) (browser : GeneratedSession) :
    (BrowserSessionCompletes auth s attempt.canonicalEmail user browser ∧
        ∃ confirmation t, auth.handler.confirm auth.faults.construction token now later user browser
            s = (.ok (some confirmation), t) ∧ IssuedBrowserSession auth t confirmation ∧
          t.attempts = (s.consumed (auth.tokenHmac token) now).attempts) ∨
      ¬ BrowserSessionCompletes auth s attempt.canonicalEmail user browser ∧
        ∃ raised t, auth.handler.confirm auth.faults.construction token now later user browser s =
            (.error raised, t) ∧
          t.attempts = (s.consumed (auth.tokenHmac token) now).attempts := by
  unfold LoginConfirmationHandler.confirm
  rcases issueConfirmedSession_of_link auth husers htoken hactive user with
    ⟨hcompletes, session, t, hrun, ⟨account, hstored, hsubject⟩, hsame⟩ |
      ⟨hnot, raised, t, hrun, hsame⟩
  · have hrun' : issueConfirmedSession auth.handler.service auth.faults.construction token now user
        s = (.ok (some session), t) := hrun
    rw [Action.bind_of_ok hrun']
    dsimp only
    have hlength : 5 ≤ session.actor.userId.length := hsubject ▸ account.subject_length
    have hsessions : t.sessions = s.sessions := hsame.sessions
    rcases issue_over_postgres auth.gateway auth.keys auth.faults.browserSessions hlength
        ⟨account, hstored, hsubject⟩ later browser with
      ⟨⟨hfault, hproof, hfresh⟩, issued, browserSession, hissue, hof, hlive, hdigest, hcookie,
        hsent⟩ | ⟨hnot, raised, hissue⟩
    · have hissue' : issue auth.handler.gateway auth.handler.keys session.actor.userId later browser
          t = _ := hissue
      obtain ⟨body, hbody, hbodySubject, hbodyProof⟩ :=
        browserLoginConfirmationResponse_eq_ok hlength issued.csrfProof
          (by rw [hsent]; exact hproof)
      rw [Action.bind_of_ok hissue', hbody]
      refine Or.inl ⟨⟨hcompletes, hfault, hproof, hsessions ▸ hfresh⟩, ⟨body, issued.setCookie⟩, _,
        rfl, ⟨⟨account, hstored, hsubject.trans hbodySubject.symm⟩, browserSession, ?_,
          hof.trans hbodySubject.symm, hlive, ?_, hcookie⟩, hsame.attempts⟩
      · simp
      · rw [hdigest, hbodyProof]
    · have hissue' : issue auth.handler.gateway auth.handler.keys session.actor.userId later browser
          t = _ := hissue
      rw [Action.bind_of_error hissue']
      refine Or.inr ⟨fun h => hnot ⟨h.browserSessions, h.csrfProof, ?_⟩, raised, t, rfl,
        hsame.attempts⟩
      rw [hsessions]
      exact h.sessionId
  · have hrun' : issueConfirmedSession auth.handler.service auth.faults.construction token now user
        s = (.error raised, t) := hrun
    rw [Action.bind_of_error hrun']
    exact Or.inr ⟨fun h => hnot h.session, raised, t, rfl, hsame.attempts⟩

/-- Whether a confirmation that spent the link is all or nothing is decided by what it returns. -/
theorem allOrNothing_of_spent {α : Type} {issued : AuthDatabase → α → Prop} {digest : HexDigest}
    {outcome : Except RegistrationFault (Option α) × AuthDatabase}
    (hactive : s.findActive digest now ≠ none)
    (hspent : outcome.2.attempts = (s.consumed digest now).attempts) :
    AllOrNothing s digest now issued outcome ↔
      ∃ a, outcome.1 = .ok (some a) ∧ issued outcome.2 a := by
  constructor
  · rintro (⟨a, hreturned, hissued, -⟩ | hsame)
    · exact ⟨a, hreturned, hissued⟩
    · exact absurd (hspent.symm.trans hsame) (attempts_consumed_ne hactive)
  · rintro ⟨a, hreturned, hissued⟩
    refine Or.inl ⟨a, hreturned, hissued, hactive, ?_⟩
    have hnone := findActive_consumed s digest now
    unfold AuthDatabase.findActive at hnone ⊢
    rw [hspent]
    exact hnone

end

/-- **When a confirmation is all or nothing.**  Both ways to confirm are, from any tables and with
any failures from outside, exactly if there is no link to confirm, or every stage after the one that
consumes the attempt goes through. -/
theorem confirmation_all_or_nothing_iff (auth : AuthDeployment) (s : AuthDatabase) (token : String)
    (now later : ℕ) (user : GeneratedUser) (browser : GeneratedSession) :
    (AllOrNothing s (auth.tokenHmac token) now IssuedSession
        (issueConfirmedSession auth.service auth.faults.construction token now user s) ↔
      (auth.users = true → token ≠ "" → ∀ attempt,
        s.findActive (auth.tokenHmac token) now = some attempt →
        SessionCompletes auth s attempt.canonicalEmail user)) ∧
      (AllOrNothing s (auth.tokenHmac token) now (IssuedBrowserSession auth)
          (auth.handler.confirm auth.faults.construction token now later user browser s) ↔
        (auth.users = true → token ≠ "" → ∀ attempt,
          s.findActive (auth.tokenHmac token) now = some attempt →
          BrowserSessionCompletes auth s attempt.canonicalEmail user browser)) := by
  by_cases hno : auth.NoLink s token now
  · -- the attempts stay as they were, and nothing is asked of the later stages
    have hvacuous : ∀ P : VerificationAttempt → Prop, auth.users = true → token ≠ "" →
        ∀ attempt, s.findActive (auth.tokenHmac token) now = some attempt → P attempt := by
      intro P husers htoken attempt hactive
      rcases hno with hno | hno | hno
      · rw [hno] at husers
        cases husers
      · exact absurd hno htoken
      · rw [hno] at hactive
        cases hactive
    obtain ⟨outcome, -, hrun⟩ := issueConfirmedSession_of_noLink auth hno user
    constructor
    · refine iff_of_true (Or.inr ?_) (hvacuous _)
      rw [hrun]
    · refine iff_of_true (Or.inr ?_) (hvacuous _)
      rw [confirm_of_noLink auth hno]
  · unfold AuthDeployment.NoLink at hno
    push Not at hno
    obtain ⟨husers, htoken, hactive⟩ := hno
    have husers : auth.users = true := by simpa using husers
    obtain ⟨attempt, hattempt⟩ := Option.ne_none_iff_exists'.1 hactive
    have hcondition : ∀ P : VerificationAttempt → Prop,
        (auth.users = true → token ≠ "" → ∀ attempt,
          s.findActive (auth.tokenHmac token) now = some attempt → P attempt) ↔ P attempt := by
      intro P
      constructor
      · intro h
        exact h husers htoken attempt hattempt
      · intro h _ _ other hother
        rw [hattempt] at hother
        cases hother
        exact h
    constructor
    · rw [hcondition]
      rcases issueConfirmedSession_of_link auth husers htoken hattempt user with
        ⟨hcompletes, session, t, hrun, hissued, hsame⟩ | ⟨hnot, raised, t, hrun, hsame⟩
      · rw [hrun, allOrNothing_of_spent hactive hsame.attempts]
        exact iff_of_true ⟨session, rfl, hissued⟩ hcompletes
      · rw [hrun, allOrNothing_of_spent hactive hsame.attempts]
        refine iff_of_false ?_ hnot
        rintro ⟨session, hreturned, -⟩
        cases hreturned
    · rw [hcondition]
      rcases confirm_of_link auth husers htoken hattempt later user browser with
        ⟨hcompletes, confirmation, t, hrun, hissued, hsame⟩ | ⟨hnot, raised, t, hrun, hsame⟩
      · rw [hrun, allOrNothing_of_spent hactive hsame]
        exact iff_of_true ⟨confirmation, rfl, hissued⟩ hcompletes
      · rw [hrun, allOrNothing_of_spent hactive hsame]
        refine iff_of_false ?_ hnot
        rintro ⟨confirmation, hreturned, -⟩
        cases hreturned

/-! ### A link that is spent for nothing -/

/-- The address of Bob is to be verified. -/
def bobAttempt : VerificationAttempt :=
  ⟨"verify_1", "bob@example.com",
    .ofNat 0xbf67f6c87f42484308276f478678d0c389e87b4e0866f6eb591d786fca7ffc65,
    900 * second, 0, none, none, by decide⟩

/-- The tables with that attempt. -/
def bobDatabase : AuthDatabase := ⟨[bobAttempt], [], [], []⟩

/-- What is generated for Bob. -/
def bobUser : GeneratedUser := ⟨"usr_bob", second, "contact_1", "session_1", by decide⟩

/-- The service that sent the link. -/
def bobService (fault : Option RegistrationFault) : RegistrationService AuthDatabase :=
  postgresService .asciiOnly (hashTable [("link", bobAttempt.tokenDigest)]) 900 quarterHour_pos
    true fault

/-- The connection is lost after the attempt was consumed: the link is spent, there is no session,
and to confirm the link again gives none either. -/
theorem link_spent_for_nothing :
    let outcome := issueConfirmedSession
      (bobService (some (.external "OperationalError" "the connection is lost"))) none "link" second
      bobUser bobDatabase
    ¬ AllOrNothing bobDatabase bobAttempt.tokenDigest second IssuedSession outcome ∧
      (issueConfirmedSession (bobService none) none "link" (2 * second) bobUser outcome.2).1 =
        .ok none := by
  intro outcome
  constructor
  · rintro (⟨session, hreturned, -⟩ | hsame)
    · have hraised : outcome.1 = .error (.external "OperationalError" "the connection is lost") :=
        rfl
      rw [hraised] at hreturned
      cases hreturned
    · exact absurd hsame (by decide)
  · decide

end PlatformOps
