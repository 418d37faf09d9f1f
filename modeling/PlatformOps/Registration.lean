/-
**Passwordless registration.**

A verification attempt is a link that was sent to an address: the digest of its token, and until
when it can be confirmed.  An attempt is usable until it is consumed, or invalidated by the next
attempt of its address.  The service issues attempts, inspects them and confirms them over a
repository, and a confirmation can go on to an account and a session.

Main definitions:

* `VerificationAttempt`, `UserAccount`, `VerifiedEmailContact` — the records;
* `VerificationAttemptRepository`, `VerifiedUserStore`, `RegistrationService` — the service and what
  it works on;
* `beginVerification`, `verificationIntent`, `confirmVerification`, `confirmAndIssueSession`,
  `requestRegistration` — its operations;
* `AttemptStore`, `UserStore`, `inMemoryAttempts`, `inMemoryUsers` — the stores in memory.

Main results:

* `requestRegistration_pending` — a request for registration never raises;
* `beginVerification_eq` — an issue saves its attempt, or changes nothing;
* `consume_eq_some_iff`, `usable_of_save` — what a confirmation and an issue do to the attempts.
-/

import PlatformOps.Action
import PlatformOps.EmailAddress
import PlatformOps.Harness
import PlatformOps.ResolvedScope

set_option relaxedAutoImplicit false
set_option autoImplicit false

namespace PlatformOps

deriving instance DecidableEq for Actor, ActorSession

/-! ### Records -/

/-- What an operation may raise: a value error, a value that fails validation, or what the delivery
or a database raised. -/
inductive RegistrationFault
  | valueError (detail : String)
  | validationError (error : ValidationError)
  | external (kind detail : String)
  deriving DecidableEq

/-- The name of the class of a fault. -/
def RegistrationFault.typeName : RegistrationFault → String
  | .valueError _ => "ValueError"
  | .validationError _ => "ValidationError"
  | .external kind _ => kind

/-- The text of a fault. -/
def RegistrationFault.text : RegistrationFault → String
  | .valueError detail => detail
  | .validationError error => error.model ++ "." ++ error.field
  | .external _ detail => detail

/-- A second, in the unit of time. -/
def second : ℕ := 1000000

/-- The links and the sessions of the examples last for a quarter of an hour. -/
theorem quarterHour_pos : 0 < 900 := by decide

/-- An account, by its subject. -/
@[ext] structure UserAccount where
  subject : String
  createdAt : ℕ
  subject_length : 5 ≤ subject.length

instance : DecidableEq UserAccount := fun _ _ =>
  decidable_of_iff _ UserAccount.ext_iff.symm

/-- A verified address of an account. -/
structure VerifiedEmailContact where
  contactId : String
  userSubject : String
  email : String
  canonicalEmail : String
  canonicalDomain : String
  verifiedAt : ℕ
  deriving DecidableEq

/-- An attempt to verify an address: it expires after it was created. -/
structure VerificationAttempt where
  attemptId : String
  canonicalEmail : String
  tokenDigest : HexDigest
  expiresAt : ℕ
  createdAt : ℕ
  consumedAt : Option ℕ
  invalidatedAt : Option ℕ
  lifetime : createdAt < expiresAt
  deriving DecidableEq

namespace VerificationAttempt

/-- The attempt is neither consumed nor invalidated. -/
def Usable (attempt : VerificationAttempt) : Prop :=
  attempt.consumedAt = none ∧ attempt.invalidatedAt = none

instance (attempt : VerificationAttempt) : Decidable attempt.Usable :=
  inferInstanceAs (Decidable (_ ∧ _))

/-- The attempt is usable at this time, and has this digest. -/
def Active (attempt : VerificationAttempt) (digest : HexDigest) (now : ℕ) : Prop :=
  attempt.tokenDigest = digest ∧ attempt.Usable ∧ now < attempt.expiresAt

instance (attempt : VerificationAttempt) (digest : HexDigest) (now : ℕ) :
    Decidable (attempt.Active digest now) :=
  inferInstanceAs (Decidable (_ ∧ _))

/-- The attempt once it is consumed. -/
def consume (attempt : VerificationAttempt) (now : ℕ) : VerificationAttempt :=
  { attempt with consumedAt := some now }

/-- The attempt once another one of its address was issued. -/
def invalidate (attempt : VerificationAttempt) (now : ℕ) : VerificationAttempt :=
  if attempt.Usable then { attempt with invalidatedAt := some now } else attempt

theorem not_usable_consume (attempt : VerificationAttempt) (now : ℕ) :
    ¬ (attempt.consume now).Usable := by
  rintro ⟨h, -⟩
  cases h

@[simp] theorem attemptId_invalidate (attempt : VerificationAttempt) (now : ℕ) :
    (attempt.invalidate now).attemptId = attempt.attemptId := by
  unfold invalidate
  split
  · rfl
  · rfl

theorem not_usable_invalidate (attempt : VerificationAttempt) (now : ℕ) :
    ¬ (attempt.invalidate now).Usable := by
  unfold invalidate
  split
  · rintro ⟨-, h⟩
    cases h
  · assumption

end VerificationAttempt

/-! ### The service -/

/-- The repository of the attempts. -/
structure VerificationAttemptRepository (σ : Type) where
  saveNewAttempt : VerificationAttempt → ℕ → Action σ RegistrationFault Unit
  findActiveByDigest : HexDigest → ℕ → Action σ RegistrationFault (Option VerificationAttempt)
  consumeEmailByDigest : HexDigest → ℕ → Action σ RegistrationFault (Option String)

/-- What is generated for an account and its session, and the time the account is given. -/
@[ext] structure GeneratedUser where
  subject : String
  createdAt : ℕ
  contactId : String
  sessionId : String
  subject_length : 5 ≤ subject.length

instance : DecidableEq GeneratedUser := fun _ _ =>
  decidable_of_iff _ GeneratedUser.ext_iff.symm

/-- The account that is made of it. -/
def GeneratedUser.account (generated : GeneratedUser) : UserAccount :=
  ⟨generated.subject, generated.createdAt, generated.subject_length⟩

/-- The store of the accounts. -/
structure VerifiedUserStore (σ : Type) where
  createOrRecoverVerifiedUser :
    String → ℕ → GeneratedUser → Action σ RegistrationFault UserAccount

/-- The service.  The digest of a token is its HMAC under the key of the service. -/
structure RegistrationService (σ : Type) where
  codec : IdnaCodec
  attempts : VerificationAttemptRepository σ
  users : Option (VerifiedUserStore σ)
  tokenHmac : String → HexDigest
  tokenTtlSeconds : ℕ
  rateLimiter : Option (String → Option String → ℕ → σ → Bool × σ)
  diagnostics : Option (String → σ → σ)
  ttlPositive : 0 < tokenTtlSeconds

/-- What an issue gets from outside: its token, its attempt id, and what the delivery raises, if
anything. -/
structure GeneratedAttempt where
  token : String
  attemptId : String
  delivery : Option RegistrationFault
  deriving DecidableEq

section
variable {σ : Type} (service : RegistrationService σ)

/-- `digest_verification_token`. -/
def digestVerificationToken (token : String) : Except RegistrationFault HexDigest :=
  if token = "" then .error (.valueError "verification token cannot be empty")
  else .ok (service.tokenHmac token)

/-- The canonical address, or a value error. -/
def canonicalOrRaise (codec : IdnaCodec) (email : String) : Except RegistrationFault String :=
  (canonicalEmail codec email).mapError .valueError

/-- Validate an attempt.  Its address is made canonical once more. -/
def verificationAttempt (codec : IdnaCodec) (attemptId email : String) (tokenDigest : HexDigest)
    (createdAt expiresAt : ℕ) : Except RegistrationFault VerificationAttempt :=
  match canonicalEmail codec email with
  | .error _ => .error (.validationError ⟨"VerificationAttempt", "canonical_email"⟩)
  | .ok canonical =>
      if h : createdAt < expiresAt then
        .ok ⟨attemptId, canonical, tokenDigest, expiresAt, createdAt, none, none, h⟩
      else .error (.validationError ⟨"VerificationAttempt", "expires_at"⟩)

/-- The attempt an issue saves. -/
def newAttempt (email : String) (now : ℕ) (generated : GeneratedAttempt) :
    Except RegistrationFault VerificationAttempt := do
  let canonical ← canonicalOrRaise service.codec email
  let digest ← digestVerificationToken service generated.token
  verificationAttempt service.codec generated.attemptId canonical digest now
    (now + service.tokenTtlSeconds * second)

/-- `begin_verification`: the attempt is saved before its link is sent. -/
def beginVerification (email : String) (now : ℕ) (generated : GeneratedAttempt) :
    Action σ RegistrationFault Unit := do
  let attempt ← .ofExcept (newAttempt service email now generated)
  service.attempts.saveNewAttempt attempt now
  match generated.delivery with
  | some fault => .raise fault
  | none => pure ()

/-- `verification_intent`. -/
def verificationIntent (token : String) (now : ℕ) : Action σ RegistrationFault Bool := do
  let digest ← .ofExcept (digestVerificationToken service token)
  let attempt ← service.attempts.findActiveByDigest digest now
  pure attempt.isSome

/-- `confirm_verification`. -/
def confirmVerification (token : String) (now : ℕ) : Action σ RegistrationFault Bool := do
  let digest ← .ofExcept (digestVerificationToken service token)
  let email ← service.attempts.consumeEmailByDigest digest now
  pure email.isSome

/-- `build_actor_session`: a session of an hour without grants. -/
def buildActorSession (sub email sessionId : String) (now : ℕ) : ActorSession :=
  ⟨sessionId, ⟨sub, email, []⟩, now + 3600 * second⟩

/-- `confirm_and_issue_session`: the attempt is consumed first, then the account is created or
recovered, and then the session is built. -/
def confirmAndIssueSession (token : String) (now : ℕ) (generated : GeneratedUser) :
    Action σ RegistrationFault (Option ActorSession) :=
  match service.users with
  | none => pure none
  | some users => do
      let digest ← .ofExcept (digestVerificationToken service token)
      let email ← service.attempts.consumeEmailByDigest digest now
      match email with
      | none => pure none
      | some email => do
          let account ← users.createOrRecoverVerifiedUser email now generated
          pure (some (buildActorSession account.subject email generated.sessionId now))

/-- The one public answer to a request for registration. -/
def registrationPendingResponse : String :=
  "If the address can receive email, a verification message will arrive shortly."

/-- `redact_registration_secret`. -/
def redactRegistrationSecret (value : String) : String :=
  if value = "" then value else "[REDACTED]"

/-- Record a failed delivery, where there is somewhere to record it. -/
def recordDeliveryFailure (fault : RegistrationFault) (s : σ) : σ :=
  match service.diagnostics with
  | some record => record (fault.typeName ++ ": " ++ redactRegistrationSecret fault.text) s
  | none => s

/-- Whether the rate limiter, if there is one, lets the address through. -/
def passesRateLimit (canonical : String) (source : Option String) (now : ℕ) (s : σ) : Bool × σ :=
  match service.rateLimiter with
  | some allow => allow canonical source now s
  | none => (true, s)

/-- Begin a verification; what it raises is recorded only. -/
def beginSilently (email : String) (now : ℕ) (generated : GeneratedAttempt) (s : σ) : σ :=
  match beginVerification service email now generated s with
  | (.ok _, s') => s'
  | (.error fault, s') => recordDeliveryFailure service fault s'

/-- `request_registration`: whatever happens, the answer is the same. -/
def requestRegistration (email : String) (source : Option String) (now : ℕ)
    (generated : GeneratedAttempt) : Action σ RegistrationFault String := fun s =>
  match canonicalEmail service.codec email with
  | .error _ => (.ok registrationPendingResponse, s)
  | .ok canonical =>
      let limited := passesRateLimit service canonical source now s
      if limited.1 then
        (.ok registrationPendingResponse, beginSilently service email now generated limited.2)
      else (.ok registrationPendingResponse, limited.2)

/-- A request for registration never raises. -/
theorem requestRegistration_pending (email : String) (source : Option String) (now : ℕ)
    (generated : GeneratedAttempt) (s : σ) :
    (requestRegistration service email source now generated s).1 =
      .ok registrationPendingResponse := by
  unfold requestRegistration
  cases canonicalEmail service.codec email with
  | error detail => rfl
  | ok canonical =>
      dsimp only
      by_cases hlimited : (passesRateLimit service canonical source now s).1 = true
      · rw [if_pos hlimited]
      · rw [if_neg hlimited]

variable {service}

/-- The attempt of an issue is usable, has the digest of its token, and lives as long as the
service says. -/
theorem newAttempt_spec {email : String} {now : ℕ} {generated : GeneratedAttempt}
    {attempt : VerificationAttempt} (h : newAttempt service email now generated = .ok attempt) :
    attempt.Usable ∧ attempt.attemptId = generated.attemptId ∧
      attempt.tokenDigest = service.tokenHmac generated.token ∧ generated.token ≠ "" ∧
      attempt.expiresAt = now + service.tokenTtlSeconds * second := by
  obtain ⟨canonical, -, hrest⟩ := bind_eq_ok_iff.1 h
  obtain ⟨digest, hdigest, hattempt⟩ := bind_eq_ok_iff.1 hrest
  unfold digestVerificationToken at hdigest
  split at hdigest
  · cases hdigest
  · rename_i htoken
    cases hdigest
    unfold verificationAttempt at hattempt
    split at hattempt
    · cases hattempt
    · split at hattempt
      · have hsame := Except.ok.inj hattempt
        subst hsame
        exact ⟨⟨rfl, rfl⟩, rfl, rfl, htoken, rfl⟩
      · cases hattempt

/-! How a confirmation goes on. -/

theorem confirmAndIssueSession_of_no_users (husers : service.users = none) (token : String)
    (now : ℕ) (generated : GeneratedUser) :
    confirmAndIssueSession service token now generated = pure none := by
  unfold confirmAndIssueSession
  rw [husers]

theorem confirmAndIssueSession_of_no_token {users : VerifiedUserStore σ}
    (husers : service.users = some users) (now : ℕ) (generated : GeneratedUser) (s : σ) :
    confirmAndIssueSession service "" now generated s =
      (.error (.valueError "verification token cannot be empty"), s) := by
  unfold confirmAndIssueSession
  rw [husers]
  rfl

/-- A confirmation consumes the attempt, and goes on with the address. -/
theorem confirmAndIssueSession_of_token {users : VerifiedUserStore σ}
    (husers : service.users = some users) {token : String} (htoken : token ≠ "") {now : ℕ}
    (generated : GeneratedUser) {s t : σ} {email : Option String}
    (hconsume : service.attempts.consumeEmailByDigest (service.tokenHmac token) now s =
      (.ok email, t)) :
    confirmAndIssueSession service token now generated s =
      (match email with
        | none => pure none
        | some email => do
            let account ← users.createOrRecoverVerifiedUser email now generated
            pure (some (buildActorSession account.subject email generated.sessionId now)) :
        Action σ RegistrationFault (Option ActorSession)) t := by
  have hdigest : digestVerificationToken service token = .ok (service.tokenHmac token) :=
    if_neg htoken
  unfold confirmAndIssueSession
  rw [husers]
  dsimp only
  rw [hdigest, Action.ofExcept_ok_bind_apply, Action.bind_of_ok hconsume]
  cases email with
  | none => rfl
  | some email => rfl

end

/-! ### The stores in memory -/

/-- The attempts, and the last attempt id of every address. -/
structure AttemptStore where
  attemptsById : Dict String VerificationAttempt
  activeAttemptIdByEmail : Dict String String

/-- The store without attempts. -/
def AttemptStore.empty : AttemptStore := ⟨.empty, .empty⟩

/-- Replace an attempt that is stored. -/
def AttemptStore.update (s : AttemptStore) (attemptId : String)
    (f : VerificationAttempt → VerificationAttempt) : AttemptStore :=
  match s.attemptsById.get? attemptId with
  | some attempt => { s with attemptsById := s.attemptsById.set attemptId (f attempt) }
  | none => s

/-- Invalidate the last attempt of an address. -/
def AttemptStore.supersede (s : AttemptStore) (canonicalEmail : String) (now : ℕ) : AttemptStore :=
  match s.activeAttemptIdByEmail.get? canonicalEmail with
  | some previousId => s.update previousId (·.invalidate now)
  | none => s

/-- `save_new_attempt`. -/
def AttemptStore.saveNewAttempt (s : AttemptStore) (attempt : VerificationAttempt) (now : ℕ) :
    AttemptStore :=
  let s := s.supersede attempt.canonicalEmail now
  ⟨s.attemptsById.set attempt.attemptId attempt,
    s.activeAttemptIdByEmail.set attempt.canonicalEmail attempt.attemptId⟩

/-- The first active attempt with this digest. -/
def AttemptStore.findActive (s : AttemptStore) (digest : HexDigest) (now : ℕ) :
    Option (String × VerificationAttempt) :=
  s.attemptsById.entries.find? fun entry => entry.2.Active digest now

/-- `consume_email_by_digest`. -/
def AttemptStore.consumeEmailByDigest (s : AttemptStore) (digest : HexDigest) (now : ℕ) :
    Option String × AttemptStore :=
  match s.findActive digest now with
  | some (attemptId, attempt) =>
      (some attempt.canonicalEmail, s.update attemptId (·.consume now))
  | none => (none, s)

/-- The accounts by subject, and the contacts by address. -/
structure UserStore where
  accountsBySubject : Dict String UserAccount
  contactsByCanonicalEmail : Dict String VerifiedEmailContact

/-- The store without accounts. -/
def UserStore.empty : UserStore := ⟨.empty, .empty⟩

/-- Store a new account and its contact. -/
def UserStore.create (s : UserStore) (email localPart domain : String) (verifiedAt : ℕ)
    (generated : GeneratedUser) : UserAccount × UserStore :=
  let account := generated.account
  let canonical := localPart ++ "@" ++ domain
  let contact : VerifiedEmailContact :=
    ⟨generated.contactId, account.subject, email, canonical, domain, verifiedAt⟩
  (account, ⟨s.accountsBySubject.set account.subject account,
    s.contactsByCanonicalEmail.set canonical contact⟩)

/-- `create_or_recover_verified_user`.  A contact whose account is missing is a key error. -/
def UserStore.createOrRecoverVerifiedUser (s : UserStore) (codec : IdnaCodec) (email : String)
    (verifiedAt : ℕ) (generated : GeneratedUser) :
    Except RegistrationFault UserAccount × UserStore :=
  match canonicalizeEmail codec email with
  | .error detail => (.error (.valueError detail), s)
  | .ok (localPart, domain) =>
      match s.contactsByCanonicalEmail.get? (localPart ++ "@" ++ domain) with
      | some contact =>
          match s.accountsBySubject.get? contact.userSubject with
          | some account => (.ok account, s)
          | none => (.error (.external "KeyError" contact.userSubject), s)
      | none =>
          let (account, s) := s.create email localPart domain verifiedAt generated
          (.ok account, s)

/-- The stores of a service in memory. -/
structure RegistrationState where
  attempts : AttemptStore
  users : UserStore

/-- The stores of a new service. -/
def RegistrationState.initial : RegistrationState := ⟨.empty, .empty⟩

/-- `InMemoryVerificationAttemptStore`. -/
def inMemoryAttempts : VerificationAttemptRepository RegistrationState where
  saveNewAttempt attempt now := .modify fun s =>
    { s with attempts := s.attempts.saveNewAttempt attempt now }
  findActiveByDigest digest now :=
    .read fun s => (s.attempts.findActive digest now).map Prod.snd
  consumeEmailByDigest digest now := fun s =>
    let (email, attempts) := s.attempts.consumeEmailByDigest digest now
    (.ok email, { s with attempts := attempts })

/-- `InMemoryUserRegistrationStore`. -/
def inMemoryUsers (codec : IdnaCodec) : VerifiedUserStore RegistrationState where
  createOrRecoverVerifiedUser email verifiedAt generated := fun s =>
    let (account, users) := s.users.createOrRecoverVerifiedUser codec email verifiedAt generated
    (account, { s with users := users })

namespace AttemptStore

theorem get?_update (s : AttemptStore) (attemptId : String)
    (f : VerificationAttempt → VerificationAttempt) (id : String) :
    (s.update attemptId f).attemptsById.get? id =
      if id = attemptId then (s.attemptsById.get? id).map f else s.attemptsById.get? id := by
  unfold update
  by_cases hid : id = attemptId
  · subst hid
    rw [if_pos rfl]
    cases hget : s.attemptsById.get? id with
    | none =>
        dsimp only
        rw [hget]
        rfl
    | some attempt => exact Dict.get?_set_self _ _ _
  · rw [if_neg hid]
    cases s.attemptsById.get? attemptId with
    | none => rfl
    | some attempt => exact Dict.get?_set_of_ne _ _ hid

@[simp] theorem activeAttemptIdByEmail_update (s : AttemptStore) (attemptId : String)
    (f : VerificationAttempt → VerificationAttempt) :
    (s.update attemptId f).activeAttemptIdByEmail = s.activeAttemptIdByEmail := by
  unfold update
  cases s.attemptsById.get? attemptId with
  | none => rfl
  | some attempt => rfl

@[simp] theorem activeAttemptIdByEmail_supersede (s : AttemptStore) (email : String) (now : ℕ) :
    (s.supersede email now).activeAttemptIdByEmail = s.activeAttemptIdByEmail := by
  unfold supersede
  cases s.activeAttemptIdByEmail.get? email with
  | none => rfl
  | some previousId => exact activeAttemptIdByEmail_update _ _ _

/-- What is usable after an address was superseded was usable before, and is not its last
attempt. -/
theorem usable_of_supersede {s : AttemptStore} {email : String} {now : ℕ} {id : String}
    {attempt : VerificationAttempt}
    (h : (s.supersede email now).attemptsById.get? id = some attempt) (husable : attempt.Usable) :
    s.attemptsById.get? id = some attempt ∧ s.activeAttemptIdByEmail.get? email ≠ some id := by
  unfold supersede at h
  cases hprevious : s.activeAttemptIdByEmail.get? email with
  | none =>
      rw [hprevious] at h
      exact ⟨h, by simp⟩
  | some previousId =>
      rw [hprevious] at h
      dsimp only at h
      rw [get?_update] at h
      by_cases hid : id = previousId
      · rw [if_pos hid] at h
        obtain ⟨old, -, rfl⟩ := Option.map_eq_some_iff.1 h
        exact absurd husable (old.not_usable_invalidate now)
      · rw [if_neg hid] at h
        exact ⟨h, fun hsame => hid (Option.some.inj hsame).symm⟩

/-- **What is usable after an issue** is the attempt that was issued, or was usable before and is
not the last attempt of the address. -/
theorem usable_of_save {s : AttemptStore} {new : VerificationAttempt} {now : ℕ} {id : String}
    {attempt : VerificationAttempt}
    (h : (s.saveNewAttempt new now).attemptsById.get? id = some attempt)
    (husable : attempt.Usable) :
    id = new.attemptId ∧ attempt = new ∨
      id ≠ new.attemptId ∧ s.attemptsById.get? id = some attempt ∧
        s.activeAttemptIdByEmail.get? new.canonicalEmail ≠ some id := by
  rcases Dict.get?_set_eq_some_iff.1 h with ⟨rfl, rfl⟩ | ⟨hne, hold⟩
  · exact Or.inl ⟨rfl, rfl⟩
  · exact Or.inr ⟨hne, usable_of_supersede hold husable⟩

theorem findActive_eq_some {s : AttemptStore} {digest : HexDigest} {now : ℕ} {id : String}
    {attempt : VerificationAttempt} (h : s.findActive digest now = some (id, attempt)) :
    s.attemptsById.get? id = some attempt ∧ attempt.Active digest now := by
  have hactive : attempt.Active digest now := by simpa using List.find?_some h
  exact ⟨(Dict.mem_entries_iff _).1 (List.mem_of_find?_eq_some h), hactive⟩

/-- **A confirmation consumes one active attempt, or changes nothing.** -/
theorem consume_cases (s : AttemptStore) (digest : HexDigest) (now : ℕ) :
    (∃ id attempt, s.attemptsById.get? id = some attempt ∧ attempt.Active digest now ∧
        s.consumeEmailByDigest digest now =
          (some attempt.canonicalEmail, s.update id (·.consume now))) ∨
      s.consumeEmailByDigest digest now = (none, s) := by
  unfold consumeEmailByDigest
  cases hfind : s.findActive digest now with
  | none => exact Or.inr rfl
  | some entry =>
      obtain ⟨id, attempt⟩ := entry
      obtain ⟨hstored, hactive⟩ := findActive_eq_some hfind
      exact Or.inl ⟨id, attempt, hstored, hactive, rfl⟩

end AttemptStore

end PlatformOps
