/-
**Logging in with a device code.**

A client without a browser asks the identity provider for a device code, tells the user where to
enter it, and polls for tokens until the user has: it waits between two polls, waits longer whenever
it is told to slow down, and gives up when the code has expired.  From the tokens it takes the
identity, verifies it against the keys of the provider, and writes a session that has the approval
grants of the user's groups and no others.

Main definitions:

* `ClockReading`, `deadlineAfter` — the clock, and when a device code expires;
* `LoginPhase`, `LoginEvent`, `loginOnce` — the client, and what happens to it;
* `Opening`, `PollRound`, `CompletedLogin` — how a login goes;
* `LoginTraced` — how a login has come to where it is;
* `PacedPoll` — what comes before a poll.

Main results:

* `abs_deadline_lt` — a deadline is a finite float;
* `loginTraced_run` — every login is traced;
* `device_login_completes_iff` — **the logins that end with a session**, and the session they write;
* `device_login_paced` — **how the client polls**, in every login, completed or not.
-/

import Mathlib.Algebra.Order.Ring.Rat
import Mathlib.Tactic.Linarith
import Mathlib.Tactic.NormNum
import PlatformOps.Binary64
import PlatformOps.Dialogue
import PlatformOps.IdentityProvider

set_option relaxedAutoImplicit false
set_option autoImplicit false

namespace PlatformOps

/-! ### The clock -/

/-- What `time.monotonic` reads: a float, of no more seconds than a number of nanoseconds with 63
digits has. -/
structure ClockReading where
  seconds : ℚ
  representable : binary64.Representable seconds
  seconds_lt : |seconds| < 2 ^ 34

/-- An integer as a float, unless it is too large for one. -/
def floatOfInt (n : ℤ) : Except LoginFault ℚ :=
  if |binary64.round n| < 2 ^ 1024 then .ok (binary64.round n)
  else .error (.overflowError "int too large to convert to float")

/-- `time.monotonic() + authorization.expires_in`, which is rounded to a float twice. -/
def deadlineAfter (reading : ClockReading) (expiresIn : ℤ) : Except LoginFault ℚ :=
  (floatOfInt expiresIn).map fun seconds => binary64.round (reading.seconds + seconds)

/-- A reading of whole seconds. -/
def ClockReading.ofNat (n : ℕ) (h : n < 2 ^ 34) : ClockReading where
  seconds := n
  representable := by
    have hdigits : (n : ℤ) < 2 ^ 53 := by omega
    have habs : |(n : ℤ)| < 2 ^ binary64.precision := by
      rw [Nat.abs_cast]
      exact hdigits
    exact_mod_cast BinaryFormat.representable_intCast (f := binary64) (by decide) habs
  seconds_lt := by
    rw [Nat.abs_cast]
    exact_mod_cast h

/-- When a code expires is the rounded sum, and the lifetime is not too large for a float. -/
theorem deadlineAfter_eq_ok_iff {reading : ClockReading} {expiresIn : ℤ} {deadline : ℚ} :
    deadlineAfter reading expiresIn = .ok deadline ↔ |binary64.round expiresIn| < 2 ^ 1024 ∧
      deadline = binary64.round (reading.seconds + binary64.round expiresIn) := by
  unfold deadlineAfter floatOfInt
  split
  · rename_i h
    constructor
    · intro hok
      exact ⟨h, (Except.ok.inj hok).symm⟩
    · rintro ⟨-, rfl⟩
      rfl
  · rename_i h
    constructor
    · intro hok
      cases hok
    · rintro ⟨hlt, -⟩
      exact absurd hlt h

/-- **A deadline is a finite float**: a sum with a reading does not leave them. -/
theorem abs_deadline_lt {reading : ClockReading} {expiresIn : ℤ} {deadline : ℚ}
    (h : deadlineAfter reading expiresIn = .ok deadline) :
    binary64.Representable deadline ∧ |deadline| < 2 ^ 1024 := by
  obtain ⟨hlt, rfl⟩ := deadlineAfter_eq_ok_iff.1 h
  refine ⟨BinaryFormat.representable_round _, ?_⟩
  have hreading := reading.seconds_lt
  have hlifetime := (BinaryFormat.representable_round (f := binary64) expiresIn).abs_le_sub
    (k := 1024) (by decide) (by exact_mod_cast hlt)
  have hsum := abs_add_le reading.seconds (binary64.round expiresIn)
  -- half a unit of the largest floats is more than any reading
  have hunit : (2 : ℚ) ^ 34 < 2 ^ ((1024 : ℤ) - binary64.precision) / 2 := by
    rw [show (1024 : ℤ) - binary64.precision = (970 + 1 : ℕ) by decide, zpow_natCast,
      pow_succ 2 970, mul_div_cancel_right₀ _ two_ne_zero]
    exact pow_lt_pow_right₀ one_lt_two (by decide)
  have hround := BinaryFormat.abs_round_lt (f := binary64) (k := 1024)
    (q := reading.seconds + binary64.round expiresIn) (by decide) (by linarith)
  exact_mod_cast hround

/-- A lifetime of few digits is not rounded. -/
theorem round_intCast {n : ℤ} (h : |n| < 2 ^ 53) : binary64.round n = n :=
  BinaryFormat.round_eq_self_iff.2 (BinaryFormat.representable_intCast (by decide) h)

/-- **What passes between a first reading and one before the deadline** is less than the lifetime
of the code: rounding does not prolong it. -/
theorem elapsed_lt {start reading : ClockReading} {expiresIn elapsed : ℤ} {deadline : ℚ}
    (h : deadlineAfter start expiresIn = .ok deadline) (hlt : reading.seconds < deadline)
    (helapsed : start.seconds + elapsed ≤ reading.seconds) : elapsed < expiresIn := by
  obtain ⟨-, rfl⟩ := deadlineAfter_eq_ok_iff.1 h
  have hsum := reading.representable.lt_of_lt_round hlt
  obtain ⟨hstart, hstart'⟩ := abs_lt.1 start.seconds_lt
  obtain ⟨hreading, hreading'⟩ := abs_lt.1 reading.seconds_lt
  have hbound : elapsed < 2 ^ 35 := by
    have hcast : (elapsed : ℚ) < ((2 ^ 35 : ℤ) : ℚ) := by
      push_cast
      linarith
    exact Int.cast_lt.1 hcast
  rcases lt_or_ge expiresIn (2 ^ 53) with hsmall | hlarge
  · have hrepresentable : binary64.Representable ((-2 ^ 53 + 1 : ℤ) : ℚ) :=
      BinaryFormat.representable_intCast (by decide) (by decide)
    have hlower : -2 ^ 53 < expiresIn := by
      -- a lifetime that is so negative is over at every reading
      by_contra hneg
      have hcast : (expiresIn : ℚ) ≤ ((-2 ^ 53 + 1 : ℤ) : ℚ) := Int.cast_le.2 (by omega)
      have hround := hrepresentable.round_le hcast
      push_cast at hround
      linarith
    rw [round_intCast (abs_lt.2 ⟨hlower, hsmall⟩)] at hsum
    have hcast : (elapsed : ℚ) < expiresIn := by linarith
    exact Int.cast_lt.1 hcast
  · omega

/-! ### The client -/

/-- What is known while the client polls. -/
structure Polling where
  metadata : OIDCProviderMetadata
  authorization : DeviceAuthorization
  deadline : ℚ
  interval : ℤ

/-- What the client awaits: the metadata, the device code, the first reading of the clock, a reading
and the answer to a poll, the end of a pause, the keys, an id and the time for the session, and that
the session is written. -/
inductive LoginPhase
  | discovering
  | authorizing (metadata : OIDCProviderMetadata)
  | authorized (metadata : OIDCProviderMetadata) (authorization : DeviceAuthorization)
  | checking (polling : Polling)
  | polling (polling : Polling)
  | sleeping (polling : Polling)
  | fetchingKeys (metadata : OIDCProviderMetadata) (tokens : TokenSet)
  | issuing (claims : OIDCClaims)
  | writing (session : IssuedActorSession)
  | returned (session : IssuedActorSession)
  | raised (fault : LoginFault)

/-- What happens to the client: what it asked for, and what came of it.  What the network, the clock
and the file system raise is a text here. -/
inductive LoginEvent
  | fetchJson (url : String) (answer : Except String Json)
  | postForm (url : String) (form : List (String × String)) (answer : Except String Json)
  | monotonic (reading : ClockReading)
  | sleep (seconds : ℤ) (answer : Except String Unit)
  | draw (issuedAt : ℕ) (sessionId : String)
  | writeSession (path : String) (session : IssuedActorSession) (answer : Except String Unit)

/-- A login: what it runs with. -/
structure DeviceLogin where
  lib : LoginLibrary
  config : OIDCDeviceClientConfig
  mapping : List GroupGrantMapping
  sessionPath : String

section

variable (login : DeviceLogin)

/-- Go on from what was read, or raise. -/
def LoginPhase.after {α : Type} (result : Except LoginFault α) (next : α → LoginPhase) :
    LoginPhase :=
  match result with
  | .ok a => next a
  | .error fault => .raised fault

/-- Read what came, or raise. -/
def received {α β : Type} (answer : Except String α) (read : α → Except LoginFault β) :
    Except LoginFault β :=
  match answer with
  | .ok a => read a
  | .error detail => .error (.external detail)

/-- What becomes of a poll: a refusal that is not final is followed by a pause. -/
def afterPoll (p : Polling) (answer : Except String Json) : LoginPhase :=
  match received answer (pollDeviceToken login.lib) with
  | .ok tokens => .fetchingKeys p.metadata tokens
  | .error .pending => .sleeping p
  | .error .slowDown => .sleeping { p with interval := p.interval + 5 }
  | .error fault => .raised fault

/-- The session of a user who was verified. -/
def sessionOfClaims (claims : OIDCClaims) (sessionId : String) (issuedAt : ℕ) : IssuedActorSession :=
  let grants := resolveGroupGrants login.lib claims.groups login.mapping
  issueActorSession claims grants.executionGrants grants.approvalGrants sessionId issuedAt

/-- `login_once`, from one await to the next. -/
def loginNext : LoginPhase → LoginEvent → Option LoginPhase
  | .discovering, .fetchJson url answer =>
      if url = discoveryUrl login.config.issuer then
        some (.after (received answer discoverOidcMetadata) .authorizing)
      else none
  | .authorizing metadata, .postForm url form answer =>
      if url = deviceEndpoint login.config (some metadata) ∧ form = deviceForm login.config then
        some (.after (received answer (beginDeviceAuthorization login.lib)) (.authorized metadata))
      else none
  | .authorized metadata authorization, .monotonic reading =>
      some (.after (deadlineAfter reading authorization.expiresIn) fun deadline =>
        .checking ⟨metadata, authorization, deadline, authorization.interval⟩)
  | .checking p, .monotonic reading =>
      if p.deadline ≤ reading.seconds then
        some (.raised (.timeout "device authorization expired before login completed"))
      else some (.polling p)
  | .polling p, .postForm url form answer =>
      if url = tokenEndpointOf login.config (some p.metadata) ∧
          form = tokenForm login.config p.authorization.deviceCode then
        some (afterPoll login p answer)
      else none
  | .sleeping p, .sleep seconds answer =>
      if seconds = p.interval then some (.after (received answer .ok) fun _ => .checking p)
      else none
  | .fetchingKeys metadata tokens, .fetchJson url answer =>
      if url = metadata.jwksUri then
        some (.after (received answer fun jwks =>
          parseDeviceIdToken login.lib tokens jwks login.config metadata.issuer) .issuing)
      else none
  | .issuing claims, .draw issuedAt sessionId =>
      some (.writing (sessionOfClaims login claims sessionId issuedAt))
  | .writing session, .writeSession path written answer =>
      if path = login.sessionPath ∧ written = session then
        some (.after (received answer .ok) fun _ => .returned session)
      else none
  | _, _ => none

/-- `login_once`. -/
def loginOnce : Dialogue LoginPhase LoginEvent := ⟨.discovering, loginNext login⟩

end

/-! ### How a login goes -/

/-- How a login begins: the metadata, the device code, the first reading of the clock, and when the
code expires. -/
structure Opening (login : DeviceLogin) where
  discovered : Json
  metadata : OIDCProviderMetadata
  metadata_eq : discoverOidcMetadata discovered = .ok metadata
  authorized : Json
  authorization : DeviceAuthorization
  authorization_eq : beginDeviceAuthorization login.lib authorized = .ok authorization
  startedAt : ClockReading
  deadline : ℚ
  deadline_eq : deadlineAfter startedAt authorization.expiresIn = .ok deadline

/-- A poll that is refused for now. -/
structure PollRound (login : DeviceLogin) where
  reading : ClockReading
  answer : Json
  slow : Bool
  answer_eq : pollDeviceToken login.lib answer = .error (if slow then .slowDown else .pending)

namespace Opening

variable {login : DeviceLogin} (o : Opening login)

/-- What happens in the beginning. -/
def events : List LoginEvent :=
  [.fetchJson (discoveryUrl login.config.issuer) (.ok o.discovered),
    .postForm (deviceEndpoint login.config (some o.metadata)) (deviceForm login.config)
      (.ok o.authorized),
    .monotonic o.startedAt]

/-- A poll, and what was answered. -/
def poll (answer : Except String Json) : LoginEvent :=
  .postForm (tokenEndpointOf login.config (some o.metadata))
    (tokenForm login.config o.authorization.deviceCode) answer

/-- The pause after these polls: it is five seconds longer for each time the client was told to slow
down. -/
def pause (rounds : List (PollRound login)) : ℤ :=
  o.authorization.interval + 5 * rounds.countP PollRound.slow

/-- A reading, a poll, and the pause after it. -/
def roundEvents (before : List (PollRound login)) (r : PollRound login) : List LoginEvent :=
  [.monotonic r.reading, o.poll (.ok r.answer), .sleep (o.pause (before ++ [r])) (.ok ())]

/-- What happens in rounds that come after others. -/
def roundsAfter (before : List (PollRound login)) : List (PollRound login) → List LoginEvent
  | [] => []
  | r :: rounds => o.roundEvents before r ++ roundsAfter (before ++ [r]) rounds

/-- What happens until the client polls anew. -/
def history (rounds : List (PollRound login)) : List LoginEvent := o.events ++ o.roundsAfter [] rounds

/-- What is known then. -/
def polling (rounds : List (PollRound login)) : Polling :=
  ⟨o.metadata, o.authorization, o.deadline, o.pause rounds⟩

/-- Every poll was sent before the code had expired. -/
def InTime (rounds : List (PollRound login)) : Prop := ∀ r ∈ rounds, r.reading.seconds < o.deadline

theorem roundsAfter_concat (before rounds : List (PollRound login)) (r : PollRound login) :
    o.roundsAfter before (rounds ++ [r]) =
      o.roundsAfter before rounds ++ o.roundEvents (before ++ rounds) r := by
  induction rounds generalizing before with
  | nil => simp [roundsAfter]
  | cons r' rounds ih => simp [roundsAfter, ih]

theorem history_concat (rounds : List (PollRound login)) (r : PollRound login) :
    o.history (rounds ++ [r]) = o.history rounds ++ o.roundEvents rounds r := by
  unfold history
  rw [roundsAfter_concat, List.append_assoc, List.nil_append]

end Opening

/-- A login that was given tokens. -/
structure AcceptedLogin (login : DeviceLogin) extends Opening login where
  rounds : List (PollRound login)
  inTime : toOpening.InTime rounds
  reading : ClockReading
  reading_lt : reading.seconds < toOpening.deadline
  answer : Json
  tokens : TokenSet
  tokens_eq : pollDeviceToken login.lib answer = .ok tokens

/-- A login whose user was verified. -/
structure VerifiedLogin (login : DeviceLogin) extends AcceptedLogin login where
  jwks : Json
  claims : OIDCClaims
  verified : Verifies login.lib tokens.idToken jwks (expectedIssuer login.config metadata.issuer)
    login.config.audience claims

/-- A login that wrote a session. -/
structure CompletedLogin (login : DeviceLogin) extends VerifiedLogin login where
  issuedAt : ℕ
  sessionId : String

/-- What happens until tokens are there. -/
def AcceptedLogin.events {login : DeviceLogin} (a : AcceptedLogin login) : List LoginEvent :=
  a.history a.rounds ++ [.monotonic a.reading, a.poll (.ok a.answer)]

/-- What happens until the user is verified. -/
def VerifiedLogin.events {login : DeviceLogin} (v : VerifiedLogin login) : List LoginEvent :=
  v.toAcceptedLogin.events ++ [.fetchJson v.metadata.jwksUri (.ok v.jwks)]

/-- The session that is written. -/
def CompletedLogin.session {login : DeviceLogin} (c : CompletedLogin login) : IssuedActorSession :=
  sessionOfClaims login c.claims c.sessionId c.issuedAt

/-- What happens until the session is written. -/
def CompletedLogin.events {login : DeviceLogin} (c : CompletedLogin login) : List LoginEvent :=
  c.toVerifiedLogin.events ++
    [.draw c.issuedAt c.sessionId, .writeSession login.sessionPath c.session (.ok ())]

/-- How a login has come to where it is, unless it has failed. -/
def LoginTraced (login : DeviceLogin) (events : List LoginEvent) : LoginPhase → Prop
  | .discovering => events = []
  | .authorizing metadata => ∃ discovered, discoverOidcMetadata discovered = .ok metadata ∧
      events = [.fetchJson (discoveryUrl login.config.issuer) (.ok discovered)]
  | .authorized metadata authorization => ∃ discovered authorized,
      discoverOidcMetadata discovered = .ok metadata ∧
      beginDeviceAuthorization login.lib authorized = .ok authorization ∧
      events = [.fetchJson (discoveryUrl login.config.issuer) (.ok discovered),
        .postForm (deviceEndpoint login.config (some metadata)) (deviceForm login.config)
          (.ok authorized)]
  | .checking p => ∃ (o : Opening login) (rounds : List (PollRound login)), o.InTime rounds ∧
      p = o.polling rounds ∧ events = o.history rounds
  | .polling p => ∃ (o : Opening login) (rounds : List (PollRound login)) (reading : ClockReading),
      o.InTime rounds ∧ reading.seconds < o.deadline ∧ p = o.polling rounds ∧
      events = o.history rounds ++ [.monotonic reading]
  | .sleeping p => ∃ (o : Opening login) (rounds : List (PollRound login)) (r : PollRound login),
      o.InTime (rounds ++ [r]) ∧ p = o.polling (rounds ++ [r]) ∧
      events = o.history rounds ++ [.monotonic r.reading, o.poll (.ok r.answer)]
  | .fetchingKeys metadata tokens => ∃ a : AcceptedLogin login, metadata = a.metadata ∧
      tokens = a.tokens ∧ events = a.events
  | .issuing claims => ∃ v : VerifiedLogin login, claims = v.claims ∧ events = v.events
  | .writing session => ∃ c : CompletedLogin login, session = c.session ∧
      events = c.toVerifiedLogin.events ++ [.draw c.issuedAt c.sessionId]
  | .returned session => ∃ c : CompletedLogin login, session = c.session ∧ events = c.events
  | .raised _ => True

section

variable {login : DeviceLogin}

/-- Where a login goes on to is traced if it is for whatever is read. -/
theorem traced_after {α β : Type} {events : List LoginEvent} {answer : Except String α}
    {read : α → Except LoginFault β} {next : β → LoginPhase}
    (h : ∀ a b, answer = .ok a → read a = .ok b → LoginTraced login events (next b)) :
    LoginTraced login events (.after (received answer read) next) := by
  cases answer with
  | error detail => trivial
  | ok a =>
      unfold received
      cases hread : read a with
      | ok b =>
          simp only [hread]
          exact h a b rfl hread
      | error fault =>
          simp only [hread]
          trivial

variable (login) in
/-- **What becomes of a poll**: tokens, a pause, or a failure. -/
theorem afterPoll_cases (p : Polling) (answer : Except String Json) :
    (∃ data tokens, answer = .ok data ∧ pollDeviceToken login.lib data = .ok tokens ∧
      afterPoll login p answer = .fetchingKeys p.metadata tokens) ∨
    (∃ data slow, answer = .ok data ∧
      pollDeviceToken login.lib data = .error (if slow = true then .slowDown else .pending) ∧
      afterPoll login p answer =
        .sleeping { p with interval := p.interval + if slow = true then 5 else 0 }) ∨
    ∃ fault, afterPoll login p answer = .raised fault := by
  unfold afterPoll
  cases answer with
  | error detail => exact .inr (.inr ⟨_, rfl⟩)
  | ok data =>
      unfold received
      cases hread : pollDeviceToken login.lib data with
      | ok tokens => exact .inl ⟨data, tokens, rfl, hread, by simp only [hread]⟩
      | error fault =>
          simp only [hread]
          cases fault with
          | pending => exact .inr (.inl ⟨data, false, rfl, hread, by simp⟩)
          | slowDown => exact .inr (.inl ⟨data, true, rfl, hread, by simp⟩)
          | _ => exact .inr (.inr ⟨_, rfl⟩)

theorem pause_concat (o : Opening login) (rounds : List (PollRound login)) (r : PollRound login) :
    o.pause (rounds ++ [r]) = o.pause rounds + if r.slow = true then 5 else 0 := by
  unfold Opening.pause
  rw [List.countP_append, List.countP_singleton]
  split
  · omega
  · omega

/-- A poll in time leads to tokens or to a pause, unless it fails. -/
theorem traced_afterPoll {o : Opening login} {rounds : List (PollRound login)}
    {reading : ClockReading} (hintime : o.InTime rounds) (hreading : reading.seconds < o.deadline)
    (answer : Except String Json) :
    LoginTraced login (o.history rounds ++ [.monotonic reading] ++ [o.poll answer])
      (afterPoll login (o.polling rounds) answer) := by
  rcases afterPoll_cases login (o.polling rounds) answer with
    ⟨data, tokens, rfl, hread, hafter⟩ | ⟨data, slow, rfl, hread, hafter⟩ | ⟨fault, hafter⟩
  · rw [hafter]
    refine ⟨⟨o, rounds, hintime, reading, hreading, data, tokens, hread⟩, rfl, rfl, ?_⟩
    exact List.append_assoc _ _ _
  · rw [hafter]
    refine ⟨o, rounds, ⟨reading, data, slow, hread⟩, ?_, ?_, List.append_assoc _ _ _⟩
    · intro r hr
      rcases List.mem_append.1 hr with hr | hr
      · exact hintime r hr
      · rw [List.mem_singleton.1 hr]
        exact hreading
    · unfold Opening.polling
      rw [pause_concat]
  · rw [hafter]
    trivial

/-- **A step leads from where a login has come to where it has then come.** -/
theorem loginTraced_next (events : List LoginEvent) (phase : LoginPhase) (e : LoginEvent)
    (phase' : LoginPhase) (htraced : LoginTraced login events phase)
    (hnext : (loginOnce login).next phase e = some phase') :
    LoginTraced login (events ++ [e]) phase' := by
  change loginNext login phase e = some phase' at hnext
  unfold loginNext at hnext
  split at hnext
  · next url answer =>
      split at hnext
      · next hurl =>
          cases hnext
          obtain rfl := hurl
          cases htraced
          refine traced_after fun data metadata hanswer hread => ?_
          subst hanswer
          exact ⟨data, hread, rfl⟩
      · cases hnext
  · next metadata url form answer =>
      split at hnext
      · next hsent =>
          cases hnext
          obtain ⟨rfl, rfl⟩ := hsent
          obtain ⟨discovered, hmetadata, rfl⟩ := htraced
          refine traced_after fun data authorization hanswer hread => ?_
          subst hanswer
          exact ⟨discovered, data, hmetadata, hread, rfl⟩
      · cases hnext
  · next metadata authorization reading =>
      cases hnext
      obtain ⟨discovered, authorized, hmetadata, hauthorization, rfl⟩ := htraced
      cases hdeadline : deadlineAfter reading authorization.expiresIn with
      | error fault => trivial
      | ok deadline =>
          refine ⟨⟨discovered, metadata, hmetadata, authorized, authorization, hauthorization,
            reading, deadline, hdeadline⟩, [], fun r hr => absurd hr List.not_mem_nil, ?_, rfl⟩
          simp [Opening.polling, Opening.pause]
  · next p reading =>
      obtain ⟨o, rounds, hintime, rfl, rfl⟩ := htraced
      split at hnext
      · cases hnext
        trivial
      · next hlate =>
          cases hnext
          exact ⟨o, rounds, reading, hintime, not_le.1 hlate, rfl, rfl⟩
  · next p url form answer =>
      split at hnext
      · next hsent =>
          cases hnext
          obtain ⟨rfl, rfl⟩ := hsent
          obtain ⟨o, rounds, reading, hintime, hreading, rfl, rfl⟩ := htraced
          exact traced_afterPoll hintime hreading answer
      · cases hnext
  · next p seconds answer =>
      split at hnext
      · next hseconds =>
          cases hnext
          obtain rfl := hseconds
          obtain ⟨o, rounds, r, hintime, rfl, rfl⟩ := htraced
          refine traced_after fun done _ hanswer _ => ?_
          subst hanswer
          refine ⟨o, rounds ++ [r], hintime, rfl, ?_⟩
          rw [o.history_concat, List.append_assoc]
          rfl
      · cases hnext
  · next metadata tokens url answer =>
      split at hnext
      · next hurl =>
          cases hnext
          obtain ⟨a, rfl, rfl, rfl⟩ := htraced
          obtain rfl := hurl
          refine traced_after fun jwks claims hanswer hread => ?_
          subst hanswer
          exact ⟨⟨a, jwks, claims, (parseIdToken_eq_ok_iff login.lib).1 hread⟩, rfl, rfl⟩
      · cases hnext
  · next claims issuedAt sessionId =>
      cases hnext
      obtain ⟨v, rfl, rfl⟩ := htraced
      exact ⟨⟨v, issuedAt, sessionId⟩, rfl, rfl⟩
  · next session path written answer =>
      split at hnext
      · next hsent =>
          cases hnext
          obtain ⟨rfl, rfl⟩ := hsent
          obtain ⟨c, rfl, rfl⟩ := htraced
          refine traced_after fun done _ hanswer _ => ?_
          subst hanswer
          exact ⟨c, rfl, List.append_assoc _ _ _⟩
      · cases hnext
  · cases hnext

/-- **How a login has come to where it is.** -/
theorem loginTraced_run {events : List LoginEvent} {phase : LoginPhase}
    (h : (loginOnce login).run events = some phase) : LoginTraced login events phase :=
  @Dialogue.run_traced _ _ (loginOnce login) phase events (LoginTraced login)
    (show LoginTraced login [] .discovering from rfl) loginTraced_next h

/-! ### The logins that end with a session -/

/-- What is read is gone on from. -/
theorem after_received {α β : Type} {a : α} {b : β} {read : α → Except LoginFault β}
    (h : read a = .ok b) (next : β → LoginPhase) :
    LoginPhase.after (received (.ok a) read) next = next b := by
  unfold received
  simp only [h]
  rfl

/-- A login can begin so. -/
theorem runFrom_opening (o : Opening login) :
    (loginOnce login).run o.events = some (.checking (o.polling [])) := by
  refine Dialogue.runFrom_cons_eq_some_iff.2 ⟨.authorizing o.metadata, ?_, ?_⟩
  · exact (if_pos rfl).trans (congrArg some (after_received o.metadata_eq _))
  · refine Dialogue.runFrom_cons_eq_some_iff.2 ⟨.authorized o.metadata o.authorization, ?_, ?_⟩
    · exact (if_pos ⟨rfl, rfl⟩).trans (congrArg some (after_received o.authorization_eq _))
    · refine Dialogue.runFrom_cons_eq_some_iff.2 ⟨.checking (o.polling []), ?_, rfl⟩
      change some (LoginPhase.after (deadlineAfter o.startedAt o.authorization.expiresIn) _) = _
      rw [o.deadline_eq]
      simp [LoginPhase.after, Opening.polling, Opening.pause]

/-- A reading in time leads to a poll. -/
theorem next_checking {p : Polling} {reading : ClockReading} (h : reading.seconds < p.deadline) :
    (loginOnce login).next (.checking p) (.monotonic reading) = some (.polling p) :=
  if_neg (not_le.2 h)

/-- A poll leads to what becomes of it. -/
theorem next_polling (o : Opening login) (rounds : List (PollRound login))
    (answer : Except String Json) :
    (loginOnce login).next (.polling (o.polling rounds)) (o.poll answer) =
      some (afterPoll login (o.polling rounds) answer) :=
  if_pos ⟨rfl, rfl⟩

/-- A round leads to the next one. -/
theorem runFrom_round {o : Opening login} (rounds : List (PollRound login)) {r : PollRound login}
    (h : r.reading.seconds < o.deadline) :
    (loginOnce login).runFrom (.checking (o.polling rounds)) (o.roundEvents rounds r) =
      some (.checking (o.polling (rounds ++ [r]))) := by
  refine Dialogue.runFrom_cons_eq_some_iff.2 ⟨_, next_checking h, ?_⟩
  refine Dialogue.runFrom_cons_eq_some_iff.2 ⟨_, next_polling o rounds _, ?_⟩
  refine Dialogue.runFrom_cons_eq_some_iff.2 ⟨.checking (o.polling (rounds ++ [r])), ?_, rfl⟩
  have hafter : afterPoll login (o.polling rounds) (.ok r.answer) =
      .sleeping (o.polling (rounds ++ [r])) := by
    unfold afterPoll received Opening.polling
    rw [pause_concat]
    simp only [r.answer_eq]
    cases r.slow with
    | true => rfl
    | false => simp
  rw [hafter]
  exact if_pos rfl

/-- **Rounds in time can follow the beginning.** -/
theorem run_history {o : Opening login} {rounds : List (PollRound login)} (h : o.InTime rounds) :
    (loginOnce login).run (o.history rounds) = some (.checking (o.polling rounds)) := by
  induction rounds using List.reverseRecOn with
  | nil =>
      unfold Opening.history
      rw [show o.roundsAfter [] [] = [] from rfl, List.append_nil]
      exact runFrom_opening o
  | append_singleton rounds r ih =>
      rw [o.history_concat]
      refine Dialogue.runFrom_append_eq_some_iff.2 ⟨_, ih fun r' hr => ?_, ?_⟩
      · exact h r' (List.mem_append_left _ hr)
      · exact runFrom_round rounds (h r (List.mem_append_right _ (List.mem_singleton_self r)))

/-- A login that was given tokens has come to them. -/
theorem run_accepted (a : AcceptedLogin login) :
    (loginOnce login).run a.events = some (.fetchingKeys a.metadata a.tokens) := by
  refine Dialogue.runFrom_append_eq_some_iff.2 ⟨_, run_history a.inTime, ?_⟩
  refine Dialogue.runFrom_cons_eq_some_iff.2 ⟨_, next_checking a.reading_lt, ?_⟩
  refine Dialogue.runFrom_cons_eq_some_iff.2 ⟨_, next_polling _ _ _, ?_⟩
  unfold afterPoll received
  simp only [a.tokens_eq]
  rfl

/-- A login whose user was verified has come to that. -/
theorem run_verified (v : VerifiedLogin login) :
    (loginOnce login).run v.events = some (.issuing v.claims) := by
  refine Dialogue.runFrom_concat_eq_some_iff.2 ⟨_, run_accepted v.toAcceptedLogin, ?_⟩
  exact (if_pos rfl).trans (congrArg some (after_received ((parseIdToken_eq_ok_iff _).2 v.verified) _))

theorem run_completed (c : CompletedLogin login) :
    (loginOnce login).run c.events = some (.returned c.session) := by
  refine Dialogue.runFrom_append_eq_some_iff.2 ⟨_, run_verified c.toVerifiedLogin, ?_⟩
  refine Dialogue.runFrom_cons_eq_some_iff.2 ⟨_, rfl, ?_⟩
  refine Dialogue.runFrom_cons_eq_some_iff.2 ⟨.returned c.session, ?_, rfl⟩
  exact if_pos ⟨rfl, rfl⟩

/-- The session that is written, with the grants of its groups. -/
theorem CompletedLogin.session_eq (c : CompletedLogin login) : c.session =
    { session := buildActorSession c.claims.sub c.claims.email c.sessionId c.issuedAt
      approvalGrants := (login.mapping.filter (·.group ∈ c.claims.groups)).map fun m =>
        ⟨m.scope, m.capability⟩
      groups := c.claims.groups
      resolvedAt := c.issuedAt
      createdAt := c.issuedAt } :=
  congrArg (fun grants : GrantResolution => issueActorSession c.claims grants.executionGrants
    grants.approvalGrants c.sessionId c.issuedAt)
      (resolveGroupGrants_eq login.lib c.claims.groups login.mapping)

/-- **The logins that end with a session are the completed ones**: the provider told about itself
and gave a device code, every poll was sent before the code expired, the last one brought tokens,
the identity was verified with the keys of the provider, and the session has its subject and its
email, the approval grants of its groups, and no grant to execute. -/
theorem device_login_completes_iff (login : DeviceLogin) (events : List LoginEvent)
    (session : IssuedActorSession) :
    (loginOnce login).run events = some (.returned session) ↔
      ∃ c : CompletedLogin login, events = c.events ∧ session =
        { session := buildActorSession c.claims.sub c.claims.email c.sessionId c.issuedAt
          approvalGrants := (login.mapping.filter (·.group ∈ c.claims.groups)).map fun m =>
            ⟨m.scope, m.capability⟩
          groups := c.claims.groups
          resolvedAt := c.issuedAt
          createdAt := c.issuedAt } := by
  constructor
  · intro h
    obtain ⟨c, rfl, rfl⟩ := loginTraced_run h
    exact ⟨c, rfl, c.session_eq⟩
  · rintro ⟨c, rfl, rfl⟩
    rw [← c.session_eq]
    exact run_completed c

/-! ### How the client polls -/

/-- The clock goes on between two readings by at least the pause between them. -/
def Opening.Elapses (o : Opening login) :
    List (PollRound login) → ℚ → List (PollRound login) → ClockReading → Prop
  | _, since, [], reading => since ≤ reading.seconds
  | before, since, r :: rounds, reading =>
      since ≤ r.reading.seconds ∧
        Elapses o (before ++ [r]) (r.reading.seconds + o.pause (before ++ [r])) rounds reading

/-- No pause is shorter than the interval that was asked for. -/
theorem interval_le_pause (o : Opening login) (rounds : List (PollRound login)) :
    o.authorization.interval ≤ o.pause rounds := by
  unfold Opening.pause
  omega

/-- Where the clock goes on, it goes on by an interval for each round. -/
theorem elapsed_le {o : Opening login} {before rounds : List (PollRound login)} {since : ℚ}
    {reading : ClockReading} (h : o.Elapses before since rounds reading) :
    since + (rounds.length * o.authorization.interval : ℤ) ≤ reading.seconds := by
  induction rounds generalizing before since with
  | nil => simpa [Opening.Elapses] using h
  | cons r rounds ih =>
      obtain ⟨hsince, hrest⟩ := h
      have hlater := ih hrest
      have hpause : (o.authorization.interval : ℚ) ≤ o.pause (before ++ [r]) :=
        Int.cast_le.2 (interval_le_pause o _)
      push_cast [List.length_cons] at hlater ⊢
      linarith

/-- The poll that comes after this: it is sent to the token endpoint, for the device code that was
given, at a reading before the code expires, and after rounds that were refused for now, each of
them followed by its pause. -/
structure PacedPoll (login : DeviceLogin) (pre : List LoginEvent) (e : LoginEvent) where
  opening : Opening login
  rounds : List (PollRound login)
  inTime : opening.InTime rounds
  reading : ClockReading
  reading_lt : reading.seconds < opening.deadline
  pre_eq : pre = opening.history rounds ++ [.monotonic reading]
  sent : ∃ answer, e = opening.poll answer

/-- The rounds before a poll are fewer than fit before the code expires. -/
theorem PacedPoll.rounds_lt {pre : List LoginEvent} {e : LoginEvent} (p : PacedPoll login pre e)
    (h : p.opening.Elapses [] p.opening.startedAt.seconds p.rounds p.reading) :
    p.rounds.length * p.opening.authorization.interval < p.opening.authorization.expiresIn :=
  elapsed_lt p.opening.deadline_eq p.reading_lt (elapsed_le h)

/-- What is asked for a device code does not ask for tokens. -/
theorem grantType_notMem_deviceForm (config : OIDCDeviceClientConfig) :
    ("grant_type", deviceCodeGrant) ∉ deviceForm config := by
  simp [deviceForm]

end

/-- **A client polls in time and paces its polls**, in every login, completed or not: before each
poll the clock is read and the code has not expired; between two polls there is one pause, of the
interval that was asked for and five seconds more for each time the client was told to slow down;
and where the clock keeps going, the polls are fewer than intervals fit in until the code expires. -/
theorem device_login_paced (login : DeviceLogin) {pre post : List LoginEvent} {url : String}
    {form : List (String × String)} {answer : Except String Json} {phase : LoginPhase}
    (hrun : (loginOnce login).run (pre ++ .postForm url form answer :: post) = some phase)
    (hpoll : ("grant_type", deviceCodeGrant) ∈ form) :
    ∃ p : PacedPoll login pre (.postForm url form answer),
      p.opening.Elapses [] p.opening.startedAt.seconds p.rounds p.reading →
        p.rounds.length * p.opening.authorization.interval < p.opening.authorization.expiresIn := by
  obtain ⟨before, after, hpre, hnext, -⟩ := Dialogue.exists_of_run_split hrun
  have htraced := loginTraced_run hpre
  change loginNext login before _ = some after at hnext
  unfold loginNext at hnext
  -- only two phases await that something is posted
  split at hnext
  · next h => cases h
  · next metadata url' form' answer' h =>
      cases h
      split at hnext
      · next hsent =>
          rw [hsent.2] at hpoll
          exact absurd hpoll (grantType_notMem_deviceForm _)
      · cases hnext
  · next h => cases h
  · next h => cases h
  · next p url' form' answer' h =>
      cases h
      split at hnext
      · next hsent =>
          obtain ⟨rfl, rfl⟩ := hsent
          obtain ⟨o, rounds, reading, hintime, hreading, rfl, rfl⟩ := htraced
          exact ⟨⟨o, rounds, hintime, reading, hreading, rfl, answer, rfl⟩, PacedPoll.rounds_lt _⟩
      · cases hnext
  · next h => cases h
  · next h => cases h
  · next h => cases h
  · next h => cases h
  · cases hnext

/-! ### A user who is slow -/

/-- Libraries that know one key, one token, and two numbers. -/
def oneKeyLibrary : LoginLibrary where
  Key := Unit
  unverifiedKid _ := .ok (some "k1")
  keySet _ := .ok [⟨.str "k1", "RS256", ()⟩]
  decode token _ _ _ _ :=
    if token = "id" then
      .ok (.ofPairs [("sub", .str "user_alice"), ("email", .str "alice@example.com"),
        ("groups", .arr [.str "approvers"])])
    else .error (.invalidToken "Not enough segments")
  toInt v :=
    match v with
    | .number n => if n.text = "600" then some 600 else if n.text = "5" then some 5 else none
    | _ => none
  repr := fun text => "'" ++ text ++ "'"

/-- A login at a provider. -/
def aliceLogin : DeviceLogin where
  lib := oneKeyLibrary
  config := ⟨"https://id.example/", "platformops", "platformops", ["openid", "email", "profile"]⟩
  mapping := []
  sessionPath := ".platformops/session.json"

/-- What the provider answers. -/
def aliceOpening : Opening aliceLogin where
  discovered := .obj [("issuer", .str "https://id.example/"),
    ("token_endpoint", .str "https://id.example/token"),
    ("jwks_uri", .str "https://id.example/jwks")]
  metadata := ⟨"https://id.example/", "https://id.example/token", "https://id.example/jwks", none⟩
  metadata_eq := rfl
  authorized := .obj [("device_code", .str "device-1"), ("user_code", .str "ABCD"),
    ("verification_uri", .str "https://id.example/activate"), ("expires_in", .number (.ofNat 600))]
  authorization := ⟨"device-1", "ABCD", "https://id.example/activate", none, 600, 5⟩
  authorization_eq := rfl
  startedAt := .ofNat 0 (by decide)
  deadline := 600
  deadline_eq := by
    have hround : binary64.round 600 = 600 := by exact_mod_cast round_intCast (n := 600) (by decide)
    have hfinite : (600 : ℚ) < 2 ^ 1024 :=
      lt_of_lt_of_le (by norm_num) (pow_le_pow_right₀ one_le_two (by decide : 10 ≤ 1024))
    refine deadlineAfter_eq_ok_iff.2 ⟨?_, ?_⟩
    · push_cast
      rwa [hround, abs_of_pos (by norm_num)]
    · push_cast
      rw [hround, show (ClockReading.ofNat 0 (by decide)).seconds = 0 from Nat.cast_zero, zero_add,
        hround]

/-- A poll that came too soon. -/
def aliceRound : PollRound aliceLogin :=
  ⟨.ofNat 1 (by decide), .obj [("error", .str "slow_down")], true, rfl⟩

theorem run_aliceHistory :
    (loginOnce aliceLogin).run (aliceOpening.history [aliceRound]) =
      some (.checking (aliceOpening.polling [aliceRound])) := by
  refine run_history fun r hr => ?_
  rw [List.mem_singleton.1 hr]
  norm_num [ClockReading.ofNat, aliceRound, aliceOpening]

/-- A reading ten seconds later. -/
def aliceReading : ClockReading := .ofNat 11 (by decide)

/-- **Alice is polled for again** after she was slow, ten seconds later. -/
theorem alice_polled_again :
    ∃ p : PacedPoll aliceLogin (aliceOpening.history [aliceRound] ++ [.monotonic aliceReading])
        (aliceOpening.poll (.error "timed out")),
      p.opening.Elapses [] p.opening.startedAt.seconds p.rounds p.reading →
        p.rounds.length * p.opening.authorization.interval < p.opening.authorization.expiresIn := by
  have htimely : aliceReading.seconds < (aliceOpening.polling [aliceRound]).deadline := by
    norm_num [aliceReading, ClockReading.ofNat, Opening.polling, aliceOpening]
  have hrun : (loginOnce aliceLogin).run (aliceOpening.history [aliceRound] ++
      [.monotonic aliceReading] ++ aliceOpening.poll (.error "timed out") :: []) =
        some (.raised (.external "timed out")) := by
    refine Dialogue.runFrom_concat_eq_some_iff.2
      ⟨_, ?_, next_polling aliceOpening [aliceRound] (.error "timed out")⟩
    exact Dialogue.runFrom_concat_eq_some_iff.2 ⟨_, run_aliceHistory, next_checking htimely⟩
  exact device_login_paced aliceLogin hrun (List.mem_cons_self ..)

end PlatformOps
