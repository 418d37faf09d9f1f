/-
**Browser sessions.**

A browser session is a record on the server, and a token in a cookie that names it: the claims of
the session, tagged under the current signing key.  The gateway believes a token if its tag is right
under a key it still verifies with, its claims are the ones it writes, and the record it names is
active.  A mutation needs the origin of the gateway and the proof that was issued with the session
as well.

How claims are written as text, and what the tags are, is the business of the token library.

Main definitions:

* `timestampSeconds` — the whole seconds of an instant;
* `BrowserSession`, `SigningKey`, `SigningKeys` — records, and the keys of a provider;
* `TokenLibrary`, `decodeToken` — tokens, and what a key makes of one;
* `BrowserSessionRepository`, `BrowserSessionIssuer` — the store and the issuer;
* `issue`, `authenticateIdentity`, `authenticateMutation`, `logout` — the operations of the gateway;
* `inMemorySessions` — the store in memory.

Main results:

* `timestampSeconds_mono`, `timestampSeconds_of_nonneg` — whole seconds keep the order, and are those
  of the instant up to the year 2514;
* `checkClaims_sessionClaims` — when the claims of a session hold;
* `signSession_spec` — the session an issuer signs;
* `authenticateIdentity_eq_ok` — **a token is believed only if it is tagged under a verification key
  and names an active session of its subject**.
-/

import PlatformOps.Binary64
import PlatformOps.Registration

set_option relaxedAutoImplicit false
set_option autoImplicit false

namespace PlatformOps

/-! ### Whole seconds -/

/-- `int(t.timestamp())` of an instant in microseconds since the epoch: the seconds are divided into
a floating point number, and what is after its point is left out. -/
def timestampSeconds (t : ℤ) : ℤ := truncate (binary64.round (t / (second : ℤ)))

theorem second_pos : (0 : ℤ) < second := by decide

theorem timestampSeconds_mono {t u : ℤ} (h : t ≤ u) : timestampSeconds t ≤ timestampSeconds u := by
  refine truncate_mono (BinaryFormat.round_mono ?_)
  have hpos : (0 : ℚ) < (second : ℤ) := by exact_mod_cast second_pos
  exact div_le_div_of_nonneg_right (by exact_mod_cast h) hpos.le

theorem timestampSeconds_neg (t : ℤ) : timestampSeconds (-t) = -timestampSeconds t := by
  unfold timestampSeconds
  rw [Int.cast_neg, neg_div, BinaryFormat.round_neg, truncate_neg]

/-- **Up to the year 2514 the whole seconds of an instant are those it has**: the division is off by
less than a microsecond. -/
theorem timestampSeconds_of_nonneg {t : ℤ} (ht : 0 ≤ t) (hlt : t < 2 ^ 34 * second) :
    timestampSeconds t = t / second := by
  have hsecond : ((second : ℤ) : ℚ) = 1000000 := by norm_num [second]
  have hmod := Int.emod_add_mul_ediv t second
  have hrest := Int.emod_lt_of_pos t second_pos
  have hnonneg := Int.emod_nonneg t second_pos.ne'
  have hwhole : 0 ≤ t / second := Int.ediv_nonneg ht second_pos.le
  have hseconds : t / second < 2 ^ 34 := Int.ediv_lt_of_lt_mul second_pos hlt
  generalize hk : t / second = k at hmod hwhole hseconds ⊢
  generalize hq : (t : ℚ) / (second : ℤ) = q
  have hqt : (t : ℚ) = q * 1000000 := by
    rw [← hq, hsecond]
    field_simp
  have hlower : (k : ℚ) ≤ q := by
    have hle : k * 1000000 ≤ t := by
      simp only [second] at hmod hnonneg
      omega
    have hle' : (k : ℚ) * 1000000 ≤ t := by exact_mod_cast hle
    linarith
  have hupper : q + 1 / 1000000 ≤ k + 1 := by
    have hle : t + 1 ≤ (k + 1) * 1000000 := by
      simp only [second] at hmod hrest
      omega
    have hle' : (t : ℚ) + 1 ≤ (k + 1) * 1000000 := by exact_mod_cast hle
    linarith
  have hrep : binary64.Representable k := by
    refine BinaryFormat.representable_intCast (by decide) ?_
    rw [abs_of_nonneg hwhole]
    exact hseconds.trans (by decide)
  have hfrom : (k : ℚ) ≤ binary64.round q := hrep.le_round hlower
  have hto : binary64.round q < k + 1 := by
    have hpos : 0 ≤ q := le_trans (by exact_mod_cast hwhole) hlower
    have habs : |q| < 2 ^ (34 : ℤ) := by
      rw [abs_of_nonneg hpos]
      have hk' : (k : ℚ) + 1 ≤ 2 ^ 34 := by exact_mod_cast hseconds
      norm_num at hk' ⊢
      linarith
    have hscale := zpow_le_zpow_right₀ (one_le_two (α := ℚ))
      (BinaryFormat.exponent_le (f := binary64) habs)
    have hmax : max ((34 : ℤ) - binary64.precision) binary64.minExponent = -19 := by decide
    rw [hmax] at hscale
    have hnear := (abs_le.1 (BinaryFormat.round_near (f := binary64) q)).2
    norm_num at hscale
    linarith
  rw [timestampSeconds, hq, truncate_of_nonneg (le_trans (by exact_mod_cast hwhole) hfrom)]
  exact Int.floor_eq_iff.2 ⟨hfrom, by exact_mod_cast hto⟩

/-! ### Records -/

/-- A session as the server keeps it. -/
@[ext] structure BrowserSession where
  sessionId : String
  subject : String
  csrfProofDigest : HexDigest
  createdAt : ℤ
  expiresAt : ℤ
  revokedAt : Option ℤ
  revocationReason : Option String
  sessionId_length : 8 ≤ sessionId.length
  subject_length : 5 ≤ subject.length
  lifetime : createdAt < expiresAt
  reason_revoked : revocationReason ≠ none → revokedAt ≠ none

instance : DecidableEq BrowserSession := fun _ _ =>
  decidable_of_iff _ BrowserSession.ext_iff.symm

/-- The session is neither revoked nor over at this time. -/
def BrowserSession.IsActive (session : BrowserSession) (now : ℤ) : Prop :=
  session.revokedAt = none ∧ now < session.expiresAt

instance (session : BrowserSession) (now : ℤ) : Decidable (session.IsActive now) :=
  inferInstanceAs (Decidable (_ ∧ _))

/-- The session once it is revoked. -/
def BrowserSession.revoke (session : BrowserSession) (reason : String) (now : ℤ) : BrowserSession :=
  { session with
    revokedAt := some now
    revocationReason := some reason
    reason_revoked := by simp }

/-- A key with its id. -/
structure SigningKey where
  keyId : String
  secret : List UInt8
  deriving DecidableEq

/-- `StaticBrowserSessionSigningKeyProvider`: the current key, and the earlier ones that still
verify. -/
structure SigningKeys where
  current : SigningKey
  previous : List SigningKey
  strong : ∀ key ∈ previous ++ [current], key.keyId ≠ "" ∧ 32 ≤ key.secret.length
  keyIds_nodup : ((previous ++ [current]).map SigningKey.keyId).Nodup

/-- The keys that verify. -/
def SigningKeys.verificationKeys (keys : SigningKeys) : Dict String SigningKey :=
  .ofPairs ((keys.previous ++ [keys.current]).map fun key => (key.keyId, key))

/-! ### Tokens -/

/-- The value of a claim. -/
inductive ClaimValue
  | int (value : ℤ)
  | text (value : String)
  | other
  deriving DecidableEq

/-- The token library: the text of a header with its key id and of claims, and the tag of a text. -/
structure TokenLibrary where
  signingInput : String → List (String × ClaimValue) → String
  headerKeyId : String → Option String
  claims : String → Option (Dict String ClaimValue)
  hs256 : List UInt8 → String → List UInt8
  encodeTag : List UInt8 → String
  decodeTag : String → Option (List UInt8)

/-- What stands before and after the last dot of a token. -/
def splitToken (token : String) : Option (String × String) :=
  if '.' ∈ token.toList then
    let reversed := token.toList.reverse
    some (String.ofList ((reversed.dropWhile (· ≠ '.')).drop 1).reverse,
      String.ofList (reversed.takeWhile (· ≠ '.')).reverse)
  else none

/-- `jwt.encode`. -/
def TokenLibrary.encode (library : TokenLibrary) (key : SigningKey)
    (claims : List (String × ClaimValue)) : String :=
  let input := library.signingInput key.keyId claims
  input ++ "." ++ library.encodeTag (library.hs256 key.secret input)

/-- The claims of a token, if its tag is right under the key. -/
def decodeToken (library : TokenLibrary) (token : String) (secret : List UInt8) :
    Option (Dict String ClaimValue) :=
  match splitToken token with
  | none => none
  | some (input, segment) =>
      if library.decodeTag segment = some (library.hs256 secret input) then library.claims input
      else none

/-- The issuer of the sessions. -/
def platformopsBrowserSessionIssuer : String := "platformops"

/-- The claims of a session.  Instants are in whole seconds. -/
def sessionClaims (audience : String) (session : BrowserSession) : List (String × ClaimValue) :=
  [("iss", .text platformopsBrowserSessionIssuer), ("sub", .text session.subject),
    ("sid", .text session.sessionId), ("aud", .text audience),
    ("iat", .int (timestampSeconds session.createdAt)),
    ("exp", .int (timestampSeconds session.expiresAt))]

/-- What the gateway takes from the claims of a token. -/
structure VerifiedClaims where
  sub : String
  sid : String
  deriving DecidableEq

/-- The claims a token must have, and no others. -/
def requiredClaims : List String := ["iss", "sub", "sid", "aud", "iat", "exp"]

/-- The claims are the ones an issuer writes, for this audience, and the time is between them. -/
def checkClaims (audience : String) (claims : Dict String ClaimValue) (now : ℤ) :
    Option VerifiedClaims :=
  if claims.entries.all (fun entry => decide (entry.1 ∈ requiredClaims)) then
    match claims.get? "iss", claims.get? "sub", claims.get? "sid", claims.get? "aud",
      claims.get? "iat", claims.get? "exp" with
    | some (.text iss), some (.text sub), some (.text sid), some (.text aud), some (.int iat),
      some (.int exp) =>
        if iss = platformopsBrowserSessionIssuer ∧ aud = audience ∧ sub ≠ "" ∧ sid ≠ "" ∧
            iat ≤ timestampSeconds now ∧ timestampSeconds now < exp then
          some ⟨sub, sid⟩
        else none
    | _, _, _, _, _, _ => none
  else none

/-- The claims of a token that is tagged under the key its header names. -/
def verifyToken (library : TokenLibrary) (audience : String) (keys : SigningKeys) (token : String)
    (now : ℤ) : Option VerifiedClaims := do
  let keyId ← library.headerKeyId token
  let key ← keys.verificationKeys.get? keyId
  let claims ← decodeToken library token key.secret
  checkClaims audience claims now

/-! ### The gateway -/

/-- The store of the sessions. -/
structure BrowserSessionRepository (σ : Type) where
  create : BrowserSession → Action σ RegistrationFault Unit
  getActive : String → String → ℤ → Action σ RegistrationFault (Option BrowserSession)
  revoke : String → String → ℤ → Action σ RegistrationFault Unit

/-- The gateway: issuer and authenticator, with one key for the proofs. -/
structure BrowserGateway (σ : Type) where
  library : TokenLibrary
  repository : BrowserSessionRepository σ
  csrfHmac : String → HexDigest
  audience : String
  cookieName : String
  ttlSeconds : ℕ
  expectedOrigin : String
  audience_ne : audience ≠ ""
  cookieName_ne : cookieName ≠ ""
  expectedOrigin_ne : expectedOrigin ≠ ""
  ttlPositive : 0 < ttlSeconds

/-- What is generated for a session. -/
@[ext] structure GeneratedSession where
  sessionId : String
  csrfProof : String
  sessionId_length : 8 ≤ sessionId.length

instance : DecidableEq GeneratedSession := fun _ _ =>
  decidable_of_iff _ GeneratedSession.ext_iff.symm

/-- The cookie of a session. -/
structure BrowserSessionSetCookie where
  token : String
  name : String
  maxAgeSeconds : ℕ
  deriving DecidableEq

/-- What an issue returns. -/
structure BrowserSessionIssue where
  session : BrowserSession
  setCookie : BrowserSessionSetCookie
  csrfProof : String
  deriving DecidableEq

/-- Who a token is believed to be from. -/
structure ValidatedPrincipal where
  issuer : String
  subject : String
  deriving DecidableEq

/-- The one error of the authenticator. -/
def browserSessionAuthenticationError : RegistrationFault :=
  .external "BrowserSessionAuthenticationError" "invalid browser session"

section
variable {σ : Type} (gateway : BrowserGateway σ)

/-- `digest_csrf_proof`. -/
def digestCsrfProof (proof : String) : Except RegistrationFault HexDigest :=
  if proof = "" then .error (.valueError "CSRF proof cannot be empty")
  else .ok (gateway.csrfHmac proof)

/-- `build_browser_session`. -/
def buildBrowserSession (subject : String) (now : ℤ) (generated : GeneratedSession) :
    Except RegistrationFault BrowserSession := do
  let digest ← digestCsrfProof gateway generated.csrfProof
  if hsubject : 5 ≤ subject.length then
    have hlifetime : (0 : ℤ) < gateway.ttlSeconds * second :=
      mul_pos (Int.natCast_pos.2 gateway.ttlPositive) second_pos
    .ok ⟨generated.sessionId, subject, digest, now, now + gateway.ttlSeconds * second, none, none,
      generated.sessionId_length, hsubject, lt_add_of_pos_right now hlifetime, by simp⟩
  else .error (.validationError ⟨"BrowserSession", "subject"⟩)

/-- The session of an issue and its token. -/
def signSession (keys : SigningKeys) (subject : String) (now : ℤ) (generated : GeneratedSession) :
    Except RegistrationFault (BrowserSession × String) := do
  let session ← buildBrowserSession gateway subject now generated
  if keys.current.secret.length < 32 then
    .error (.valueError "browser session HS256 signing key must be at least 32 bytes")
  else
    .ok (session, gateway.library.encode keys.current (sessionClaims gateway.audience session))

/-- `BrowserSessionIssuer.issue`: the token is signed before the session is stored. -/
def issue (keys : SigningKeys) (subject : String) (now : ℤ) (generated : GeneratedSession) :
    Action σ RegistrationFault BrowserSessionIssue := do
  let (session, token) ← .ofExcept (signSession gateway keys subject now generated)
  gateway.repository.create session
  pure ⟨session, ⟨token, gateway.cookieName, gateway.ttlSeconds⟩, generated.csrfProof⟩

/-- `_authenticate_identity`: the principal of a token, and its session id. -/
def authenticateIdentity (keys : SigningKeys) (token : String) (now : ℤ) :
    Action σ RegistrationFault (ValidatedPrincipal × String) :=
  match verifyToken gateway.library gateway.audience keys token now with
  | none => .raise browserSessionAuthenticationError
  | some claims => do
      let session ← gateway.repository.getActive claims.sid claims.sub now
      match session with
      | none => .raise browserSessionAuthenticationError
      | some _ => pure (⟨platformopsBrowserSessionIssuer, claims.sub⟩, claims.sid)

/-- `authenticate`. -/
def authenticate (keys : SigningKeys) (token : String) (now : ℤ) :
    Action σ RegistrationFault ValidatedPrincipal := do
  let identity ← authenticateIdentity gateway keys token now
  pure identity.1

/-- `has_expected_origin`. -/
def hasExpectedOrigin (origin : Option String) : Bool := origin = some gateway.expectedOrigin

/-- `verify_csrf`. -/
def verifyCsrf (sessionId subject proof : String) (now : ℤ) : Action σ RegistrationFault Bool := do
  let session ← gateway.repository.getActive sessionId subject now
  match session with
  | none => pure false
  | some session => do
      let digest ← .ofExcept (digestCsrfProof gateway proof)
      pure (decide (session.csrfProofDigest = digest))

/-- `authenticate_mutation`.  The clock is read once for the token and once for the proof. -/
def authenticateMutation (keys : SigningKeys) (token : String) (origin csrfProof : Option String)
    (now later : ℤ) : Action σ RegistrationFault ValidatedPrincipal := do
  let identity ← authenticateIdentity gateway keys token now
  match csrfProof with
  | none => .raise browserSessionAuthenticationError
  | some proof =>
      if hasExpectedOrigin gateway origin = true ∧ proof ≠ "" then do
        let verified ← verifyCsrf gateway identity.2 identity.1.subject proof later
        if verified = true then pure identity.1 else .raise browserSessionAuthenticationError
      else .raise browserSessionAuthenticationError

/-- `logout`. -/
def logout (keys : SigningKeys) (token : String) (now later : ℤ) :
    Action σ RegistrationFault ValidatedPrincipal := do
  let identity ← authenticateIdentity gateway keys token now
  gateway.repository.revoke identity.2 "logout" later
  pure identity.1

end

/-! ### The store in memory -/

/-- `InMemoryBrowserSessionRepository.create`. -/
def createSession (sessions : Dict String BrowserSession) (session : BrowserSession) :
    Except RegistrationFault Unit × Dict String BrowserSession :=
  match sessions.get? session.sessionId with
  | some _ => (.error (.valueError "browser session already exists"), sessions)
  | none => (.ok (), sessions.set session.sessionId session)

/-- `InMemoryBrowserSessionRepository.get_active`. -/
def activeSession (sessions : Dict String BrowserSession) (sessionId subject : String) (now : ℤ) :
    Option BrowserSession :=
  match sessions.get? sessionId with
  | some session => if session.subject = subject ∧ session.IsActive now then some session else none
  | none => none

/-- `InMemoryBrowserSessionRepository.revoke`. -/
def revokeSession (sessions : Dict String BrowserSession) (sessionId reason : String) (now : ℤ) :
    Except RegistrationFault Unit × Dict String BrowserSession :=
  if reason = "" then (.error (.valueError "revocation reason cannot be empty"), sessions)
  else
    match sessions.get? sessionId with
    | some session => (.ok (), sessions.set sessionId (session.revoke reason now))
    | none => (.ok (), sessions)

/-- `InMemoryBrowserSessionRepository`. -/
def inMemorySessions : BrowserSessionRepository (Dict String BrowserSession) where
  create session := fun sessions => createSession sessions session
  getActive sessionId subject now := .read fun sessions =>
    activeSession sessions sessionId subject now
  revoke sessionId reason now := fun sessions => revokeSession sessions sessionId reason now

theorem activeSession_eq_some {sessions : Dict String BrowserSession} {sessionId subject : String}
    {now : ℤ} {session : BrowserSession}
    (h : activeSession sessions sessionId subject now = some session) :
    sessions.get? sessionId = some session ∧ session.subject = subject ∧ session.IsActive now := by
  unfold activeSession at h
  cases hget : sessions.get? sessionId with
  | none =>
      rw [hget] at h
      cases h
  | some stored =>
      rw [hget] at h
      dsimp only at h
      split at h
      · rename_i hactive
        cases h
        exact ⟨rfl, hactive.1, hactive.2⟩
      · cases h

/-- A token is taken apart where it was put together, if its tag is written without a dot. -/
theorem splitToken_append {input segment : String} (h : '.' ∉ segment.toList) :
    splitToken (input ++ "." ++ segment) = some (input, segment) := by
  have hchars : (input ++ "." ++ segment).toList = input.toList ++ '.' :: segment.toList := by
    simp
  have hreverse : (input ++ "." ++ segment).toList.reverse =
      segment.toList.reverse ++ '.' :: input.toList.reverse := by
    rw [hchars]
    simp
  have hall : ∀ c ∈ segment.toList.reverse, decide (c ≠ '.') = true := by
    intro c hc
    refine decide_eq_true ?_
    rintro rfl
    exact h (List.mem_reverse.1 hc)
  unfold splitToken
  rw [if_pos (by rw [hchars]; simp), hreverse]
  dsimp only
  rw [List.dropWhile_append_of_pos hall, List.takeWhile_append_of_pos hall]
  simp

theorem decodeToken_of_split {library : TokenLibrary} {token : String} {secret : List UInt8}
    {input segment : String} (h : splitToken token = some (input, segment)) :
    decodeToken library token secret =
      if library.decodeTag segment = some (library.hs256 secret input) then library.claims input
      else none := by
  unfold decodeToken
  rw [h]

/-! ### What the gateway signs and believes -/

theorem get?_sub_sessionClaims (audience : String) (session : BrowserSession) :
    (Dict.ofPairs (sessionClaims audience session)).get? "sub" = some (.text session.subject) := by
  rw [Dict.get?_ofPairs]
  rfl

theorem get?_sid_sessionClaims (audience : String) (session : BrowserSession) :
    (Dict.ofPairs (sessionClaims audience session)).get? "sid" =
      some (.text session.sessionId) := by
  rw [Dict.get?_ofPairs]
  rfl

/-- The claims of a session hold when the present is between its whole seconds. -/
theorem checkClaims_sessionClaims (audience : String) (session : BrowserSession) (now : ℤ) :
    checkClaims audience (.ofPairs (sessionClaims audience session)) now =
      if timestampSeconds session.createdAt ≤ timestampSeconds now ∧
          timestampSeconds now < timestampSeconds session.expiresAt then
        some ⟨session.subject, session.sessionId⟩
      else none := by
  have hsubject : session.subject ≠ "" := fun h => by
    have hlength := session.subject_length
    rw [h] at hlength
    exact absurd hlength (by decide)
  have hsessionId : session.sessionId ≠ "" := fun h => by
    have hlength := session.sessionId_length
    rw [h] at hlength
    exact absurd hlength (by decide)
  have hentries : (Dict.ofPairs (sessionClaims audience session)).entries =
      sessionClaims audience session :=
    Dict.entries_ofPairs (show requiredClaims.Nodup by decide)
  unfold checkClaims
  rw [hentries, if_pos (by rfl)]
  simp only [Dict.get?_ofPairs]
  show (if _ ∧ _ ∧ _ ∧ _ ∧ _ ∧ _ then _ else _) = _
  simp [hsubject, hsessionId]

section
variable {σ : Type} {gateway : BrowserGateway σ}

/-- The session an issuer signs is new, has the digest of its proof, and is not revoked. -/
theorem signSession_spec {keys : SigningKeys} {subject : String} {now : ℤ}
    {generated : GeneratedSession} {session : BrowserSession} {token : String}
    (h : signSession gateway keys subject now generated = .ok (session, token)) :
    session.sessionId = generated.sessionId ∧ session.subject = subject ∧
      session.csrfProofDigest = gateway.csrfHmac generated.csrfProof ∧ session.revokedAt = none ∧
      token = gateway.library.encode keys.current (sessionClaims gateway.audience session) := by
  obtain ⟨built, hbuilt, hsigned⟩ := bind_eq_ok_iff.1 h
  split at hsigned
  · cases hsigned
  · have hpair := Prod.mk.inj (Except.ok.inj hsigned)
    have hsession := hpair.1
    subst hsession
    obtain ⟨digest, hdigest, hrest⟩ := bind_eq_ok_iff.1 hbuilt
    unfold digestCsrfProof at hdigest
    split at hdigest
    · cases hdigest
    · cases hdigest
      split at hrest
      · have hsame := Except.ok.inj hrest
        subst hsame
        exact ⟨rfl, rfl, rfl, rfl, hpair.2.symm⟩
      · cases hrest

/-- A session is signed for every subject that fits, with a proof that is not empty. -/
theorem exists_signSession (gateway : BrowserGateway σ) (keys : SigningKeys) {subject : String}
    (now : ℤ)
    {generated : GeneratedSession} (hproof : generated.csrfProof ≠ "")
    (hsubject : 5 ≤ subject.length) :
    ∃ session token, signSession gateway keys subject now generated = .ok (session, token) := by
  have hkey : ¬ keys.current.secret.length < 32 :=
    Nat.not_lt.2 (keys.strong keys.current (by simp)).2
  have hbuild : ∃ session, buildBrowserSession gateway subject now generated = .ok session := by
    unfold buildBrowserSession digestCsrfProof
    rw [if_neg hproof]
    exact ⟨_, dif_pos hsubject⟩
  obtain ⟨session, hbuild⟩ := hbuild
  unfold signSession
  rw [hbuild]
  exact ⟨_, _, if_neg hkey⟩

theorem signSession_of_no_proof (keys : SigningKeys) (subject : String) (now : ℤ)
    {generated : GeneratedSession} (hproof : generated.csrfProof = "") :
    signSession gateway keys subject now generated =
      .error (.valueError "CSRF proof cannot be empty") := by
  unfold signSession buildBrowserSession digestCsrfProof
  rw [if_pos hproof]
  rfl

theorem checkClaims_eq_some {audience : String} {claims : Dict String ClaimValue} {now : ℤ}
    {verified : VerifiedClaims} (h : checkClaims audience claims now = some verified) :
    claims.get? "sub" = some (.text verified.sub) ∧
      claims.get? "sid" = some (.text verified.sid) := by
  unfold checkClaims at h
  split at h
  · split at h
    · rename_i iss sub sid aud iat exp hiss hsub hsid haud hiat hexp
      split at h
      · cases h
        exact ⟨hsub, hsid⟩
      · cases h
    · cases h
  · cases h

/-- A token that verifies is tagged under one of the verification keys, over its claims. -/
theorem verifyToken_eq_some {library : TokenLibrary} {audience : String} {keys : SigningKeys}
    {token : String} {now : ℤ} {verified : VerifiedClaims}
    (h : verifyToken library audience keys token now = some verified) :
    ∃ key ∈ keys.previous ++ [keys.current], ∃ input segment claims,
      splitToken token = some (input, segment) ∧
        library.decodeTag segment = some (library.hs256 key.secret input) ∧
        library.claims input = some claims ∧ checkClaims audience claims now = some verified := by
  obtain ⟨keyId, -, hrest⟩ := Option.bind_eq_some_iff.1 h
  obtain ⟨key, hkey, hrest⟩ := Option.bind_eq_some_iff.1 hrest
  obtain ⟨claims, hdecode, hcheck⟩ := Option.bind_eq_some_iff.1 hrest
  have hmem : key ∈ keys.previous ++ [keys.current] := by
    have hpair := Dict.mem_of_get?_ofPairs hkey
    obtain ⟨key', hmem, hsame⟩ := List.mem_map.1 hpair
    cases hsame
    exact hmem
  unfold decodeToken at hdecode
  split at hdecode
  · cases hdecode
  · rename_i input segment hsplit
    split at hdecode
    · rename_i htag
      exact ⟨key, hmem, input, segment, claims, hsplit, htag, hdecode, hcheck⟩
    · cases hdecode

/-- **A token is believed only if** it verifies and names an active session of its subject. -/
theorem authenticateIdentity_eq_ok {keys : SigningKeys} {token : String} {now : ℤ} {s t : σ}
    {identity : ValidatedPrincipal × String}
    (h : authenticateIdentity gateway keys token now s = (.ok identity, t)) :
    ∃ claims session, verifyToken gateway.library gateway.audience keys token now = some claims ∧
      gateway.repository.getActive claims.sid claims.sub now s = (.ok (some session), t) ∧
      identity = (⟨platformopsBrowserSessionIssuer, claims.sub⟩, claims.sid) := by
  unfold authenticateIdentity at h
  cases hverify : verifyToken gateway.library gateway.audience keys token now with
  | none =>
      rw [hverify] at h
      cases h
  | some claims =>
      rw [hverify] at h
      obtain ⟨found, s', hactive, hrest⟩ := Action.bind_eq_ok_iff.1 h
      cases found with
      | none => cases hrest
      | some session =>
          cases hrest
          exact ⟨claims, session, rfl, hactive, rfl⟩

theorem authenticateIdentity_of_active {keys : SigningKeys} {token : String} {now : ℤ} {s t : σ}
    {claims : VerifiedClaims} {session : BrowserSession}
    (hverify : verifyToken gateway.library gateway.audience keys token now = some claims)
    (hactive : gateway.repository.getActive claims.sid claims.sub now s = (.ok (some session), t)) :
    authenticateIdentity gateway keys token now s =
      (.ok (⟨platformopsBrowserSessionIssuer, claims.sub⟩, claims.sid), t) := by
  unfold authenticateIdentity
  rw [hverify]
  dsimp only
  rw [Action.bind_of_ok hactive]
  rfl

theorem authenticate_eq_ok {keys : SigningKeys} {token : String} {now : ℤ} {s t : σ}
    {principal : ValidatedPrincipal}
    (h : authenticate gateway keys token now s = (.ok principal, t)) :
    ∃ sessionId,
      authenticateIdentity gateway keys token now s = (.ok (principal, sessionId), t) := by
  obtain ⟨⟨principal', sessionId⟩, s', hidentity, hrest⟩ := Action.bind_eq_ok_iff.1 h
  cases hrest
  exact ⟨sessionId, hidentity⟩

/-- A mutation is believed only with the origin of the gateway and a proof that verifies. -/
theorem authenticateMutation_eq_ok {keys : SigningKeys} {token : String}
    {origin csrfProof : Option String} {now later : ℤ} {s t : σ} {principal : ValidatedPrincipal}
    (h : authenticateMutation gateway keys token origin csrfProof now later s =
      (.ok principal, t)) :
    ∃ sessionId s' proof,
      authenticateIdentity gateway keys token now s = (.ok (principal, sessionId), s') ∧
        csrfProof = some proof ∧ origin = some gateway.expectedOrigin ∧
        verifyCsrf gateway sessionId principal.subject proof later s' = (.ok true, t) := by
  obtain ⟨⟨principal', sessionId⟩, s', hidentity, hrest⟩ := Action.bind_eq_ok_iff.1 h
  cases csrfProof with
  | none => cases hrest
  | some proof =>
      dsimp only at hrest
      split at hrest
      · rename_i horigin
        obtain ⟨verified, s'', hverify, hend⟩ := Action.bind_eq_ok_iff.1 hrest
        cases verified with
        | false => cases hend
        | true =>
            cases hend
            exact ⟨sessionId, s', proof, hidentity, rfl,
              by simpa [hasExpectedOrigin] using horigin.1, hverify⟩
      · cases hrest

theorem logout_eq_ok {keys : SigningKeys} {token : String} {now later : ℤ} {s t : σ}
    {principal : ValidatedPrincipal}
    (h : logout gateway keys token now later s = (.ok principal, t)) :
    ∃ sessionId s',
      authenticateIdentity gateway keys token now s = (.ok (principal, sessionId), s') ∧
      gateway.repository.revoke sessionId "logout" later s' = (.ok (), t) := by
  obtain ⟨⟨principal', sessionId⟩, s', hidentity, hrest⟩ := Action.bind_eq_ok_iff.1 h
  obtain ⟨⟨⟩, s'', hrevoke, hend⟩ := Action.bind_eq_ok_iff.1 hrest
  cases hend
  exact ⟨sessionId, s', hidentity, hrevoke⟩

/-- The proof that verifies has the digest of an active session. -/
theorem verifyCsrf_eq_true {sessionId subject proof : String} {now : ℤ} {s t : σ}
    (h : verifyCsrf gateway sessionId subject proof now s = (.ok true, t)) :
    ∃ session s', gateway.repository.getActive sessionId subject now s = (.ok (some session), s') ∧
      session.csrfProofDigest = gateway.csrfHmac proof := by
  obtain ⟨found, s', hactive, hrest⟩ := Action.bind_eq_ok_iff.1 h
  cases found with
  | none => cases hrest
  | some session =>
      obtain ⟨digest, s'', hdigest, hend⟩ := Action.bind_eq_ok_iff.1 hrest
      refine ⟨session, s', hactive, ?_⟩
      unfold digestCsrfProof at hdigest
      split at hdigest
      · cases hdigest
      · cases hdigest
        have hsame := Except.ok.inj (congrArg Prod.fst hend)
        exact of_decide_eq_true hsame

end

end PlatformOps
