/-
**When a session token is believed.**

A session has an instant of creation and one of expiry, and its token carries both as whole seconds.
The gateway compares the whole seconds of the present with them, and then asks the store, which
compares the instants themselves with the expiry.  Instants may lie before the epoch as well, and
whole seconds are counted towards it.

The comparison of whole seconds forgets where in its second an instant lies: a token is believed in
the part of its first second before the creation, and refused in the part of its last second before
the expiry.  Centuries from now, where the division by which seconds are counted is off by more than
a microsecond, the seconds themselves begin early.

Main definitions:

* `exactUntil` — until when whole seconds are the seconds of an instant;
* `BrowserSessionRepository.Holds` — the store has a session as it was issued;
* `TokenLibrary.ReadsBack` — the library reads a token back as it was written;
* `CutOff` — the instants that share the second of a bound but lie on its other side.

Main results:

* `authenticates_iff` — a token is believed by whole seconds, and before the expiry;
* `near_of_authenticates`, `authenticates_of_inner` — it is believed less than a second early, and
  refused less than a second early;
* `session_window_iff` — **a token is believed exactly from its creation up to its expiry, but for
  the instants that are cut off**.
-/

import PlatformOps.BrowserSessionRuns

set_option relaxedAutoImplicit false
set_option autoImplicit false

namespace PlatformOps

/-! ### Whole seconds -/

/-- Until when whole seconds are the seconds of an instant: some day of the year 2514. -/
def exactUntil : ℤ := 2 ^ 34 * second

/-- Whole seconds are less than a second away from their instant. -/
theorem timestampSeconds_near {t : ℤ} (h : 0 ≤ t) (hlt : t < exactUntil) :
    t < timestampSeconds t * second + second ∧ timestampSeconds t * second ≤ t := by
  rw [timestampSeconds_of_nonneg h hlt]
  have hsum := Int.emod_add_mul_ediv t second
  have hupper := Int.emod_lt_of_pos t second_pos
  have hlower := Int.emod_nonneg t second_pos.ne'
  rw [mul_comm (second : ℤ)] at hsum
  omega

/-- A whole number of seconds later is that many whole seconds later. -/
theorem timestampSeconds_add {t : ℤ} (h : 0 ≤ t) {n : ℕ} (hlt : t + n * second < exactUntil) :
    timestampSeconds (t + n * second) = timestampSeconds t + n := by
  have hn : (0 : ℤ) ≤ n * second := mul_nonneg (Int.natCast_nonneg n) second_pos.le
  rw [timestampSeconds_of_nonneg (add_nonneg h hn) hlt,
    timestampSeconds_of_nonneg h ((le_add_of_nonneg_right hn).trans_lt hlt),
    Int.add_mul_ediv_right _ _ second_pos.ne']

/-- A whole second has that many seconds. -/
theorem timestampSeconds_mul {n : ℤ} (h : 0 ≤ n) (hlt : n * second < exactUntil) :
    timestampSeconds (n * second) = n := by
  rw [timestampSeconds_of_nonneg (mul_nonneg h second_pos.le) hlt]
  exact Int.mul_ediv_cancel n second_pos.ne'

/-! ### Believed by whole seconds -/

/-- The library reads a token back as it was written: its header, its claims and its tag. -/
structure TokenLibrary.ReadsBack (library : TokenLibrary) (key : SigningKey)
    (claims : List (String × ClaimValue)) : Prop where
  header : library.headerKeyId (library.encode key claims) = some key.keyId
  dotless : '.' ∉ (library.encodeTag
    (library.hs256 key.secret (library.signingInput key.keyId claims))).toList
  tag : library.decodeTag (library.encodeTag
      (library.hs256 key.secret (library.signingInput key.keyId claims))) =
    some (library.hs256 key.secret (library.signingInput key.keyId claims))
  claims : library.claims (library.signingInput key.keyId claims) = some (.ofPairs claims)

theorem decodeToken_encode {library : TokenLibrary} {key : SigningKey}
    {claims : List (String × ClaimValue)} (h : library.ReadsBack key claims) :
    decodeToken library (library.encode key claims) key.secret = some (.ofPairs claims) := by
  have hsplit : splitToken (library.encode key claims) =
      some (library.signingInput key.keyId claims, library.encodeTag
        (library.hs256 key.secret (library.signingInput key.keyId claims))) :=
    splitToken_append h.dotless
  rw [ decodeToken_of_split hsplit, if_pos h.tag, h.claims]

/-- The current key verifies. -/
theorem SigningKeys.get?_current (keys : SigningKeys) :
    keys.verificationKeys.get? keys.current.keyId = some keys.current := by
  have hnodup : ((keys.previous ++ [keys.current]).map fun key => (key.keyId, key)).map Prod.fst
      |>.Nodup := by
    rw [List.map_map]
    exact keys.keyIds_nodup
  rw [verificationKeys, ← Dict.mem_entries_iff, Dict.entries_ofPairs hnodup]
  exact List.mem_map.2 ⟨keys.current, by simp, rfl⟩

/-- A token that reads back has the claims of its session. -/
theorem verifyToken_encode {library : TokenLibrary} {audience : String} {keys : SigningKeys}
    {session : BrowserSession}
    (h : library.ReadsBack keys.current (sessionClaims audience session)) (now : ℤ) :
    verifyToken library audience keys
        (library.encode keys.current (sessionClaims audience session)) now =
      checkClaims audience (.ofPairs (sessionClaims audience session)) now := by
  unfold verifyToken
  simp only [h.header, keys.get?_current, decodeToken_encode h, Option.bind_eq_bind,
    Option.bind_some]

/-- The store has the session as it was issued, and finds it while it is active. -/
def BrowserSessionRepository.Holds {σ : Type} (repository : BrowserSessionRepository σ)
    (session : BrowserSession) (s : σ) : Prop :=
  ∀ now, repository.getActive session.sessionId session.subject now s =
    (.ok (if session.IsActive now then some session else none), s)

/-- In memory the session is held under its id. -/
theorem holds_inMemorySessions {session : BrowserSession} {sessions : Dict String BrowserSession}
    (h : sessions.get? session.sessionId = some session) :
    inMemorySessions.Holds session sessions := by
  intro now
  have hactive : activeSession sessions session.sessionId session.subject now =
      if session.IsActive now then some session else none := by
    unfold activeSession
    rw [h]
    simp only [true_and]
  exact congrArg (fun found => (Except.ok found, sessions)) hactive

section
variable {σ : Type} (gateway : BrowserGateway σ)

/-- The token is believed. -/
def Authenticates (keys : SigningKeys) (s : σ) (token : String) (now : ℤ) : Prop :=
  ∃ identity, (authenticateIdentity gateway keys token now s).1 = .ok identity

variable {gateway} {keys : SigningKeys}

/-- **A token is believed by whole seconds, and before the expiry.** -/
theorem authenticates_iff {session : BrowserSession} {s : σ}
    (hreads : gateway.library.ReadsBack keys.current (sessionClaims gateway.audience session))
    (hholds : gateway.repository.Holds session s) (hlive : session.revokedAt = none) (now : ℤ) :
    Authenticates gateway keys s
        (gateway.library.encode keys.current (sessionClaims gateway.audience session)) now ↔
      timestampSeconds session.createdAt ≤ timestampSeconds now ∧
        timestampSeconds now < timestampSeconds session.expiresAt ∧ now < session.expiresAt := by
  unfold Authenticates authenticateIdentity
  rw [verifyToken_encode hreads, checkClaims_sessionClaims]
  by_cases hseconds : timestampSeconds session.createdAt ≤ timestampSeconds now ∧
      timestampSeconds now < timestampSeconds session.expiresAt
  · rw [if_pos hseconds]
    simp only [Action.bind_of_ok (hholds now), BrowserSession.IsActive, hlive, true_and,
      hseconds.1, hseconds.2]
    by_cases hnow : now < session.expiresAt
    · simp only [hnow, iff_true]
      exact ⟨_, rfl⟩
    · simp only [hnow, iff_false]
      rintro ⟨identity, h⟩
      cases h
  · rw [if_neg hseconds]
    constructor
    · rintro ⟨identity, h⟩
      cases h
    · rintro ⟨hcreated, hexpires, -⟩
      exact absurd ⟨hcreated, hexpires⟩ hseconds

end

/-! ### The window -/

/-- The instants on which whole seconds mislead: before the creation but in its second, and before
the expiry but in the second of it. -/
def CutOff (createdAt expiresAt now : ℤ) : Prop :=
  (now < createdAt ∧ timestampSeconds now = timestampSeconds createdAt ∧
      timestampSeconds createdAt < timestampSeconds expiresAt) ∨
    (createdAt ≤ now ∧ now < expiresAt ∧ timestampSeconds now = timestampSeconds expiresAt)

instance (createdAt expiresAt now : ℤ) : Decidable (CutOff createdAt expiresAt now) :=
  inferInstanceAs (Decidable (_ ∨ _))

/-- Whole seconds and the expiry decide as the instants do, but for the instants cut off. -/
theorem seconds_agree_iff {createdAt expiresAt : ℤ} (h : createdAt < expiresAt) (now : ℤ) :
    ((timestampSeconds createdAt ≤ timestampSeconds now ∧
        timestampSeconds now < timestampSeconds expiresAt ∧ now < expiresAt) ↔
      (createdAt ≤ now ∧ now < expiresAt)) ↔ ¬ CutOff createdAt expiresAt now := by
  have hbounds := timestampSeconds_mono h.le
  unfold CutOff
  rcases lt_or_ge now createdAt with hearly | hcreated
  · have hseconds := timestampSeconds_mono hearly.le
    omega
  · have hseconds := timestampSeconds_mono hcreated
    rcases lt_or_ge now expiresAt with hlate | hexpired
    · have hseconds' := timestampSeconds_mono hlate.le
      omega
    · omega

/-- After the epoch, whole seconds decide as the instants do at all times exactly if the session was
created on a whole second, and not on that of the epoch. -/
theorem seconds_agree_always_iff {createdAt : ℤ} (hepoch : 0 ≤ createdAt) {ttlSeconds : ℕ}
    (httl : 0 < ttlSeconds) (hexact : createdAt + ttlSeconds * second < exactUntil) :
    (∀ now, ¬ CutOff createdAt (createdAt + ttlSeconds * second) now) ↔
      timestampSeconds createdAt * second = createdAt ∧ 0 < createdAt := by
  have hlength : (second : ℤ) ≤ ttlSeconds * second := by
    have hone : (1 : ℤ) ≤ ttlSeconds := Int.natCast_pos.2 httl
    exact le_mul_of_one_le_left second_pos.le hone
  have hpos := second_pos
  have hend := timestampSeconds_add hepoch hexact
  obtain ⟨hnear, hfloor⟩ := timestampSeconds_near hepoch (by omega)
  have hnonneg : 0 ≤ timestampSeconds createdAt := by
    rw [timestampSeconds_of_nonneg hepoch (by unfold exactUntil at hexact; omega)]
    exact Int.ediv_nonneg hepoch second_pos.le
  constructor
  · intro hkept
    constructor
    · -- otherwise the last whole second begins before the expiry
      by_contra hpart
      refine hkept ((timestampSeconds createdAt + ttlSeconds) * second) (Or.inr ⟨?_, ?_, ?_⟩)
      · rw [add_mul]
        omega
      · rw [add_mul]
        omega
      · rw [hend]
        refine timestampSeconds_mul (by omega) ?_
        rw [add_mul]
        omega
    · -- the seconds before and after the epoch are one
      by_contra hzero
      obtain rfl : createdAt = 0 := by omega
      refine hkept (-1) (Or.inl ⟨by omega, ?_, ?_⟩)
      · rw [timestampSeconds_neg, timestampSeconds_of_nonneg (by decide) (by decide),
          timestampSeconds_of_nonneg (by decide) (by decide)]
        decide
      · rw [hend]
        omega
  · rintro ⟨hwhole, hlater⟩ now hcut
    have hsecond : 0 < timestampSeconds createdAt := by
      refine pos_of_mul_pos_left ?_ second_pos.le
      rw [hwhole]
      exact hlater
    rcases hcut with ⟨hearly, hsame, -⟩ | ⟨hcreated, hlate, hsame⟩
    · have hnow : 0 ≤ now := by
        by_contra hneg
        have hle : timestampSeconds now ≤ timestampSeconds 0 := timestampSeconds_mono (by omega)
        rw [hsame, timestampSeconds_of_nonneg le_rfl (by decide)] at hle
        exact absurd hsecond (not_lt.2 hle)
      have hle := (timestampSeconds_near hnow (by omega)).2
      rw [hsame, hwhole] at hle
      omega
    · have hle := (timestampSeconds_near (hepoch.trans hcreated) (by omega)).2
      rw [hsame, hend, add_mul, hwhole] at hle
      omega

section
variable {σ : Type} {gateway : BrowserGateway σ} {keys : SigningKeys} {subject : String}
  {createdAt : ℤ} {generated : GeneratedSession} {s t u : σ} {issued : BrowserSessionIssue}

/-- The session that an issue signs begins now, lasts as long as it is configured, and is not
revoked. -/
theorem issue_spec (h : issue gateway keys subject createdAt generated s = (.ok issued, t)) :
    issued.session.createdAt = createdAt ∧
      issued.session.expiresAt = createdAt + gateway.ttlSeconds * second ∧
      issued.session.revokedAt = none ∧ issued.setCookie.token =
        gateway.library.encode keys.current (sessionClaims gateway.audience issued.session) := by
  obtain ⟨⟨signed, token⟩, s', hsign, hcreate⟩ := Action.bind_eq_ok_iff.1 h
  obtain ⟨hok, rfl⟩ := Prod.mk.inj hsign
  obtain ⟨-, s'', -, hend⟩ := Action.bind_eq_ok_iff.1 hcreate
  cases hend
  obtain ⟨-, -, -, hlive, htoken⟩ := signSession_spec hok
  obtain ⟨built, hbuild, hsigned⟩ := bind_eq_ok_iff.1 hok
  split at hsigned
  · cases hsigned
  · cases hsigned
    obtain ⟨digest, -, hrest⟩ := bind_eq_ok_iff.1 hbuild
    split at hrest
    · cases hrest
      exact ⟨rfl, rfl, hlive, htoken⟩
    · cases hrest

/-- Up to the year 2514 a token is believed less than a second before the creation at the earliest,
and before the expiry. -/
theorem near_of_authenticates
    (hissue : issue gateway keys subject createdAt generated s = (.ok issued, t))
    (hreads : gateway.library.ReadsBack keys.current
      (sessionClaims gateway.audience issued.session))
    (hholds : gateway.repository.Holds issued.session u) {now : ℤ} (hnow : 0 ≤ now)
    (hexact : issued.session.expiresAt < exactUntil)
    (h : Authenticates gateway keys u issued.setCookie.token now) :
    createdAt < now + second ∧ now < issued.session.expiresAt := by
  obtain ⟨hcreated, -, hlive, htoken⟩ := issue_spec hissue
  rw [htoken] at h
  obtain ⟨hseconds, -, hexpires⟩ := (authenticates_iff hreads hholds hlive now).1 h
  refine ⟨?_, hexpires⟩
  by_contra hfar
  -- a second earlier it is an earlier second
  have hnear := timestampSeconds_near (hnow.trans (by have := second_pos; omega : now ≤ createdAt))
    (lt_trans (hcreated ▸ issued.session.lifetime) hexact)
  have hpast := timestampSeconds_near hnow (hexpires.trans hexact)
  have hle := mul_le_mul_of_nonneg_right hseconds second_pos.le
  rw [hcreated] at hle
  omega

/-- Up to the year 2514 a token is believed from its creation up to a second before the expiry. -/
theorem authenticates_of_inner
    (hissue : issue gateway keys subject createdAt generated s = (.ok issued, t))
    (hreads : gateway.library.ReadsBack keys.current
      (sessionClaims gateway.audience issued.session))
    (hholds : gateway.repository.Holds issued.session u) {now : ℤ} (hnow : 0 ≤ now)
    (hexact : issued.session.expiresAt < exactUntil) (hfrom : createdAt ≤ now)
    (hto : now + second ≤ issued.session.expiresAt) :
    Authenticates gateway keys u issued.setCookie.token now := by
  obtain ⟨hcreated, -, hlive, htoken⟩ := issue_spec hissue
  have hpos := second_pos
  rw [htoken]
  refine (authenticates_iff hreads hholds hlive now).2
    ⟨timestampSeconds_mono (hcreated ▸ hfrom), ?_, by omega⟩
  -- the last second ends after the expiry, that of now begins before it
  refine lt_of_mul_lt_mul_right ?_ second_pos.le
  have hlast := (timestampSeconds_near (hnow.trans (by omega)) hexact).1
  have hpast := (timestampSeconds_near hnow (by omega)).2
  omega

/-- **A token is believed exactly from its creation up to its expiry, but for the instants that are
cut off.** -/
theorem session_window_iff
    (hissue : issue gateway keys subject createdAt generated s = (.ok issued, t))
    (hreads : gateway.library.ReadsBack keys.current
      (sessionClaims gateway.audience issued.session))
    (hholds : gateway.repository.Holds issued.session u) (now : ℤ) :
    (Authenticates gateway keys u issued.setCookie.token now ↔
        createdAt ≤ now ∧ now < issued.session.expiresAt) ↔
      ¬ CutOff createdAt issued.session.expiresAt now := by
  obtain ⟨hcreated, -, hlive, htoken⟩ := issue_spec hissue
  rw [htoken, authenticates_iff hreads hholds hlive, hcreated]
  exact seconds_agree_iff (hcreated ▸ issued.session.lifetime) now

end

/-! ### A session created half a second late -/

/-- Half a second past the time of Ann. -/
def annHalfPast : ℤ := annTime + 500000

/-- The session of Ann, created then. -/
def annLateSession : BrowserSession :=
  ⟨"bsess_01", "usr_ann", annSession.csrfProofDigest, annHalfPast, annHalfPast + 900 * second, none,
    none, annSession.sessionId_length, annSession.subject_length,
    lt_add_of_pos_right annHalfPast (by decide), annSession.reason_revoked⟩

/-- What its issue returns. -/
def annLateIssue : BrowserSessionIssue :=
  ⟨annLateSession, ⟨annToken, "platformops_session", 900⟩, "proof"⟩

/-- The store with the session of Ann. -/
def annLateSessions : Dict String BrowserSession := Dict.empty.set "bsess_01" annLateSession

theorem sessionClaims_annLateSession :
    sessionClaims "platformops-browser" annLateSession =
      sessionClaims "platformops-browser" annSession := by
  have hcreated : timestampSeconds annLateSession.createdAt = timestampSeconds annTime := by
    rw [show annLateSession.createdAt = annHalfPast from rfl,
      timestampSeconds_ann annHalfPast (by decide) (by decide),
      timestampSeconds_ann annTime (by decide) (by decide)]
    decide
  have hexpires : timestampSeconds annLateSession.expiresAt =
      timestampSeconds (annTime + 900 * second) := by
    rw [show annLateSession.expiresAt = annHalfPast + 900 * second from rfl,
      timestampSeconds_ann (annHalfPast + 900 * second) (by decide) (by decide),
      timestampSeconds_ann (annTime + 900 * second) (by decide) (by decide)]
    decide
  unfold sessionClaims
  rw [hcreated, hexpires]
  rfl

theorem readsBack_ann : annGateway.library.ReadsBack annKeys.current
    (sessionClaims annGateway.audience annLateIssue.session) where
  header := by
    show annLibrary.headerKeyId (annLibrary.encode annKey (sessionClaims "platformops-browser"
      annLateSession)) = _
    rw [sessionClaims_annLateSession, annLibrary_encode, annLibrary_keyId]
    rfl
  dotless := by
    show '.' ∉ (annLibrary.encodeTag (annLibrary.hs256 annKey.secret annInput)).toList
    rw [annLibrary_hs256, annLibrary_encodeTag]
    decide
  tag := by
    show annLibrary.decodeTag (annLibrary.encodeTag (annLibrary.hs256 annKey.secret annInput)) =
      some (annLibrary.hs256 annKey.secret annInput)
    rw [annLibrary_hs256, annLibrary_encodeTag, annLibrary_decodeTag]
  claims := by
    show annLibrary.claims annInput =
      some (.ofPairs (sessionClaims "platformops-browser" annLateSession))
    rw [sessionClaims_annLateSession, annLibrary_claims]

theorem issue_annLate :
    issue annGateway annKeys "usr_ann" annHalfPast annGenerated .empty =
      (.ok annLateIssue, annLateSessions) := by
  have hbuild : buildBrowserSession annGateway "usr_ann" annHalfPast annGenerated =
      .ok annLateSession := by rfl
  have htoken : annGateway.library.encode annKeys.current
      (sessionClaims annGateway.audience annLateSession) = annToken := by
    show annLibrary.encode annKey (sessionClaims "platformops-browser" annLateSession) = _
    rw [sessionClaims_annLateSession, annLibrary_encode]
  have hsign : signSession annGateway annKeys "usr_ann" annHalfPast annGenerated =
      .ok (annLateSession, annToken) := by
    unfold signSession
    rw [hbuild]
    show (if annKey.secret.length < 32 then _ else _) = _
    rw [if_neg (by decide +kernel), htoken]
  unfold issue
  rw [hsign, Action.ofExcept_ok_bind_apply]
  rfl

theorem holds_annLate : annGateway.repository.Holds annLateIssue.session annLateSessions :=
  holds_inMemorySessions rfl

/-- Ten minutes later the token of Ann is believed. -/
theorem ann_believed_inside :
    (Authenticates annGateway annKeys annLateSessions annLateIssue.setCookie.token
          (annHalfPast + 600 * second) ↔
        annHalfPast ≤ annHalfPast + 600 * second ∧
          annHalfPast + 600 * second < annLateIssue.session.expiresAt) ↔
      ¬ CutOff annHalfPast annLateIssue.session.expiresAt (annHalfPast + 600 * second) :=
  session_window_iff issue_annLate readsBack_ann holds_annLate (annHalfPast + 600 * second)

/-- The token of Ann is believed a quarter of a second before her session is created, and refused a
quarter of a second before it expires. -/
theorem ann_believed_and_refused_early :
    issue annGateway annKeys "usr_ann" annHalfPast annGenerated .empty =
        (.ok annLateIssue, annLateSessions) ∧
      (Authenticates annGateway annKeys annLateSessions annToken (annHalfPast - 250000) ∧
        annHalfPast - 250000 < annHalfPast) ∧
      ¬ Authenticates annGateway annKeys annLateSessions annToken
        (annLateSession.expiresAt - 250000) ∧
      annHalfPast ≤ annLateSession.expiresAt - 250000 ∧
      annLateSession.expiresAt - 250000 < annLateSession.expiresAt := by
  obtain ⟨-, -, hlive, htoken⟩ := issue_spec issue_annLate
  have hiff := authenticates_iff readsBack_ann holds_annLate hlive
  rw [← htoken] at hiff
  have hcreated : timestampSeconds annLateIssue.session.createdAt = annHalfPast / second :=
    timestampSeconds_ann annHalfPast (by decide) (by decide)
  have hexpires : timestampSeconds annLateIssue.session.expiresAt =
      (annHalfPast + 900 * second) / second :=
    timestampSeconds_ann (annHalfPast + 900 * second) (by decide) (by decide)
  refine ⟨issue_annLate, ⟨(hiff _).2 ?_, by decide⟩, ?_, by decide, by decide⟩
  · rw [hcreated, hexpires, timestampSeconds_ann (annHalfPast - 250000) (by decide) (by decide)]
    decide
  · show ¬ Authenticates annGateway annKeys annLateSessions annLateIssue.setCookie.token _
    rw [hiff, hcreated, hexpires, timestampSeconds_ann (annLateSession.expiresAt - 250000) (by decide)
      (by decide)]
    decide

end PlatformOps
