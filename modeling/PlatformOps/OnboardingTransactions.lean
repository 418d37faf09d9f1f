/-
**The onboarding of organizations in the database.**

The repository of the organizations saves a request, records a proof, reads a request and its proof,
and activates an organization, each in a transaction of its own, at the level READ COMMITTED.  An
activation locks the request and its organization before it looks at the state of the organization,
and so does a proof that is recorded; so the rows of a request are written by one transaction at a
time.

Until one of these transactions raises, it has only locked rows, so that it commits what was there.
A statement that violates a constraint aborts the transaction, and so does one with a text that the
database cannot hold.

Main definitions:

* `OnboardingRow`, `onboardingSchema` — the tables;
* `RepositoryCall`, `RepositoryResult` — the operations of the repository;
* `savePendingProgram`, `recordIdentityProofProgram`, `getPendingRequestProgram`,
  `getPersistedIdentityProofProgram`, `activateProgram`, `onboardingServer` — the transactions;
* `OnboardingRow.Evolves`, `RepositoryCall.Writes` — how rows change, and what the transactions
  write;
* `Activation` — what a transaction has done that activates an organization.

Main results:

* `keepsKeys_onboardingServer` — no transaction changes a key;
* `ensures_onboardingServer` — **what a transaction has written when it commits**.
-/

import PlatformOps.OnboardingRepository
import PlatformOps.ProgramRules

set_option relaxedAutoImplicit false
set_option autoImplicit false

namespace PlatformOps

open ReadCommitted

/-! ### The tables -/

/-- A row of one of the tables. -/
inductive OnboardingRow
  | account (row : UserAccount)
  | organization (row : OrganizationRow)
  | request (row : OnboardingRequestRow)
  | proof (row : IdentityProofRow)
  | approval (row : OnboardingApprovalRow)
  | boundary (row : IdentityBoundaryRow)
  | admin (row : TenantAdminRow)
  deriving DecidableEq

/-- The unique keys of the tables. -/
inductive OnboardingKey
  | account (subject : String)
  | organization (organizationId : String)
  | request (key : BoundaryKey)
  | proof (requestId : String)
  | approval (requestId : String)
  | boundary (key : BoundaryKey)
  | admin (organizationId : String)
  deriving DecidableEq

/-- The texts of a row. -/
def OnboardingRow.texts : OnboardingRow → List String
  | .account row => [row.subject]
  | .organization row => [row.organizationId, row.organizationName]
  | .request row =>
      [row.requestId, row.organizationId, row.applicantIssuer, row.applicantSubject,
        row.boundaryReference]
  | .proof row => [row.requestId, row.boundaryReference, row.evidenceRef]
  | .approval row => [row.requestId, row.approverIssuer, row.approverSubject]
  | .boundary row => [row.organizationId, row.boundaryReference, row.evidenceRef]
  | .admin row => [row.organizationId, row.userSubject, row.issuer]

/-- `auth_user_accounts` and the tables of the onboarding.  The unique indexes of the boundaries are
on the references as the database lowers them, and no text of a row has a null character. -/
def onboardingSchema (lower : String → String) : Schema OnboardingKey OnboardingRow where
  keys
    | .account row => [.account row.subject]
    | .organization row => [.organization row.organizationId]
    | .request row =>
        [.request (.requestId row.requestId), .request (.organizationId row.organizationId),
          .request (.boundary row.boundaryKind (lower row.boundaryReference))]
    | .proof row => [.proof row.requestId]
    | .approval row => [.approval row.requestId]
    | .boundary row =>
        [.boundary (.organizationId row.organizationId),
          .boundary (.boundary row.boundaryKind (lower row.boundaryReference))]
    | .admin row => [.admin row.organizationId]
  references
    | .account _ => []
    | .organization _ => []
    | .request row => [.organization row.organizationId, .account row.applicantSubject]
    | .proof row => [.request (.requestId row.requestId)]
    | .approval row => [.request (.requestId row.requestId)]
    | .boundary row => [.organization row.organizationId]
    | .admin row => [.organization row.organizationId, .account row.userSubject]
  check row := decide (∀ text ∈ row.texts, Sendable text)

namespace OnboardingRow

/-- The organization of a row. -/
def organization? : OnboardingRow → Option OrganizationRow
  | .organization row => some row
  | _ => none

/-- The request of a row. -/
def request? : OnboardingRow → Option OnboardingRequestRow
  | .request row => some row
  | _ => none

/-- The proof of a row. -/
def proof? : OnboardingRow → Option IdentityProofRow
  | .proof row => some row
  | _ => none

/-- The row is the organization with this id. -/
def isOrganization (organizationId : String) (row : OnboardingRow) : Bool :=
  row.organization?.any fun organization => organization.organizationId = organizationId

/-- The row is the organization with this id, and it is pending. -/
def isPendingOrganization (organizationId : String) (row : OnboardingRow) : Bool :=
  row.organization?.any fun organization =>
    organization.organizationId = organizationId ∧ organization.state = .pending

/-- The row is the request with this id. -/
def isRequest (requestId : String) (row : OnboardingRow) : Bool :=
  row.request?.any fun request => request.requestId = requestId

/-- The row is the request of the organization with this id, or the organization. -/
def isJoinedOn (organizationId : String) : OnboardingRow → Bool
  | .organization row => row.organizationId = organizationId
  | .request row => row.organizationId = organizationId
  | _ => false

/-- The row is a proof of the request with this id. -/
def isProof (requestId : String) (row : OnboardingRow) : Bool :=
  row.proof?.any fun proof => proof.requestId = requestId

/-- The row once the organization is active. -/
def activate (activatedAt : ℕ) : OnboardingRow → OnboardingRow
  | .organization row => .organization (row.activate activatedAt)
  | row => row

end OnboardingRow

/-- A request among the rows, joined with its organization. -/
def joinedRows (rows : List OnboardingRow) (which : OnboardingRequestRow → Bool) :
    Option (OnboardingRequestRow × OrganizationRow) := do
  let request ← rows.findSome? fun row => row.request?.filter which
  let organization ← rows.findSome? fun row => row.organization?.filter fun organization =>
    organization.organizationId = request.organizationId
  some (request, organization)

/-! ### The transactions -/

/-- An operation of the repository, or the registration of a user. -/
inductive RepositoryCall
  | registerUser (account : UserAccount)
  | savePending (request : OrganizationOnboardingRequest)
  | recordIdentityProof (request : OrganizationOnboardingRequest)
      (proof : IdentityBoundaryVerificationEvidence)
  | getPendingRequest (requestId : String)
  | getPersistedIdentityProof (request : OrganizationOnboardingRequest)
  | activate (organization : ActiveOrganization)

/-- What an operation returns. -/
inductive RepositoryAnswer
  | nothing
  | request (found : Option OrganizationOnboardingRequest)
  | proof (found : Option IdentityBoundaryVerificationEvidence)

/-- What an operation returns, or raises. -/
abbrev RepositoryResult := Except CommandFault RepositoryAnswer

/-- The transaction of an operation: there are no advisory locks. -/
abbrev RepositoryProgram := Program Empty OnboardingRow RepositoryResult

/-- `save_pending`.  A state that the tables do not admit undoes both inserts, so that it is looked
at first. -/
def savePendingProgram (request : OrganizationOnboardingRequest) : RepositoryProgram :=
  if h : request.state = .active then .ret (.error (checkViolationOf "organizations"))
  else if request.state = .pending then
    .insert (.organization (request.organizationRow h))
      (.insert (.request request.row) (.ret (.ok .nothing)))
  else .ret (.error (checkViolationOf "organization_onboarding_requests"))

/-- Insert a proof, unless its request has one: the request is locked, so that nobody else inserts
one meanwhile. -/
def storeProofProgram (row : IdentityProofRow) (next : RepositoryProgram) : RepositoryProgram :=
  .select fun rows =>
    if rows.any (·.isProof row.requestId) then next else .insert (.proof row) next

/-- `record_identity_proof`: lock the request and its pending organization, and insert the proof. -/
def recordIdentityProofProgram (request : OrganizationOnboardingRequest)
    (proof : IdentityBoundaryVerificationEvidence) : RepositoryProgram :=
  if proof.Matches request then
    if Sendable request.requestId then
      .update (·.isRequest request.requestId) id fun found =>
        match found.findSome? (·.request?) with
        | none => .ret (.error (activationError "pending request does not exist"))
        | some row =>
            .update (·.isPendingOrganization row.organizationId) id fun locked =>
              if locked = [] then .ret (.error (activationError "pending request does not exist"))
              else storeProofProgram (proof.row request.requestId) (.ret (.ok .nothing))
    else .ret (.error unsendable)
  else .ret (.error (activationError "identity proof does not match pending request"))

/-- `get_pending_request`. -/
def getPendingRequestProgram (case : CaseMapping) (requestId : String) : RepositoryProgram :=
  if Sendable requestId then
    .select fun rows =>
      match (joinedRows rows fun row => row.requestId = requestId).filter
          (fun row => row.2.state = .pending) with
      | none => .ret (.ok (.request none))
      | some row =>
          match readRequest case row with
          | .error e => .ret (.error (.validationError e))
          | .ok request => .ret (.ok (.request (some request)))
  else .ret (.error unsendable)

/-- `get_persisted_identity_proof`. -/
def getPersistedIdentityProofProgram (request : OrganizationOnboardingRequest) : RepositoryProgram :=
  if Sendable request.requestId then
    .select fun rows =>
      match (rows.find? (·.isProof request.requestId)).bind (·.proof?) with
      | none => .ret (.ok (.proof none))
      | some row =>
          match readProof row with
          | .error e => .ret (.error (.validationError e))
          | .ok proof =>
              if proof.Matches request then .ret (.ok (.proof (some proof)))
              else .ret (.error (activationError
                "persisted identity proof does not match pending request"))
  else .ret (.error unsendable)

/-- What an activation stores: the proof, unless there is one, the approval, the state, the boundary
and the first administrator. -/
def storeActivationProgram (requestId : String) (organization : ActiveOrganization) :
    RepositoryProgram :=
  storeProofProgram (organization.identityProof.row requestId)
    (.insert (.approval organization.approval.row)
      (.update (·.isOrganization organization.organizationId) (·.activate organization.activatedAt)
        fun _ => .insert (.boundary organization.boundaryRow)
          (.insert (.admin organization.adminRow) (.ret (.ok .nothing)))))

/-- `activate`: lock the request and its organization, look at both, and store the activation. -/
def activateProgram (case : CaseMapping) (sha256 : String → HexDigest)
    (organization : ActiveOrganization) : RepositoryProgram :=
  if Sendable organization.organizationId then
    .update (·.isJoinedOn organization.organizationId) id fun locked =>
      match (joinedRows locked fun row =>
          row.organizationId = organization.organizationId).filter
          (fun row => row.2.state = .pending) with
      | none => .ret (.error (activationError "only a pending request can be activated"))
      | some row =>
          match readRequest case row with
          | .error e => .ret (.error (.validationError e))
          | .ok request =>
              if organization.IsOf sha256 request then
                storeActivationProgram request.requestId organization
              else .ret (.error (activationError
                "proof or approval does not match pending request"))
  else .ret (.error unsendable)

/-- The transaction of an operation. -/
def RepositoryCall.main (case : CaseMapping) (sha256 : String → HexDigest) :
    RepositoryCall → RepositoryProgram
  | .registerUser account => .insert (.account account) (.ret (.ok .nothing))
  | .savePending request => savePendingProgram request
  | .recordIdentityProof request proof => recordIdentityProofProgram request proof
  | .getPendingRequest requestId => getPendingRequestProgram case requestId
  | .getPersistedIdentityProof request => getPersistedIdentityProofProgram request
  | .activate organization => activateProgram case sha256 organization

/-- The server with the tables. -/
def onboardingServer (lower : String → String) (case : CaseMapping)
    (sha256 : String → HexDigest) :
    Server Empty OnboardingKey OnboardingRow RepositoryResult RepositoryCall :=
  { onboardingSchema lower with main := RepositoryCall.main case sha256 }

/-- The database of the onboarding. -/
abbrev OnboardingDatabase := Database Empty OnboardingRow RepositoryResult RepositoryCall

/-! ### How rows evolve -/

/-- What the transactions may make of a row: an organization may become active. -/
def OnboardingRow.Evolves (a b : OnboardingRow) : Prop :=
  b = a ∨ ∃ o o', a = .organization o ∧ b = .organization o' ∧
    o'.organizationId = o.organizationId ∧ o'.organizationName = o.organizationName ∧
    o'.state = .active

namespace OnboardingRow

theorem Evolves.refl (a : OnboardingRow) : Evolves a a := Or.inl rfl

theorem Evolves.trans (a b c : OnboardingRow) (h : Evolves a b) (h' : Evolves b c) :
    Evolves a c := by
  rcases h with rfl | ⟨o, o', rfl, rfl, hid, hname, hactive⟩
  · exact h'
  · rcases h' with rfl | ⟨p, p', hp, rfl, hid', hname', hactive'⟩
    · exact Or.inr ⟨o, o', rfl, rfl, hid, hname, hactive⟩
    · cases hp
      exact Or.inr ⟨o, p', rfl, rfl, hid'.trans hid, hname'.trans hname, hactive'⟩

/-- No other row changes. -/
theorem Evolves.eq {a b : OnboardingRow} (h : Evolves a b) (hnot : ∀ o, a ≠ .organization o) :
    b = a := by
  rcases h with hsame | ⟨o, o', ha, -⟩
  · exact hsame
  · exact absurd ha (hnot o)

/-- An organization keeps its id and its name, and once active stays so. -/
theorem Evolves.organization {o : OrganizationRow} {b : OnboardingRow}
    (h : Evolves (.organization o) b) :
    ∃ o', b = .organization o' ∧ o'.organizationId = o.organizationId ∧
      o'.organizationName = o.organizationName ∧ (o' = o ∨ o'.state = .active) := by
  rcases h with rfl | ⟨o₁, o', h₁, rfl, hid, hname, hactive⟩
  · exact ⟨o, rfl, rfl, rfl, Or.inl rfl⟩
  · cases h₁
    exact ⟨o', rfl, hid, hname, Or.inr hactive⟩

theorem evolves_activate (activatedAt : ℕ) (row : OnboardingRow) :
    Evolves row (row.activate activatedAt) := by
  cases row with
  | organization row => exact Or.inr ⟨row, _, rfl, rfl, rfl, rfl, rfl⟩
  | account row => exact Evolves.refl _
  | request row => exact Evolves.refl _
  | proof row => exact Evolves.refl _
  | approval row => exact Evolves.refl _
  | boundary row => exact Evolves.refl _
  | admin row => exact Evolves.refl _

end OnboardingRow

section
variable (lower : String → String) (case : CaseMapping) (sha256 : String → HexDigest)

theorem main_onboardingServer (call : RepositoryCall) :
    (onboardingServer lower case sha256).main call = call.main case sha256 := rfl

/-- The organization keeps its key when it becomes active. -/
theorem keys_activate (activatedAt : ℕ) (row : OnboardingRow) :
    (onboardingServer lower case sha256).keys (row.activate activatedAt) =
        (onboardingServer lower case sha256).keys row ∧
      (onboardingServer lower case sha256).references (row.activate activatedAt) =
        (onboardingServer lower case sha256).references row := by
  cases row with
  | account row => exact ⟨rfl, rfl⟩
  | organization row => exact ⟨rfl, rfl⟩
  | request row => exact ⟨rfl, rfl⟩
  | proof row => exact ⟨rfl, rfl⟩
  | approval row => exact ⟨rfl, rfl⟩
  | boundary row => exact ⟨rfl, rfl⟩
  | admin row => exact ⟨rfl, rfl⟩

variable {lower case sha256} in
theorem keepsKeys_storeProof {row : IdentityProofRow} {next : RepositoryProgram}
    (h : (onboardingServer lower case sha256).KeepsKeys next) :
    (onboardingServer lower case sha256).KeepsKeys (storeProofProgram row next) := by
  simp only [storeProofProgram, Server.KeepsKeys]
  intro rows
  split
  · exact h
  · simp only [Server.KeepsKeys]
    exact h

/-- **No transaction changes a key.** -/
theorem keepsKeys_onboardingServer (call : RepositoryCall) :
    (onboardingServer lower case sha256).KeepsKeys
      ((onboardingServer lower case sha256).main call) := by
  rw [main_onboardingServer]
  cases call with
  | registerUser account => simp only [RepositoryCall.main, Server.KeepsKeys]
  | savePending request =>
      simp only [RepositoryCall.main, savePendingProgram]
      split
      · simp only [Server.KeepsKeys]
      · split
        · simp only [Server.KeepsKeys]
        · simp only [Server.KeepsKeys]
  | recordIdentityProof request proof =>
      simp only [RepositoryCall.main, recordIdentityProofProgram]
      split
      · split
        · simp only [Server.KeepsKeys]
          refine ⟨fun row => ⟨rfl, rfl⟩, fun found => ?_⟩
          split
          · simp only [Server.KeepsKeys]
          · simp only [Server.KeepsKeys]
            refine ⟨fun row => ⟨rfl, rfl⟩, fun locked => ?_⟩
            split
            · simp only [Server.KeepsKeys]
            · exact keepsKeys_storeProof trivial
        · simp only [Server.KeepsKeys]
      · simp only [Server.KeepsKeys]
  | getPendingRequest requestId =>
      simp only [RepositoryCall.main, getPendingRequestProgram]
      split
      · simp only [Server.KeepsKeys]
        intro rows
        split
        · simp only [Server.KeepsKeys]
        · split
          · simp only [Server.KeepsKeys]
          · simp only [Server.KeepsKeys]
      · simp only [Server.KeepsKeys]
  | getPersistedIdentityProof request =>
      simp only [RepositoryCall.main, getPersistedIdentityProofProgram]
      split
      · simp only [Server.KeepsKeys]
        intro rows
        split
        · simp only [Server.KeepsKeys]
        · split
          · simp only [Server.KeepsKeys]
          · split
            · simp only [Server.KeepsKeys]
            · simp only [Server.KeepsKeys]
      · simp only [Server.KeepsKeys]
  | activate organization =>
      simp only [RepositoryCall.main, activateProgram]
      split
      · simp only [Server.KeepsKeys]
        refine ⟨fun row => ⟨rfl, rfl⟩, fun locked => ?_⟩
        split
        · simp only [Server.KeepsKeys]
        · split
          · simp only [Server.KeepsKeys]
          · split
            · refine keepsKeys_storeProof ?_
              simp only [Server.KeepsKeys]
              exact ⟨keys_activate lower case sha256 organization.activatedAt, fun rows => trivial⟩
            · simp only [Server.KeepsKeys]
      · simp only [Server.KeepsKeys]

end

/-! ### What the transactions write -/

/-- A row that a transaction has written when it commits: what was committed of it, and what is
written over it. -/
inductive RepositoryCall.Wrote :
    RepositoryCall → RepositoryResult → Option OnboardingRow → OnboardingRow → Prop
  | locked (call : RepositoryCall) (a : RepositoryResult) (row : OnboardingRow) :
      Wrote call a (some row) row
  | registered (account : UserAccount) :
      Wrote (.registerUser account) (.ok .nothing) none (.account account)
  | organized (request : OrganizationOnboardingRequest) (h : request.state ≠ .active)
      (pending : request.state = .pending) :
      Wrote (.savePending request) (.ok .nothing) none (.organization (request.organizationRow h))
  | requested (request : OrganizationOnboardingRequest) :
      Wrote (.savePending request) (.ok .nothing) none (.request request.row)
  | proved (request : OrganizationOnboardingRequest)
      (proof : IdentityBoundaryVerificationEvidence) (matched : proof.Matches request) :
      Wrote (.recordIdentityProof request proof) (.ok .nothing) none
        (.proof (proof.row request.requestId))
  | evidence (organization : ActiveOrganization) :
      Wrote (.activate organization) (.ok .nothing) none
        (.proof (organization.identityProof.row organization.approval.requestId))
  | approved (organization : ActiveOrganization) :
      Wrote (.activate organization) (.ok .nothing) none (.approval organization.approval.row)
  | activated (organization : ActiveOrganization) (row : OrganizationRow)
      (same : row.organizationId = organization.organizationId) :
      Wrote (.activate organization) (.ok .nothing) (some (.organization row))
        (.organization (row.activate organization.activatedAt))
  | bounded (organization : ActiveOrganization) :
      Wrote (.activate organization) (.ok .nothing) none (.boundary organization.boundaryRow)
  | administered (organization : ActiveOrganization) :
      Wrote (.activate organization) (.ok .nothing) none (.admin organization.adminRow)

/-- What a transaction has done that has activated an organization: it has locked the request and
found the organization pending, the organization is the one of the request, and the proof, the
approval and the administrator are there. -/
structure Activation (case : CaseMapping) (sha256 : String → HexDigest) (seen : Set OnboardingRow)
    (w : WriteSet OnboardingRow) (organization : ActiveOrganization) (r : OnboardingRequestRow)
    (o : OrganizationRow) (request : OrganizationOnboardingRequest) : Prop where
  locked : w.Has (some (.request r)) (.request r)
  activated : w.Has (some (.organization o))
    (.organization (o.activate organization.activatedAt))
  pending : o.state = .pending
  joined : r.organizationId = organization.organizationId ∧
    o.organizationId = organization.organizationId
  reads : readRequest case (r, o) = .ok request
  isOf : organization.IsOf sha256 request
  proved : ∃ p : IdentityProofRow, p.requestId = request.requestId ∧
    (.proof p ∈ seen ∨ ∃ old, w.Has old (.proof p))
  approved : w.Has none (.approval organization.approval.row)
  administered : w.Has none (.admin organization.adminRow)

/-- What a transaction has certainly seen or done when it commits with this result. -/
def RepositoryCall.Done (case : CaseMapping) (sha256 : String → HexDigest) :
    RepositoryCall → Set OnboardingRow → WriteSet OnboardingRow → RepositoryResult → Prop
  | .savePending request, _, w, .ok _ => w.Has none (.request request.row)
  | .getPendingRequest requestId, seen, _, .ok (.request (some request)) => ∃ r o,
      .request r ∈ seen ∧ .organization o ∈ seen ∧ o.organizationId = r.organizationId ∧
        r.requestId = requestId ∧ readRequest case (r, o) = .ok request
  | .activate organization, seen, w, .ok _ => ∃ r o request,
      Activation case sha256 seen w organization r o request
  | _, _, _, _ => True

/-- What a transaction has seen and written that commits with this result. -/
structure RepositoryCall.Writes (case : CaseMapping) (sha256 : String → HexDigest)
    (call : RepositoryCall) (seen : Set OnboardingRow) (w : WriteSet OnboardingRow)
    (a : RepositoryResult) : Prop where
  rows : w.Only (call.Wrote a)
  done : call.Done case sha256 seen w a

section
variable {case : CaseMapping} {sha256 : String → HexDigest} {seen : Set OnboardingRow}
  {w : WriteSet OnboardingRow}

/-- What has only locked rows may raise. -/
theorem RepositoryCall.writes_error (call : RepositoryCall) (h : w.OnlyLocks)
    (fault : CommandFault) : call.Writes case sha256 seen w (.error fault) := by
  constructor
  · intro i old new hrow
    rw [h i old new hrow]
    exact .locked call _ new
  · cases call with
    | registerUser account => trivial
    | savePending request => trivial
    | recordIdentityProof request proof => trivial
    | getPendingRequest requestId => trivial
    | getPersistedIdentityProof request => trivial
    | activate organization => trivial

/-- What has only locked rows has written nothing else. -/
theorem RepositoryCall.only_of_onlyLocks (call : RepositoryCall) (a : RepositoryResult)
    (h : w.OnlyLocks) : w.Only (call.Wrote a) := by
  intro i old new hrow
  rw [h i old new hrow]
  exact .locked call a new

theorem eq_of_request? {row : OnboardingRow} {r : OnboardingRequestRow}
    (h : row.request? = some r) : row = .request r := by
  cases row with
  | request row =>
      cases h
      rfl
  | account row => cases h
  | organization row => cases h
  | proof row => cases h
  | approval row => cases h
  | boundary row => cases h
  | admin row => cases h

theorem eq_of_organization? {row : OnboardingRow} {o : OrganizationRow}
    (h : row.organization? = some o) : row = .organization o := by
  cases row with
  | organization row =>
      cases h
      rfl
  | account row => cases h
  | request row => cases h
  | proof row => cases h
  | approval row => cases h
  | boundary row => cases h
  | admin row => cases h

theorem exists_of_isProof {row : OnboardingRow} {requestId : String}
    (h : row.isProof requestId = true) : ∃ p, row = .proof p ∧ p.requestId = requestId := by
  cases row with
  | proof row => exact ⟨row, rfl, of_decide_eq_true h⟩
  | account row => cases h
  | organization row => cases h
  | request row => cases h
  | approval row => cases h
  | boundary row => cases h
  | admin row => cases h

theorem exists_of_isOrganization {row : OnboardingRow} {organizationId : String}
    (h : row.isOrganization organizationId = true) :
    ∃ o, row = .organization o ∧ o.organizationId = organizationId := by
  cases row with
  | organization row => exact ⟨row, rfl, of_decide_eq_true h⟩
  | account row => cases h
  | request row => cases h
  | proof row => cases h
  | approval row => cases h
  | boundary row => cases h
  | admin row => cases h

/-- A request that is joined is one of the rows, and so is its organization. -/
theorem joinedRows_eq_some {rows : List OnboardingRow} {which : OnboardingRequestRow → Bool}
    {row : OnboardingRequestRow × OrganizationRow} (h : joinedRows rows which = some row) :
    .request row.1 ∈ rows ∧ which row.1 = true ∧ .organization row.2 ∈ rows ∧
      row.2.organizationId = row.1.organizationId := by
  unfold joinedRows at h
  obtain ⟨r, hr, h⟩ := Option.bind_eq_some_iff.1 h
  obtain ⟨o, ho, h⟩ := Option.bind_eq_some_iff.1 h
  cases h
  obtain ⟨row, hrow, hfound⟩ := List.exists_of_findSome?_eq_some hr
  obtain ⟨hrequest, hwhich⟩ := Option.filter_eq_some_iff.1 hfound
  obtain ⟨row', hrow', hfound'⟩ := List.exists_of_findSome?_eq_some ho
  obtain ⟨horganization, hsame⟩ := Option.filter_eq_some_iff.1 hfound'
  rw [eq_of_request? hrequest] at hrow
  rw [eq_of_organization? horganization] at hrow'
  exact ⟨hrow, hwhich, hrow', of_decide_eq_true hsame⟩

/-- A proof is stored: there was one, or it is inserted. -/
theorem ensures_storeProof {Q : Set OnboardingRow → WriteSet OnboardingRow → RepositoryResult → Prop}
    {row : IdentityProofRow} {next : RepositoryProgram}
    (hskip : ∀ found p, p.requestId = row.requestId →
      (.proof p ∈ found ∨ ∃ old, w.Has old (.proof p)) →
        next.Ensures OnboardingRow.Evolves Q (seen ∪ found) w)
    (hinsert : ∀ found i, w i = none → next.Ensures OnboardingRow.Evolves Q (seen ∪ found)
      (Function.update w i (some (none, .proof row)))) :
    (storeProofProgram row next).Ensures OnboardingRow.Evolves Q seen w := by
  simp only [storeProofProgram, Program.ensures_select]
  intro rows found hrows
  split
  · rename_i hany
    obtain ⟨row', hrow', hproof⟩ := List.any_eq_true.1 hany
    obtain ⟨p, rfl, hid⟩ := exists_of_isProof hproof
    refine hskip found p hid ?_
    rcases hrows _ hrow' with hfound | ⟨i, old, hown⟩
    · exact Or.inl hfound
    · exact Or.inr ⟨old, i, hown⟩
  · simp only [Program.ensures_insert]
    exact hinsert found

theorem ensures_savePending (request : OrganizationOnboardingRequest) :
    (savePendingProgram request).Ensures OnboardingRow.Evolves
      (RepositoryCall.Writes case sha256 (.savePending request)) ∅ .empty := by
  unfold savePendingProgram
  split
  · exact RepositoryCall.writes_error _ WriteSet.onlyLocks_empty _
  · split
    · rename_i hactive hpending
      simp only [Program.ensures_ret, Program.ensures_insert]
      intro i hi j hj
      refine ⟨?_, WriteSet.has_insert_self j _⟩
      refine (WriteSet.only_empty.insert ?_).insert ?_
      · exact .organized request hactive hpending
      · exact .requested request
    · exact RepositoryCall.writes_error _ WriteSet.onlyLocks_empty _

theorem ensures_recordIdentityProof (request : OrganizationOnboardingRequest)
    (proof : IdentityBoundaryVerificationEvidence) :
    (recordIdentityProofProgram request proof).Ensures OnboardingRow.Evolves
      (RepositoryCall.Writes case sha256 (.recordIdentityProof request proof)) ∅ .empty := by
  have hraise : ∀ {seen : Set OnboardingRow} {w : WriteSet OnboardingRow}, w.OnlyLocks →
      ∀ fault, (RepositoryCall.recordIdentityProof request proof).Writes case sha256 seen w
        (.error fault) := fun h fault => RepositoryCall.writes_error _ h fault
  unfold recordIdentityProofProgram
  split
  · rename_i hmatches
    split
    · simp only [Program.ensures_update]
      refine ⟨fun row _ => .refl row, ?_⟩
      intro w found hfound
      obtain ⟨hlocks, -, -⟩ := hfound.locks WriteSet.onlyLocks_empty
      split
      · exact hraise hlocks _
      · simp only [Program.ensures_update]
        refine ⟨fun row _ => .refl row, ?_⟩
        intro w' locked hlocked
        obtain ⟨hlocks', -, -⟩ := hlocked.locks hlocks
        have honly := RepositoryCall.only_of_onlyLocks (.recordIdentityProof request proof)
          (.ok .nothing) hlocks'
        split
        · exact hraise hlocks' _
        · refine ensures_storeProof ?_ ?_
          · intro found' p hid hp
            exact ⟨honly, trivial⟩
          · intro found' i hi
            exact ⟨honly.insert (.proved request proof hmatches), trivial⟩
    · exact hraise WriteSet.onlyLocks_empty _
  · exact hraise WriteSet.onlyLocks_empty _

theorem ensures_getPendingRequest (requestId : String) :
    (getPendingRequestProgram case requestId).Ensures OnboardingRow.Evolves
      (RepositoryCall.Writes case sha256 (.getPendingRequest requestId)) ∅ .empty := by
  unfold getPendingRequestProgram
  split
  · simp only [Program.ensures_select]
    intro rows found hrows
    have hfound : ∀ row ∈ rows, row ∈ (∅ : Set OnboardingRow) ∪ found := by
      intro row hrow
      rcases hrows row hrow with h | ⟨i, old, h⟩
      · exact Or.inr h
      · cases h
    split
    · exact ⟨WriteSet.only_empty, trivial⟩
    · rename_i row hrow
      obtain ⟨hjoined, -⟩ := Option.filter_eq_some_iff.1 hrow
      obtain ⟨hrequest, hid, horganization, hsame⟩ := joinedRows_eq_some hjoined
      split
      · exact RepositoryCall.writes_error _ WriteSet.onlyLocks_empty _
      · rename_i request hread
        exact ⟨WriteSet.only_empty, row.1, row.2, hfound _ hrequest, hfound _ horganization, hsame,
          of_decide_eq_true hid, hread⟩
  · exact RepositoryCall.writes_error _ WriteSet.onlyLocks_empty _

theorem ensures_getPersistedIdentityProof (request : OrganizationOnboardingRequest) :
    (getPersistedIdentityProofProgram request).Ensures OnboardingRow.Evolves
      (RepositoryCall.Writes case sha256 (.getPersistedIdentityProof request)) ∅ .empty := by
  have hraise : ∀ {seen : Set OnboardingRow} fault,
      (RepositoryCall.getPersistedIdentityProof request).Writes case sha256 seen .empty
        (.error fault) := fun fault => RepositoryCall.writes_error _ WriteSet.onlyLocks_empty fault
  unfold getPersistedIdentityProofProgram
  split
  · simp only [Program.ensures_select]
    intro rows found hrows
    split
    · exact ⟨WriteSet.only_empty, trivial⟩
    · split
      · exact hraise _
      · split
        · exact ⟨WriteSet.only_empty, trivial⟩
        · exact hraise _
  · exact hraise _

/-- What an activation stores, over the locks of the request and of its organization. -/
theorem ensures_storeActivation {organization : ActiveOrganization} {r : OnboardingRequestRow}
    {o : OrganizationRow} {request : OrganizationOnboardingRequest} (hlocks : w.OnlyLocks)
    (hr : w.Has (some (.request r)) (.request r))
    (ho : w.Has (some (.organization o)) (.organization o)) (hpending : o.state = .pending)
    (hjoined : r.organizationId = organization.organizationId ∧
      o.organizationId = organization.organizationId)
    (hreads : readRequest case (r, o) = .ok request) (hisOf : organization.IsOf sha256 request) :
    (storeActivationProgram request.requestId organization).Ensures OnboardingRow.Evolves
      (RepositoryCall.Writes case sha256 (.activate organization)) seen w := by
  have honly := RepositoryCall.only_of_onlyLocks (.activate organization) (.ok .nothing) hlocks
  -- once the proof is there, whatever was done for it
  have hrest : ∀ {seen' : Set OnboardingRow} {w' : WriteSet OnboardingRow},
      w'.Only ((RepositoryCall.activate organization).Wrote (.ok .nothing)) →
      w'.Has (some (.request r)) (.request r) →
      w'.Has (some (.organization o)) (.organization o) →
      (∃ p : IdentityProofRow, p.requestId = request.requestId ∧
        (.proof p ∈ seen' ∨ ∃ old, w'.Has old (.proof p))) →
      (.insert (.approval organization.approval.row)
        (.update (·.isOrganization organization.organizationId)
          (·.activate organization.activatedAt) fun _ =>
            .insert (.boundary organization.boundaryRow)
              (.insert (.admin organization.adminRow) (.ret (.ok .nothing)))) :
        RepositoryProgram).Ensures OnboardingRow.Evolves
          (RepositoryCall.Writes case sha256 (.activate organization)) seen' w' := by
    intro seen' w' honly' hr' ho' hproof
    simp only [Program.ensures_ret, Program.ensures_update, Program.ensures_insert]
    intro i hi
    refine ⟨fun row _ => OnboardingRow.evolves_activate organization.activatedAt row, ?_⟩
    intro w₁ returned hupdated j hj k hk
    -- rows that are no organization stay as they are when the organization becomes active
    have hkeep : ∀ {old : Option OnboardingRow} {new : OnboardingRow}, new.organization? = none →
        WriteSet.Has (Function.update w' i (some (none, .approval organization.approval.row)))
          old new → w₁.Has old new := by
      intro old new hnot hhas
      have hsame := hupdated.has hhas
      have hfilter : ¬ new.isOrganization organization.organizationId = true := by
        unfold OnboardingRow.isOrganization
        rw [hnot]
        exact Bool.false_ne_true
      rw [if_neg hfilter] at hsame
      exact hsame
    have hend : ∀ {old : Option OnboardingRow} {new : OnboardingRow}, w₁.Has old new →
        WriteSet.Has (Function.update (Function.update w₁ j
          (some (none, .boundary organization.boundaryRow))) k
          (some (none, .admin organization.adminRow))) old new :=
      fun hhas => (hhas.insert hj _).insert hk _
    constructor
    · refine (WriteSet.Only.insert (hupdated.only (honly'.insert (.approved organization)) ?_ ?_)
        (.bounded organization)).insert (.administered organization)
      · intro old row hwrote hfilter
        obtain ⟨o', rfl, hsame⟩ := exists_of_isOrganization hfilter
        cases hwrote with
        | locked => exact .activated organization o' hsame
        | activated _ before hbefore => exact .activated organization before hbefore
      · intro row hfilter
        obtain ⟨o', rfl, hsame⟩ := exists_of_isOrganization hfilter
        exact .activated organization o' hsame
    · refine ⟨r, o, request, hend (hkeep rfl (hr'.insert hi _)), hend ?_, hpending, hjoined, hreads,
        hisOf, ?_, hend (hkeep rfl (WriteSet.has_insert_self i _)), WriteSet.has_insert_self k _⟩
      · have hsame := hupdated.has (ho'.insert hi (.approval organization.approval.row))
        have hfilter : (OnboardingRow.organization o).isOrganization
            organization.organizationId = true := decide_eq_true hjoined.2
        rw [if_pos hfilter] at hsame
        exact hsame
      · obtain ⟨p, hid, hp⟩ := hproof
        refine ⟨p, hid, hp.imp_right ?_⟩
        rintro ⟨old, hhas⟩
        exact ⟨old, hend (hkeep rfl (hhas.insert hi _))⟩
  unfold storeActivationProgram
  refine ensures_storeProof ?_ ?_
  · intro found p hid hp
    exact hrest honly hr ho ⟨p, hid, hp.imp_left Or.inr⟩
  · intro found i hi
    refine hrest (honly.insert ?_) (hr.insert hi _) (ho.insert hi _)
      ⟨organization.identityProof.row request.requestId, rfl,
        Or.inr ⟨none, WriteSet.has_insert_self i _⟩⟩
    rw [← hisOf.2.2.1]
    exact .evidence organization

theorem ensures_activate (organization : ActiveOrganization) :
    (activateProgram case sha256 organization).Ensures OnboardingRow.Evolves
      (RepositoryCall.Writes case sha256 (.activate organization)) ∅ .empty := by
  have hraise : ∀ {seen : Set OnboardingRow} {w : WriteSet OnboardingRow}, w.OnlyLocks →
      ∀ fault, (RepositoryCall.activate organization).Writes case sha256 seen w (.error fault) :=
    fun h fault => RepositoryCall.writes_error _ h fault
  unfold activateProgram
  split
  · simp only [Program.ensures_update]
    refine ⟨fun row _ => .refl row, ?_⟩
    intro w locked hlocked
    obtain ⟨hlocks, -, hreturned⟩ := hlocked.locks WriteSet.onlyLocks_empty
    split
    · exact hraise hlocks _
    · rename_i row hrow
      obtain ⟨hjoined, hpending⟩ := Option.filter_eq_some_iff.1 hrow
      obtain ⟨hrequest, hid, horganization, hsame⟩ := joinedRows_eq_some hjoined
      have hid : row.1.organizationId = organization.organizationId := of_decide_eq_true hid
      split
      · exact hraise hlocks _
      · rename_i request hread
        split
        · rename_i hisOf
          exact ensures_storeActivation hlocks (hreturned _ hrequest).2 (hreturned _ horganization).2
            (of_decide_eq_true hpending) ⟨hid, hsame.trans hid⟩ hread hisOf
        · exact hraise hlocks _
  · exact hraise WriteSet.onlyLocks_empty _

/-- **What a transaction has written when it commits.** -/
theorem ensures_onboardingServer (lower : String → String) (call : RepositoryCall) :
    ((onboardingServer lower case sha256).main call).Ensures OnboardingRow.Evolves
      (call.Writes case sha256) ∅ .empty := by
  rw [main_onboardingServer]
  cases call with
  | registerUser account =>
      simp only [RepositoryCall.main, Program.ensures_ret, Program.ensures_insert]
      intro i hi
      exact ⟨WriteSet.only_empty.insert (.registered account), trivial⟩
  | savePending request => exact ensures_savePending request
  | recordIdentityProof request proof => exact ensures_recordIdentityProof request proof
  | getPendingRequest requestId => exact ensures_getPendingRequest requestId
  | getPersistedIdentityProof request => exact ensures_getPersistedIdentityProof request
  | activate organization => exact ensures_activate organization

end

end PlatformOps
