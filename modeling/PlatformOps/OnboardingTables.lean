/-
**The tables of the organizations.**

An organization begins as a pending request of a registered user for a domain or an identity
provider.  The repository stores the request, the proof that the applicant controls the boundary,
and, when a reviewer has approved the request, the activation.  Users become members of an active
organization by invitation.  Every operation that writes is one transaction.  Rows are validated
again when they are read.

Main definitions:

* `OrganizationOnboardingRequest`, `IdentityBoundaryVerificationEvidence`,
  `OrganizationOnboardingApproval`, `ActiveOrganization` — the records;
* `onboardingDigest` — what an approval is bound to;
* `PlatformDatabase` — the tables;
* `CommandFault` — what an operation raises;
* `savePending`, `recordIdentityProof`, `getPendingRequest`, `getPersistedIdentityProof`,
  `activateOrganization` — the repository.

Main results:

* `getPendingRequest_of_ok`, `getPersistedIdentityProof_of_ok` — what is read.
-/

import PlatformOps.CommandPayloads
import PlatformOps.Registration
import PlatformOps.KeyedTable

set_option relaxedAutoImplicit false
set_option autoImplicit false

namespace PlatformOps

/-! ### Records -/

/-- The states of an organization. -/
inductive OrganizationState
  | pending
  | active
  | suspended
  deriving DecidableEq

/-- Who applies, or reviews. -/
@[ext] structure AuthenticatedApplicant where
  issuer : String
  subject : String
  issuer_ne : issuer ≠ ""
  subject_ne : subject ≠ ""

instance : DecidableEq AuthenticatedApplicant := fun _ _ =>
  decidable_of_iff _ AuthenticatedApplicant.ext_iff.symm

/-- Validate an applicant. -/
def authenticatedApplicant (issuer subject : String) :
    Except ValidationError AuthenticatedApplicant :=
  if hissuer : issuer ≠ "" then
    if hsubject : subject ≠ "" then .ok ⟨issuer, subject, hissuer, hsubject⟩
    else .error ⟨"AuthenticatedApplicant", "subject"⟩
  else .error ⟨"AuthenticatedApplicant", "issuer"⟩

/-- A request for an organization. -/
@[ext] structure OrganizationOnboardingRequest where
  requestId : String
  organizationId : String
  organizationName : String
  applicant : AuthenticatedApplicant
  identityBoundary : OrganizationIdentityBoundary
  state : OrganizationState
  createdAt : ℕ
  requestId_length : 8 ≤ requestId.length
  organizationId_length : 5 ≤ organizationId.length
  nameFits : FitsLength 1 200 organizationName

instance : DecidableEq OrganizationOnboardingRequest := fun _ _ =>
  decidable_of_iff _ OrganizationOnboardingRequest.ext_iff.symm

/-- Validate a pending request. -/
def organizationOnboardingRequest (requestId organizationId organizationName : String)
    (applicant : AuthenticatedApplicant) (identityBoundary : OrganizationIdentityBoundary)
    (createdAt : ℕ) : Except ValidationError OrganizationOnboardingRequest :=
  if hrequest : 8 ≤ requestId.length then
    if horganization : 5 ≤ organizationId.length then
      if hname : FitsLength 1 200 organizationName then
        .ok ⟨requestId, organizationId, organizationName, applicant, identityBoundary, .pending,
          createdAt, hrequest, horganization, hname⟩
      else .error ⟨"OrganizationOnboardingRequest", "organization_name"⟩
    else .error ⟨"OrganizationOnboardingRequest", "organization_id"⟩
  else .error ⟨"OrganizationOnboardingRequest", "request_id"⟩

/-- What a verifier of boundaries returns. -/
structure IdentityBoundaryVerificationEvidence where
  kind : IdentityBoundaryKind
  reference : String
  evidenceRef : String
  verifiedAt : ℕ
  referenceFits : FitsLength 1 512 reference
  evidenceFits : FitsLength 1 512 evidenceRef
  deriving DecidableEq

/-- Validate evidence. -/
def identityBoundaryVerificationEvidence (kind : IdentityBoundaryKind)
    (reference evidenceRef : String) (verifiedAt : ℕ) :
    Except ValidationError IdentityBoundaryVerificationEvidence :=
  if hreference : FitsLength 1 512 reference then
    if hevidence : FitsLength 1 512 evidenceRef then
      .ok ⟨kind, reference, evidenceRef, verifiedAt, hreference, hevidence⟩
    else .error ⟨"IdentityBoundaryVerificationEvidence", "evidence_ref"⟩
  else .error ⟨"IdentityBoundaryVerificationEvidence", "reference"⟩

/-- The evidence is for the boundary of the request. -/
def IdentityBoundaryVerificationEvidence.Matches (proof : IdentityBoundaryVerificationEvidence)
    (request : OrganizationOnboardingRequest) : Prop :=
  proof.kind = request.identityBoundary.kind ∧ proof.reference = request.identityBoundary.reference

instance (proof : IdentityBoundaryVerificationEvidence) (request : OrganizationOnboardingRequest) :
    Decidable (proof.Matches request) :=
  inferInstanceAs (Decidable (_ ∧ _))

/-- A recorded review of one request. -/
@[ext] structure OrganizationOnboardingApproval where
  requestId : String
  onboardingDigest : HexDigest
  approvedBy : AuthenticatedApplicant
  approvedAt : ℕ
  requestId_length : 8 ≤ requestId.length

instance : DecidableEq OrganizationOnboardingApproval := fun _ _ =>
  decidable_of_iff _ OrganizationOnboardingApproval.ext_iff.symm

/-- An organization that is active. -/
@[ext] structure ActiveOrganization where
  organizationId : String
  organizationName : String
  identityBoundary : OrganizationIdentityBoundary
  identityProof : IdentityBoundaryVerificationEvidence
  approval : OrganizationOnboardingApproval
  initialTenantAdmin : AuthenticatedApplicant
  state : OrganizationState
  activatedAt : ℕ
  organizationId_length : 5 ≤ organizationId.length
  nameFits : FitsLength 1 200 organizationName

instance : DecidableEq ActiveOrganization := fun _ _ =>
  decidable_of_iff _ ActiveOrganization.ext_iff.symm

/-- The text a request is digested as. -/
def onboardingText (request : OrganizationOnboardingRequest) : String :=
  Json.canonical (.obj [("request_id", .str request.requestId),
    ("organization_id", .str request.organizationId),
    ("organization_name", .str request.organizationName),
    ("applicant", .obj [("issuer", .str request.applicant.issuer),
      ("subject", .str request.applicant.subject)]),
    ("identity_boundary", .obj [("kind", .str request.identityBoundary.kind.value),
      ("reference", .str request.identityBoundary.reference)])])

/-- `onboarding_digest`. -/
def onboardingDigest (sha256 : String → HexDigest) (request : OrganizationOnboardingRequest) :
    HexDigest :=
  sha256 (onboardingText request)

/-! ### The tables -/

/-- A row of `organizations`. -/
structure OrganizationRow where
  organizationId : String
  organizationName : String
  state : OrganizationState
  createdAt : ℕ
  activatedAt : Option ℕ
  activeHasTimestamp : state = .active → activatedAt ≠ none
  deriving DecidableEq

/-- A row of `organization_onboarding_requests`. -/
structure OnboardingRequestRow where
  requestId : String
  organizationId : String
  applicantIssuer : String
  applicantSubject : String
  boundaryKind : IdentityBoundaryKind
  boundaryReference : String
  createdAt : ℕ
  deriving DecidableEq

/-- A row of `organization_identity_proofs`. -/
structure IdentityProofRow where
  requestId : String
  boundaryKind : IdentityBoundaryKind
  boundaryReference : String
  evidenceRef : String
  verifiedAt : ℕ
  deriving DecidableEq

/-- A row of `organization_onboarding_approvals`. -/
structure OnboardingApprovalRow where
  requestId : String
  onboardingDigest : HexDigest
  approverIssuer : String
  approverSubject : String
  approvedAt : ℕ
  deriving DecidableEq

/-- A row of `organization_identity_boundaries`. -/
structure IdentityBoundaryRow where
  organizationId : String
  boundaryKind : IdentityBoundaryKind
  boundaryReference : String
  evidenceRef : String
  verifiedAt : ℕ
  deriving DecidableEq

/-- A row of `organization_initial_tenant_admin_memberships`. -/
structure TenantAdminRow where
  organizationId : String
  userSubject : String
  issuer : String
  createdAt : ℕ
  deriving DecidableEq

/-- The states of a membership. -/
inductive OrganizationMembershipState
  | pending
  | active
  | rejected
  | revoked
  | expired
  deriving DecidableEq

/-- Where a membership comes from. -/
inductive OrganizationMembershipSource
  | invitation
  | tenantIdp
  | scim
  deriving DecidableEq

/-- A row of `organization_memberships`. -/
@[ext] structure MembershipRow where
  membershipId : String
  userSubject : String
  organizationId : String
  source : OrganizationMembershipSource
  roleIds : List String
  state : OrganizationMembershipState
  version : ℕ
  createdAt : ℕ
  version_pos : 1 ≤ version

instance : DecidableEq MembershipRow := fun _ _ =>
  decidable_of_iff _ MembershipRow.ext_iff.symm

/-- A row of `organization_invitations`. -/
structure InvitationRow where
  invitationId : String
  organizationId : String
  canonicalEmail : String
  tokenDigest : HexDigest
  expiresAt : ℕ
  consumedAt : Option ℕ
  deriving DecidableEq

/-- The unique keys of the memberships. -/
inductive MembershipKey
  | membershipId (membershipId : String)
  | active (userSubject organizationId : String)
  deriving DecidableEq

/-- The keys of a membership: only an active one takes its user and organization. -/
def MembershipRow.keys (row : MembershipRow) : List MembershipKey :=
  .membershipId row.membershipId ::
    if row.state = .active then [.active row.userSubject row.organizationId] else []

/-- The unique keys of the invitations. -/
inductive InvitationKey
  | invitationId (invitationId : String)
  | tokenDigest (tokenDigest : HexDigest)
  deriving DecidableEq

/-- The unique keys of a table in which every boundary stands once. -/
inductive BoundaryKey
  | requestId (requestId : String)
  | organizationId (organizationId : String)
  | boundary (kind : IdentityBoundaryKind) (lowered : String)
  deriving DecidableEq

/-- The tables.  The unique indexes of the boundaries are on the references as the database lowers
them. -/
structure PlatformDatabase (lower : String → String) where
  accounts : List UserAccount
  contacts : List VerifiedEmailContact
  organizations : KeyedTable fun row : OrganizationRow => [row.organizationId]
  requests : KeyedTable fun row : OnboardingRequestRow =>
    [BoundaryKey.requestId row.requestId, .organizationId row.organizationId,
      .boundary row.boundaryKind (lower row.boundaryReference)]
  proofs : KeyedTable fun row : IdentityProofRow => [row.requestId]
  approvals : KeyedTable fun row : OnboardingApprovalRow => [row.requestId]
  boundaries : KeyedTable fun row : IdentityBoundaryRow =>
    [BoundaryKey.organizationId row.organizationId,
      .boundary row.boundaryKind (lower row.boundaryReference)]
  admins : KeyedTable fun row : TenantAdminRow => [row.organizationId]
  memberships : KeyedTable MembershipRow.keys
  invitations : KeyedTable fun row : InvitationRow =>
    [InvitationKey.invitationId row.invitationId, .tokenDigest row.tokenDigest]

/-- What an operation raises. -/
inductive CommandFault
  | routeUnavailable (detail : String)
  | permissionError (kind detail : String)
  | validationError (error : ValidationError)
  | valueError (kind detail : String)
  | databaseError (kind detail : String)
  deriving DecidableEq

/-- `OrganizationOnboardingActivationError`. -/
def activationError (detail : String) : CommandFault :=
  .valueError "OrganizationOnboardingActivationError" detail

variable {lower : String → String}

/-- An action on the tables. -/
abbrev PlatformAction (lower : String → String) := Action (PlatformDatabase lower) CommandFault

/-- A value that validates, or a validation error. -/
def validated {α : Type} (x : Except ValidationError α) : PlatformAction lower α :=
  .ofExcept (x.mapError .validationError)

/-- The text can be sent to the database: it has no null character. -/
def Sendable (text : String) : Prop := '\x00' ∉ text.toList

instance (text : String) : Decidable (Sendable text) := inferInstanceAs (Decidable (¬ _))

/-- What is raised for a text that cannot be sent. -/
def unsendable : CommandFault :=
  .databaseError "DataError" "PostgreSQL text fields cannot contain NUL (0x00) bytes"

/-- Send texts with a statement. -/
def send (texts : List String) : PlatformAction lower Unit :=
  .guard (∀ text ∈ texts, Sendable text) unsendable

namespace PlatformDatabase

/-- An account has this subject. -/
def HasAccount (s : PlatformDatabase lower) (subject : String) : Prop :=
  ∃ account ∈ s.accounts, account.subject = subject

instance (s : PlatformDatabase lower) (subject : String) : Decidable (s.HasAccount subject) :=
  inferInstanceAs (Decidable (∃ account ∈ s.accounts, account.subject = subject))

/-- A request joined with its organization. -/
def joined (s : PlatformDatabase lower) (key : BoundaryKey) :
    Option (OnboardingRequestRow × OrganizationRow) := do
  let request ← s.requests.find? key
  let organization ← s.organizations.find? request.organizationId
  some (request, organization)

/-- A request joined with its organization, while that is pending. -/
def pendingRow (s : PlatformDatabase lower) (requestId : String) :
    Option (OnboardingRequestRow × OrganizationRow) :=
  (s.joined (.requestId requestId)).filter fun row => row.2.state = .pending

end PlatformDatabase

/-- A unique key of the table is taken. -/
def uniqueViolationOf (table : String) : CommandFault := .databaseError "UniqueViolation" table

/-- A row refers to a row that does not exist. -/
def foreignKeyViolationOf (table : String) : CommandFault :=
  .databaseError "ForeignKeyViolation" table

/-- A value of a row is not among those its column admits. -/
def checkViolationOf (table : String) : CommandFault := .databaseError "CheckViolation" table

/-- Insert a row into a table, if its keys are free and the rows it refers to exist. -/
def insertInto {κ α : Type} [DecidableEq κ] {keys : α → List κ}
    (get : PlatformDatabase lower → KeyedTable keys)
    (set : KeyedTable keys → PlatformDatabase lower → PlatformDatabase lower) (table : String)
    (refers : PlatformDatabase lower → Prop) [DecidablePred refers] (row : α) :
    PlatformAction lower Unit := fun s =>
  if h : (get s).Admits row then
    if refers s then (.ok (), set ((get s).insert row h) s)
    else (.error (foreignKeyViolationOf table), s)
  else (.error (uniqueViolationOf table), s)

/-- Insert an organization. -/
def insertOrganization (row : OrganizationRow) : PlatformAction lower Unit :=
  insertInto (·.organizations) (fun t s => { s with organizations := t }) "organizations"
    (fun _ => True) row

/-- Insert a request. -/
def insertRequest (row : OnboardingRequestRow) : PlatformAction lower Unit :=
  insertInto (·.requests) (fun t s => { s with requests := t }) "organization_onboarding_requests"
    (fun s => s.organizations.find? row.organizationId ≠ none ∧ s.HasAccount row.applicantSubject)
    row

/-- Insert a proof, unless its request has one. -/
def insertProof (row : IdentityProofRow) : PlatformAction lower Unit := fun s =>
  if s.proofs.Admits row then
    insertInto (·.proofs) (fun t s => { s with proofs := t }) "organization_identity_proofs"
      (fun s => s.requests.find? (.requestId row.requestId) ≠ none) row s
  else (.ok (), s)

/-- Insert an approval. -/
def insertApproval (row : OnboardingApprovalRow) : PlatformAction lower Unit :=
  insertInto (·.approvals) (fun t s => { s with approvals := t })
    "organization_onboarding_approvals"
    (fun s => s.requests.find? (.requestId row.requestId) ≠ none) row

/-- Insert a boundary. -/
def insertBoundary (row : IdentityBoundaryRow) : PlatformAction lower Unit :=
  insertInto (·.boundaries) (fun t s => { s with boundaries := t })
    "organization_identity_boundaries"
    (fun s => s.organizations.find? row.organizationId ≠ none) row

/-- Insert a first administrator. -/
def insertAdmin (row : TenantAdminRow) : PlatformAction lower Unit :=
  insertInto (·.admins) (fun t s => { s with admins := t })
    "organization_initial_tenant_admin_memberships"
    (fun s => s.organizations.find? row.organizationId ≠ none ∧ s.HasAccount row.userSubject) row

/-- The organization once it is active. -/
def OrganizationRow.activate (row : OrganizationRow) (activatedAt : ℕ) : OrganizationRow :=
  { row with
    state := .active
    activatedAt := some activatedAt
    activeHasTimestamp := by simp }

/-- The organization with this id made active. -/
def OrganizationRow.activateIf (organizationId : String) (activatedAt : ℕ) (row : OrganizationRow) :
    OrganizationRow :=
  if row.organizationId = organizationId then row.activate activatedAt else row

theorem OrganizationRow.keys_activateIf (organizationId : String) (activatedAt : ℕ)
    (row : OrganizationRow) :
    [(row.activateIf organizationId activatedAt).organizationId] = [row.organizationId] := by
  unfold activateIf
  split
  · rfl
  · rfl

/-- Make an organization active. -/
def setActive (organizationId : String) (activatedAt : ℕ) : PlatformAction lower Unit :=
  .modify fun s =>
    { s with
      organizations := s.organizations.update (.activateIf organizationId activatedAt)
        (OrganizationRow.keys_activateIf organizationId activatedAt) }

/-! ### The repository -/

/-- What a repository makes of a violated constraint when it saves a request. -/
def alreadyRequested : CommandFault → CommandFault
  | .databaseError "UniqueViolation" _ =>
      .valueError "OrganizationOnboardingAlreadyRequested"
        "an organization request already exists for this identity boundary"
  | fault => fault

/-- The row of the organization of a request. -/
def OrganizationOnboardingRequest.organizationRow (request : OrganizationOnboardingRequest)
    (h : request.state ≠ .active) : OrganizationRow :=
  ⟨request.organizationId, request.organizationName, request.state, request.createdAt, none,
    fun hactive => absurd hactive h⟩

/-- The row of a request. -/
def OrganizationOnboardingRequest.row (request : OrganizationOnboardingRequest) :
    OnboardingRequestRow :=
  ⟨request.requestId, request.organizationId, request.applicant.issuer, request.applicant.subject,
    request.identityBoundary.kind, request.identityBoundary.reference, request.createdAt⟩

/-- The row of evidence for a request. -/
def IdentityBoundaryVerificationEvidence.row (proof : IdentityBoundaryVerificationEvidence)
    (requestId : String) : IdentityProofRow :=
  ⟨requestId, proof.kind, proof.reference, proof.evidenceRef, proof.verifiedAt⟩

/-- The row of an approval. -/
def OrganizationOnboardingApproval.row (approval : OrganizationOnboardingApproval) :
    OnboardingApprovalRow :=
  ⟨approval.requestId, approval.onboardingDigest, approval.approvedBy.issuer,
    approval.approvedBy.subject, approval.approvedAt⟩

/-- The row of the boundary of an active organization. -/
def ActiveOrganization.boundaryRow (organization : ActiveOrganization) : IdentityBoundaryRow :=
  ⟨organization.organizationId, organization.identityBoundary.kind,
    organization.identityBoundary.reference, organization.identityProof.evidenceRef,
    organization.identityProof.verifiedAt⟩

/-- The row of the first administrator of an active organization. -/
def ActiveOrganization.adminRow (organization : ActiveOrganization) : TenantAdminRow :=
  ⟨organization.organizationId, organization.initialTenantAdmin.subject,
    organization.initialTenantAdmin.issuer, organization.activatedAt⟩

/-- `save_pending`. -/
def savePending (request : OrganizationOnboardingRequest) : PlatformAction lower Unit :=
  .mapError alreadyRequested (.transaction do
    send [request.organizationId, request.organizationName]
    if h : request.state = .active then .raise (checkViolationOf "organizations")
    else insertOrganization (request.organizationRow h)
    send [request.requestId, request.organizationId, request.applicant.issuer,
      request.applicant.subject, request.identityBoundary.reference]
    .guard (request.state = .pending) (checkViolationOf "organization_onboarding_requests")
    insertRequest request.row)

/-- `record_identity_proof`. -/
def recordIdentityProof (request : OrganizationOnboardingRequest)
    (proof : IdentityBoundaryVerificationEvidence) : PlatformAction lower Unit := do
  .guard (proof.Matches request) (activationError "identity proof does not match pending request")
  .transaction do
    send [request.requestId]
    let found ← .read fun s => s.pendingRow request.requestId
    .guard (found ≠ none) (activationError "pending request does not exist")
    send [request.requestId, proof.reference, proof.evidenceRef]
    insertProof (proof.row request.requestId)

section
variable (case : CaseMapping)

/-- The request of a row and its organization. -/
def readRequest (row : OnboardingRequestRow × OrganizationRow) :
    Except ValidationError OrganizationOnboardingRequest := do
  let applicant ← authenticatedApplicant row.1.applicantIssuer row.1.applicantSubject
  let boundary ← organizationIdentityBoundary case row.1.boundaryKind row.1.boundaryReference
  organizationOnboardingRequest row.1.requestId row.1.organizationId row.2.organizationName
    applicant boundary row.1.createdAt

/-- `get_pending_request`. -/
def getPendingRequest (requestId : String) :
    PlatformAction lower (Option OrganizationOnboardingRequest) := do
  send [requestId]
  let found ← .read fun s => s.pendingRow requestId
  match found with
  | none => pure none
  | some row => do
      let request ← validated (readRequest case row)
      pure (some request)

/-- The evidence of a row. -/
def readProof (row : IdentityProofRow) :
    Except ValidationError IdentityBoundaryVerificationEvidence :=
  identityBoundaryVerificationEvidence row.boundaryKind row.boundaryReference row.evidenceRef
    row.verifiedAt

/-- `get_persisted_identity_proof`. -/
def getPersistedIdentityProof (request : OrganizationOnboardingRequest) :
    PlatformAction lower (Option IdentityBoundaryVerificationEvidence) := do
  send [request.requestId]
  let found ← .read fun s => s.proofs.find? request.requestId
  match found with
  | none => pure none
  | some row => do
      let proof ← validated (readProof row)
      .guard (proof.Matches request)
        (activationError "persisted identity proof does not match pending request")
      pure (some proof)

/-- The organization is the one of this request: its boundary, its proof and its approval are. -/
def ActiveOrganization.IsOf (sha256 : String → HexDigest) (organization : ActiveOrganization)
    (request : OrganizationOnboardingRequest) : Prop :=
  organization.identityBoundary = request.identityBoundary ∧
    organization.identityProof.Matches request ∧
    organization.approval.requestId = request.requestId ∧
    organization.approval.onboardingDigest = onboardingDigest sha256 request

instance (sha256 : String → HexDigest) (organization : ActiveOrganization)
    (request : OrganizationOnboardingRequest) : Decidable (organization.IsOf sha256 request) :=
  inferInstanceAs (Decidable (_ ∧ _))

/-- What an activation stores: the proof, unless there is one, the approval, the state, the boundary
and the first administrator. -/
def storeActivation (requestId : String) (organization : ActiveOrganization) :
    PlatformAction lower Unit := do
  send [requestId, organization.identityProof.reference, organization.identityProof.evidenceRef]
  insertProof (organization.identityProof.row requestId)
  send [organization.approval.requestId, organization.approval.approvedBy.issuer,
    organization.approval.approvedBy.subject]
  insertApproval organization.approval.row
  setActive organization.organizationId organization.activatedAt
  send [organization.organizationId, organization.identityBoundary.reference,
    organization.identityProof.evidenceRef]
  insertBoundary organization.boundaryRow
  send [organization.organizationId, organization.initialTenantAdmin.subject,
    organization.initialTenantAdmin.issuer]
  insertAdmin organization.adminRow

/-- `activate`, in one transaction. -/
def activateOrganization (sha256 : String → HexDigest) (organization : ActiveOrganization) :
    PlatformAction lower Unit :=
  .transaction do
    send [organization.organizationId]
    let found ← .read fun s => s.joined (.organizationId organization.organizationId)
    match found.filter fun row => row.2.state = .pending with
    | none => .raise (activationError "only a pending request can be activated")
    | some row => do
        let request ← validated (readRequest case row)
        .guard (organization.IsOf sha256 request)
          (activationError "proof or approval does not match pending request")
        storeActivation request.requestId organization

end

/-! ### What is read -/

section
variable {s : PlatformDatabase lower} {requestId : String}

theorem joined_eq_some_iff {key : BoundaryKey} {row : OnboardingRequestRow × OrganizationRow} :
    s.joined key = some row ↔
      s.requests.find? key = some row.1 ∧
        s.organizations.find? row.1.organizationId = some row.2 := by
  unfold PlatformDatabase.joined
  constructor
  · intro h
    obtain ⟨request, hrequest, hrest⟩ := Option.bind_eq_some_iff.1 h
    obtain ⟨organization, horganization, heq⟩ := Option.bind_eq_some_iff.1 hrest
    cases heq
    exact ⟨hrequest, horganization⟩
  · rintro ⟨hrequest, horganization⟩
    exact Option.bind_eq_some_iff.2
      ⟨row.1, hrequest, Option.bind_eq_some_iff.2 ⟨row.2, horganization, rfl⟩⟩

theorem pendingRow_eq_some_iff {row : OnboardingRequestRow × OrganizationRow} :
    s.pendingRow requestId = some row ↔
      s.requests.find? (.requestId requestId) = some row.1 ∧
        s.organizations.find? row.1.organizationId = some row.2 ∧ row.2.state = .pending := by
  unfold PlatformDatabase.pendingRow
  rw [Option.filter_eq_some_iff, joined_eq_some_iff, and_assoc, decide_eq_true_iff]

/-- The row that is found is the one of the request. -/
theorem requestId_of_pendingRow {row : OnboardingRequestRow × OrganizationRow}
    (h : s.pendingRow requestId = some row) : row.1.requestId = requestId := by
  have hkey := (KeyedTable.mem_of_find? (pendingRow_eq_some_iff.1 h).1).2
  simpa [eq_comm] using hkey

theorem fields_of_authenticatedApplicant {issuer subject : String}
    {applicant : AuthenticatedApplicant}
    (h : authenticatedApplicant issuer subject = .ok applicant) :
    applicant.issuer = issuer ∧ applicant.subject = subject := by
  unfold authenticatedApplicant at h
  split at h
  · split at h
    · cases h
      exact ⟨rfl, rfl⟩
    · cases h
  · cases h

theorem fields_of_organizationOnboardingRequest {requestId organizationId name : String}
    {applicant : AuthenticatedApplicant} {boundary : OrganizationIdentityBoundary}
    {createdAt : ℕ} {request : OrganizationOnboardingRequest}
    (h : organizationOnboardingRequest requestId organizationId name applicant boundary createdAt =
      .ok request) :
    request.requestId = requestId ∧ request.organizationId = organizationId ∧
      request.applicant = applicant ∧ request.state = .pending := by
  unfold organizationOnboardingRequest at h
  split at h
  · split at h
    · split at h
      · cases h
        exact ⟨rfl, rfl, rfl, rfl⟩
      · cases h
    · cases h
  · cases h

/-- A request that is read is pending, and has the identifiers and the applicant of its row. -/
theorem fields_of_readRequest {case : CaseMapping} {row : OnboardingRequestRow × OrganizationRow}
    {request : OrganizationOnboardingRequest} (h : readRequest case row = .ok request) :
    request.requestId = row.1.requestId ∧ request.organizationId = row.1.organizationId ∧
      request.applicant.issuer = row.1.applicantIssuer ∧
      request.applicant.subject = row.1.applicantSubject ∧ request.state = .pending := by
  obtain ⟨applicant, happlicant, hrest⟩ := bind_eq_ok_iff.1 h
  obtain ⟨boundary, -, hrequest⟩ := bind_eq_ok_iff.1 hrest
  obtain ⟨hissuer, hsubject⟩ := fields_of_authenticatedApplicant happlicant
  obtain ⟨hid, horganization, heq, hstate⟩ := fields_of_organizationOnboardingRequest hrequest
  rw [heq]
  exact ⟨hid, horganization, hissuer, hsubject, hstate⟩

theorem readOnly_send {texts : List String} :
    (send texts : PlatformAction lower Unit).ReadOnly := Action.readOnly_guard

theorem send_of_sendable {texts : List String} (h : ∀ text ∈ texts, Sendable text) :
    (send texts : PlatformAction lower Unit) s = (.ok (), s) := by
  unfold send Action.guard
  rw [if_pos h]
  rfl

theorem send_bind_of_sendable {α : Type} {texts : List String}
    (h : ∀ text ∈ texts, Sendable text) (f : Unit → PlatformAction lower α) :
    (send texts >>= f) s = f () s :=
  Action.bind_of_ok (send_of_sendable h) f

theorem send_bind_of_not {α : Type} {texts : List String} (h : ¬ ∀ text ∈ texts, Sendable text)
    (f : Unit → PlatformAction lower α) : (send texts >>= f) s = (.error unsendable, s) := by
  unfold send
  rw [Action.guard_bind_apply, if_neg h]

theorem validated_bind_of_ok {α β : Type} {x : Except ValidationError α} {a : α} (h : x = .ok a)
    (f : α → PlatformAction lower β) : (validated x >>= f) s = f a s := by
  rw [h]
  rfl

theorem validated_bind_of_error {α β : Type} {x : Except ValidationError α} {e : ValidationError}
    (h : x = .error e) (f : α → PlatformAction lower β) :
    (validated x >>= f) s = (.error (.validationError e), s) := by
  rw [h]
  rfl

variable {case : CaseMapping}

/-! What is read of a request: nothing, a row that is not valid, or a request. -/

section
variable {row : OnboardingRequestRow × OrganizationRow}

theorem getPendingRequest_of_unsendable (hsend : ¬ Sendable requestId) :
    getPendingRequest case requestId s = (.error unsendable, s) := by
  unfold getPendingRequest
  rw [send_bind_of_not (by simpa using hsend)]

theorem getPendingRequest_of_none (hsend : Sendable requestId)
    (hrow : s.pendingRow requestId = none) :
    getPendingRequest case requestId s = (.ok none, s) := by
  unfold getPendingRequest
  rw [send_bind_of_sendable (by simpa using hsend), Action.read_bind_apply, hrow]
  rfl

theorem getPendingRequest_of_error (hsend : Sendable requestId)
    (hrow : s.pendingRow requestId = some row) {e : ValidationError}
    (hread : readRequest case row = .error e) :
    getPendingRequest case requestId s = (.error (.validationError e), s) := by
  unfold getPendingRequest
  rw [send_bind_of_sendable (by simpa using hsend), Action.read_bind_apply, hrow]
  exact validated_bind_of_error hread _

theorem getPendingRequest_of_ok (hsend : Sendable requestId)
    (hrow : s.pendingRow requestId = some row) {request : OrganizationOnboardingRequest}
    (hread : readRequest case row = .ok request) :
    getPendingRequest case requestId s = (.ok (some request), s) := by
  unfold getPendingRequest
  rw [send_bind_of_sendable (by simpa using hsend), Action.read_bind_apply, hrow]
  exact validated_bind_of_ok hread _

end

/-! What is read of its proof: nothing, a row that is not valid, a proof of another boundary, or a
proof of its boundary. -/

section
variable {request : OrganizationOnboardingRequest} {row : IdentityProofRow}

theorem getPersistedIdentityProof_of_none (hsend : Sendable request.requestId)
    (hrow : s.proofs.find? request.requestId = none) :
    getPersistedIdentityProof request s = (.ok none, s) := by
  unfold getPersistedIdentityProof
  rw [send_bind_of_sendable (by simpa using hsend), Action.read_bind_apply, hrow]
  rfl

theorem getPersistedIdentityProof_of_error (hsend : Sendable request.requestId)
    (hrow : s.proofs.find? request.requestId = some row) {e : ValidationError}
    (hread : readProof row = .error e) :
    getPersistedIdentityProof request s = (.error (.validationError e), s) := by
  unfold getPersistedIdentityProof
  rw [send_bind_of_sendable (by simpa using hsend), Action.read_bind_apply, hrow]
  exact validated_bind_of_error hread _

theorem getPersistedIdentityProof_of_ok (hsend : Sendable request.requestId)
    (hrow : s.proofs.find? request.requestId = some row)
    {proof : IdentityBoundaryVerificationEvidence} (hread : readProof row = .ok proof) :
    getPersistedIdentityProof request s =
      if proof.Matches request then (.ok (some proof), s)
      else (.error (activationError
        "persisted identity proof does not match pending request"), s) := by
  unfold getPersistedIdentityProof
  rw [send_bind_of_sendable (by simpa using hsend), Action.read_bind_apply, hrow]
  exact (validated_bind_of_ok hread _).trans (Action.guard_bind_apply _ _ _)

end

end

/-! ### An applicant -/

/-- The account of Alice. -/
def aliceAccount : UserAccount := ⟨"user_alice", 0, by decide⟩

/-- Alice, who applies. -/
def aliceApplicant : AuthenticatedApplicant := ⟨"platformops", "user_alice", by decide, by decide⟩

/-- Bob, who reviews. -/
def bobReviewer : AuthenticatedApplicant :=
  ⟨"platformops", "user_bob", aliceApplicant.issuer_ne, by decide⟩

/-- What Alice asks for. -/
def aliceStart : OrganizationOnboardingStart :=
  ⟨"Acme", ⟨.domain, "acme.example", by decide, by decide⟩, by decide⟩

/-- The proof of its boundary. -/
def aliceProof : IdentityBoundaryVerificationEvidence :=
  ⟨.domain, "acme.example", "dns:1", 0, by decide, by decide⟩

end PlatformOps
