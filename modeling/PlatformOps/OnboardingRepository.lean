/-
**What the repository of the organizations accepts.**

Each operation that writes is one transaction.  So an operation that raises leaves the tables as
they were, and one that returns has done all of its statements: this module says for each operation
when it returns, and what the tables are then.  An active organization is read by joining the five
tables an activation has written to.

Main definitions:

* `KeyedTable.insertNew` — an insertion that gives way to a row with one of its keys;
* `PlatformDatabase.CanActivate` — the checks of an activation;
* `PlatformDatabase.activated` — the tables after an activation;
* `readRoutable`, `resolveRoutableOrganization` — the active organization that is read.

Main results:

* `savePending_eq_ok_iff`, `recordIdentityProof_eq_ok_iff` — when a request and a proof are stored;
* `activateOrganization_eq_ok_iff` — **an organization is activated exactly if the checks pass**, and
  what is stored then;
* `routableRows_eq_some_iff`, `organizationIdentityBoundary_self` — what is read of an active
  organization;
* `load_eq_ok_iff` — **a review loads exactly the requests that are ready**.
-/

import PlatformOps.OnboardingAnswers

set_option relaxedAutoImplicit false
set_option autoImplicit false

namespace PlatformOps

/-- `INSERT … ON CONFLICT … DO NOTHING`. -/
def KeyedTable.insertNew {κ α : Type} [DecidableEq κ] {keys : α → List κ} (t : KeyedTable keys)
    (row : α) : KeyedTable keys :=
  if h : t.Admits row then t.insert row h else t

/-! ### Sequences of statements -/

section
variable {lower : String → String} {s s' : PlatformDatabase lower}

theorem send_bind_eq_ok_iff {α : Type} {texts : List String} {f : Unit → PlatformAction lower α}
    {a : α} : (send texts >>= f) s = (.ok a, s') ↔
      (∀ text ∈ texts, Sendable text) ∧ f () s = (.ok a, s') := by
  by_cases hsend : ∀ text ∈ texts, Sendable text
  · rw [send_bind_of_sendable hsend]
    exact (and_iff_right hsend).symm
  · rw [send_bind_of_not hsend]
    exact iff_of_false (fun h => by cases h) fun h => hsend h.1

theorem validated_bind_eq_ok_iff {α β : Type} {x : Except ValidationError α}
    {f : α → PlatformAction lower β} {b : β} :
    (validated x >>= f) s = (.ok b, s') ↔ ∃ a, x = .ok a ∧ f a s = (.ok b, s') := by
  cases x with
  | error e =>
      rw [validated_bind_of_error rfl]
      refine iff_of_false (fun h => by cases h) ?_
      rintro ⟨a, h, -⟩
      cases h
  | ok a =>
      rw [validated_bind_of_ok rfl]
      constructor
      · exact fun h => ⟨a, rfl, h⟩
      · rintro ⟨a', h, hf⟩
        cases h
        exact hf

section
variable {κ α : Type} [DecidableEq κ] {keys : α → List κ}
  {get : PlatformDatabase lower → KeyedTable keys}
  {set : KeyedTable keys → PlatformDatabase lower → PlatformDatabase lower} {table : String}
  {refers : PlatformDatabase lower → Prop} [DecidablePred refers] {row : α}

theorem insertInto_eq_ok_iff : insertInto get set table refers row s = (.ok (), s') ↔
    ∃ h : (get s).Admits row, refers s ∧ s' = set ((get s).insert row h) s := by
  unfold insertInto
  split
  · rename_i h
    split
    · rename_i hrefers
      constructor
      · intro heq
        cases heq
        exact ⟨h, hrefers, rfl⟩
      · rintro ⟨-, -, rfl⟩
        rfl
    · rename_i hrefers
      refine iff_of_false (fun heq => by cases heq) ?_
      rintro ⟨-, hrefers', -⟩
      exact hrefers hrefers'
  · rename_i h
    refine iff_of_false (fun heq => by cases heq) ?_
    rintro ⟨h', -⟩
    exact h h'

theorem insertInto_bind_eq_ok_iff {β : Type} {f : Unit → PlatformAction lower β} {b : β} :
    (insertInto get set table refers row >>= f) s = (.ok b, s') ↔
      ∃ h : (get s).Admits row, refers s ∧ f () (set ((get s).insert row h) s) = (.ok b, s') := by
  rw [Action.bind_eq_ok_iff]
  constructor
  · rintro ⟨⟨⟩, t, hinsert, hf⟩
    obtain ⟨h, hrefers, rfl⟩ := insertInto_eq_ok_iff.1 hinsert
    exact ⟨h, hrefers, hf⟩
  · rintro ⟨h, hrefers, hf⟩
    exact ⟨(), _, insertInto_eq_ok_iff.2 ⟨h, hrefers, rfl⟩, hf⟩

end

/-- A proof is stored unless its request has one. -/
theorem insertProof_apply {row : IdentityProofRow}
    (hrefers : s.requests.find? (.requestId row.requestId) ≠ none) :
    insertProof row s = (.ok (), { s with proofs := s.proofs.insertNew row }) := by
  unfold insertProof KeyedTable.insertNew
  by_cases hadmits : s.proofs.Admits row
  · rw [if_pos hadmits, dif_pos hadmits]
    exact insertInto_of_admits hadmits hrefers
  · rw [if_neg hadmits, dif_neg hadmits]

/-! ### Requests and proofs -/

/-- **A request is saved exactly if it is admitted.** -/
theorem savePending_eq_ok_iff {request : OrganizationOnboardingRequest}
    (hstate : request.state = .pending) (hactive : request.state ≠ .active) :
    savePending request s = (.ok (), s') ↔
      ∃ h : s.AdmitsRequest request, s' = h.saved hactive := by
  constructor
  · intro hrun
    have hanswered : Answered (savePending request) s := by
      intro e t herror
      rw [hrun] at herror
      cases herror
    have hadmits := (answered_savePending_iff hstate).1 hanswered
    rw [savePending_of_admits hstate hactive hadmits] at hrun
    cases hrun
    exact ⟨hadmits, rfl⟩
  · rintro ⟨hadmits, rfl⟩
    exact savePending_of_admits hstate hactive hadmits

/-- **A proof is accepted of a pending request**, if it is of the boundary of the request. -/
theorem recordIdentityProof_eq_ok_iff {request : OrganizationOnboardingRequest}
    {proof : IdentityBoundaryVerificationEvidence} :
    recordIdentityProof request proof s = (.ok (), s') ↔
      proof.Matches request ∧
        (∀ text ∈ [request.requestId, proof.reference, proof.evidenceRef], Sendable text) ∧
        s.pendingRow request.requestId ≠ none ∧
        s' = { s with proofs := s.proofs.insertNew (proof.row request.requestId) } := by
  unfold recordIdentityProof
  rw [Action.guard_bind_eq_ok_iff, Action.transaction_eq_ok_iff, send_bind_eq_ok_iff,
    Action.read_bind_apply, Action.guard_bind_eq_ok_iff, send_bind_eq_ok_iff]
  refine and_congr_right fun _ => ?_
  have hinsert : s.pendingRow request.requestId ≠ none →
      insertProof (proof.row request.requestId) s =
        (.ok (), { s with proofs := s.proofs.insertNew (proof.row request.requestId) }) := by
    intro hfound
    obtain ⟨row, hrow⟩ := Option.ne_none_iff_exists'.1 hfound
    refine insertProof_apply ?_
    rw [show (proof.row request.requestId).requestId = request.requestId from rfl,
      (pendingRow_eq_some_iff.1 hrow).1]
    exact Option.some_ne_none _
  constructor
  · rintro ⟨-, hfound, hsend, hrun⟩
    rw [hinsert hfound] at hrun
    cases hrun
    exact ⟨hsend, hfound, rfl⟩
  · rintro ⟨hsend, hfound, rfl⟩
    exact ⟨fun text htext => hsend text (by simp [List.mem_singleton.1 htext]), hfound, hsend,
      hinsert hfound⟩

/-! ### Activations -/

variable {case : CaseMapping} {sha256 : String → HexDigest} {organization : ActiveOrganization}

/-- The checks of an activation: the organization is that of a pending request, and can be stored. -/
structure PlatformDatabase.CanActivate (case : CaseMapping) (sha256 : String → HexDigest)
    (s : PlatformDatabase lower) (organization : ActiveOrganization)
    (row : OnboardingRequestRow × OrganizationRow) (request : OrganizationOnboardingRequest) :
    Prop where
  joined : s.joined (.organizationId organization.organizationId) = some row
  pending : row.2.state = .pending
  reads : readRequest case row = .ok request
  isOf : organization.IsOf sha256 request
  admits : s.AdmitsActivation organization

/-- The tables after an activation. -/
def PlatformDatabase.activated (s : PlatformDatabase lower) (organization : ActiveOrganization)
    (h : s.AdmitsActivation organization) : PlatformDatabase lower :=
  { s with
    proofs := s.proofs.insertNew
      (organization.identityProof.row organization.approval.requestId)
    approvals := s.approvals.insert organization.approval.row (admits_approval_iff.2 h.unapproved)
    organizations := s.organizations.update
      (.activateIf organization.organizationId organization.activatedAt)
      (OrganizationRow.keys_activateIf _ _)
    boundaries := s.boundaries.insert organization.boundaryRow h.boundaryFree
    admins := s.admins.insert organization.adminRow (admits_adminRow_iff.2 h.unadministered) }

/-- What an activation stores, if its request exists. -/
theorem storeActivation_eq_ok_iff
    (hrequest : s.requests.find? (.requestId organization.approval.requestId) ≠ none)
    (hfound : s.organizations.find? organization.organizationId ≠ none)
    (hid : Sendable organization.organizationId) :
    storeActivation organization.approval.requestId organization s = (.ok (), s') ↔
      ∃ h : s.AdmitsActivation organization, s' = s.activated organization h := by
  have hactive : (s.organizations.update
      (.activateIf organization.organizationId organization.activatedAt)
      (OrganizationRow.keys_activateIf _ _)).find? organization.organizationId ≠ none := by
    rw [KeyedTable.find?_update]
    simpa using hfound
  have hproof : insertProof (organization.identityProof.row organization.approval.requestId) s = _ :=
    insertProof_apply hrequest
  unfold storeActivation insertApproval insertBoundary insertAdmin
  rw [send_bind_eq_ok_iff, Action.bind_of_ok hproof, send_bind_eq_ok_iff, insertInto_bind_eq_ok_iff]
  simp only [setActive, Action.modify_bind_apply, send_bind_eq_ok_iff, insertInto_bind_eq_ok_iff,
    insertInto_eq_ok_iff]
  constructor
  · rintro ⟨hsend₁, hsend₂, happroval, -, hsend₃, hboundary, -, hsend₄, hadmin, haccount, rfl⟩
    have hadmits : s.AdmitsActivation organization := by
      refine ⟨?_, admits_approval_iff.1 happroval, hboundary, admits_adminRow_iff.1 hadmin,
        haccount.2⟩
      simp only [List.forall_mem_cons] at hsend₁ hsend₂ hsend₃ hsend₄ ⊢
      exact ⟨hid, hsend₂.1, hsend₁.2.1, hsend₁.2.2.1, hsend₂.2.1, hsend₂.2.2.1, hsend₃.2.1,
        hsend₄.2.1, hsend₄.2.2⟩
    exact ⟨hadmits, rfl⟩
  · rintro ⟨h, rfl⟩
    have hsend := h.sendable
    simp only [List.forall_mem_cons] at hsend
    exact ⟨by simp [hsend], by simp [hsend], admits_approval_iff.2 h.unapproved, hrequest,
      by simp [hsend], h.boundaryFree, hactive, by simp [hsend],
      admits_adminRow_iff.2 h.unadministered, ⟨hactive, h.account⟩, rfl⟩

/-- **An organization is activated exactly if the checks pass.** -/
theorem activateOrganization_eq_ok_iff :
    activateOrganization case sha256 organization s = (.ok (), s') ↔
      ∃ row request, ∃ h : s.CanActivate case sha256 organization row request,
        s' = s.activated organization h.admits := by
  have hstore : ∀ row request, s.joined (.organizationId organization.organizationId) = some row →
      readRequest case row = .ok request → organization.IsOf sha256 request →
      Sendable organization.organizationId →
      (storeActivation request.requestId organization s = (.ok (), s') ↔
        ∃ h : s.AdmitsActivation organization, s' = s.activated organization h) := by
    intro row request hjoined hread hisOf hid
    obtain ⟨hrequest, horganization⟩ := joined_eq_some_iff.1 hjoined
    obtain ⟨hmem, hkey⟩ := KeyedTable.mem_of_find? hrequest
    have horganizationId : row.1.organizationId = organization.organizationId := by
      simpa [eq_comm] using hkey
    rw [← hisOf.2.2.1]
    refine storeActivation_eq_ok_iff ?_ ?_ hid
    · rw [hisOf.2.2.1, (fields_of_readRequest hread).1]
      have hfind : s.requests.find? (.requestId row.1.requestId) = some row.1 :=
        KeyedTable.find?_eq_some_iff.2 ⟨hmem, by simp⟩
      rw [hfind]
      exact Option.some_ne_none _
    · rw [← horganizationId, horganization]
      exact Option.some_ne_none _
  unfold activateOrganization
  rw [Action.transaction_eq_ok_iff, send_bind_eq_ok_iff, Action.read_bind_apply]
  constructor
  · rintro ⟨hid, hrun⟩
    cases hfilter : (s.joined (.organizationId organization.organizationId)).filter
        (fun row => decide (row.2.state = .pending)) with
    | none =>
        rw [hfilter] at hrun
        cases hrun
    | some row =>
        rw [hfilter] at hrun
        obtain ⟨hjoined, hpending⟩ := Option.filter_eq_some_iff.1 hfilter
        obtain ⟨request, hread, hrun⟩ := validated_bind_eq_ok_iff.1 hrun
        obtain ⟨hisOf, hrun⟩ := Action.guard_bind_eq_ok_iff.1 hrun
        obtain ⟨hadmits, rfl⟩ := (hstore row request hjoined hread hisOf (hid _ (by simp))).1 hrun
        exact ⟨row, request, ⟨hjoined, of_decide_eq_true hpending, hread, hisOf, hadmits⟩, rfl⟩
  · rintro ⟨row, request, h, rfl⟩
    have hid : Sendable organization.organizationId := h.admits.sendable _ (by simp)
    refine ⟨by simpa using hid, ?_⟩
    have hfilter : (s.joined (.organizationId organization.organizationId)).filter
        (fun row => decide (row.2.state = .pending)) = some row :=
      Option.filter_eq_some_iff.2 ⟨h.joined, decide_eq_true h.pending⟩
    rw [hfilter]
    refine validated_bind_eq_ok_iff.2 ⟨request, h.reads, ?_⟩
    refine Action.guard_bind_eq_ok_iff.2 ⟨h.isOf, ?_⟩
    exact (hstore row request h.joined h.reads h.isOf hid).2 ⟨h.admits, rfl⟩

/-- An activation that fails changes nothing. -/
theorem activateOrganization_error {fault : CommandFault}
    (h : activateOrganization case sha256 organization s = (.error fault, s')) : s' = s :=
  Action.state_eq_of_error h

/-! ### What is read of an active organization -/

/-- The rows an active organization is joined from. -/
structure RoutableRows where
  organization : OrganizationRow
  boundary : IdentityBoundaryRow
  approval : OnboardingApprovalRow
  admin : TenantAdminRow
  active : organization.state = .active
  deriving DecidableEq

/-- The rows of an organization, if it is active and they are all there. -/
def PlatformDatabase.routableRows (s : PlatformDatabase lower) (organizationId : String) :
    Option RoutableRows := do
  let organization ← s.organizations.find? organizationId
  let boundary ← s.boundaries.find? (.organizationId organizationId)
  let request ← s.requests.find? (.organizationId organizationId)
  let approval ← s.approvals.find? request.requestId
  let admin ← s.admins.find? organizationId
  if h : organization.state = .active then some ⟨organization, boundary, approval, admin, h⟩
  else none

/-- Validate an approval. -/
def organizationOnboardingApproval (requestId : String) (digest : HexDigest)
    (approvedBy : AuthenticatedApplicant) (approvedAt : ℕ) :
    Except ValidationError OrganizationOnboardingApproval :=
  if h : 8 ≤ requestId.length then .ok ⟨requestId, digest, approvedBy, approvedAt, h⟩
  else .error ⟨"OrganizationOnboardingApproval", "request_id"⟩

/-- Validate an active organization. -/
def activeOrganization (organizationId organizationName : String)
    (identityBoundary : OrganizationIdentityBoundary)
    (identityProof : IdentityBoundaryVerificationEvidence)
    (approval : OrganizationOnboardingApproval) (initialTenantAdmin : AuthenticatedApplicant)
    (activatedAt : ℕ) : Except ValidationError ActiveOrganization :=
  if hid : 5 ≤ organizationId.length then
    if hname : FitsLength 1 200 organizationName then
      .ok ⟨organizationId, organizationName, identityBoundary, identityProof, approval,
        initialTenantAdmin, .active, activatedAt, hid, hname⟩
    else .error ⟨"ActiveOrganization", "organization_name"⟩
  else .error ⟨"ActiveOrganization", "organization_id"⟩

/-- When an active organization was activated. -/
def RoutableRows.activatedAt (rows : RoutableRows) : ℕ :=
  rows.organization.activatedAt.get
    (Option.isSome_iff_ne_none.2 (rows.organization.activeHasTimestamp rows.active))

/-- The active organization of its rows. -/
def readRoutable (case : CaseMapping) (rows : RoutableRows) :
    Except ValidationError ActiveOrganization := do
  let boundary ← organizationIdentityBoundary case rows.boundary.boundaryKind
    rows.boundary.boundaryReference
  let proof ← identityBoundaryVerificationEvidence boundary.kind boundary.reference
    rows.boundary.evidenceRef rows.boundary.verifiedAt
  let approver ← authenticatedApplicant rows.approval.approverIssuer rows.approval.approverSubject
  let approval ← organizationOnboardingApproval rows.approval.requestId
    rows.approval.onboardingDigest approver rows.approval.approvedAt
  let admin ← authenticatedApplicant rows.admin.issuer rows.admin.userSubject
  activeOrganization rows.organization.organizationId rows.organization.organizationName boundary
    proof approval admin rows.activatedAt

/-- `resolve_routable_organization`. -/
def resolveRoutableOrganization (case : CaseMapping) (organizationId : String) :
    PlatformAction lower (Option ActiveOrganization) := do
  send [organizationId]
  let found ← .read fun s => s.routableRows organizationId
  match found with
  | none => pure none
  | some rows => do
      let organization ← validated (readRoutable case rows)
      pure (some organization)

theorem routableRows_eq_some_iff {organizationId : String} {rows : RoutableRows} :
    s.routableRows organizationId = some rows ↔
      s.organizations.find? organizationId = some rows.organization ∧
      s.boundaries.find? (.organizationId organizationId) = some rows.boundary ∧
      (∃ request, s.requests.find? (.organizationId organizationId) = some request ∧
        s.approvals.find? request.requestId = some rows.approval) ∧
      s.admins.find? organizationId = some rows.admin := by
  unfold PlatformDatabase.routableRows
  constructor
  · intro h
    obtain ⟨organization, horganization, h⟩ := Option.bind_eq_some_iff.1 h
    obtain ⟨boundary, hboundary, h⟩ := Option.bind_eq_some_iff.1 h
    obtain ⟨request, hrequest, h⟩ := Option.bind_eq_some_iff.1 h
    obtain ⟨approval, happroval, h⟩ := Option.bind_eq_some_iff.1 h
    obtain ⟨admin, hadmin, h⟩ := Option.bind_eq_some_iff.1 h
    split at h
    · cases h
      exact ⟨horganization, hboundary, ⟨request, hrequest, happroval⟩, hadmin⟩
    · cases h
  · rintro ⟨horganization, hboundary, ⟨request, hrequest, happroval⟩, hadmin⟩
    simp only [horganization, hboundary, hrequest, happroval, hadmin, Option.bind_eq_bind,
      Option.bind_some, dif_pos rows.active]

theorem resolveRoutableOrganization_of_rows {organizationId : String} {rows : RoutableRows}
    (hsend : Sendable organizationId) (hrows : s.routableRows organizationId = some rows)
    (hread : readRoutable case rows = .ok organization) :
    resolveRoutableOrganization case organizationId s = (.ok (some organization), s) := by
  unfold resolveRoutableOrganization
  rw [send_bind_of_sendable (by simpa using hsend), Action.read_bind_apply, hrows]
  exact validated_bind_of_ok hread _

theorem resolveRoutableOrganization_of_none {organizationId : String} (hsend : Sendable organizationId)
    (hrows : s.routableRows organizationId = none) :
    resolveRoutableOrganization case organizationId s = (.ok none, s) := by
  unfold resolveRoutableOrganization
  rw [send_bind_of_sendable (by simpa using hsend), Action.read_bind_apply, hrows]
  rfl

end

/-! ### Reading what was validated before -/

section
variable {case : CaseMapping}

theorem authenticatedApplicant_self (applicant : AuthenticatedApplicant) :
    authenticatedApplicant applicant.issuer applicant.subject = .ok applicant := by
  unfold authenticatedApplicant
  rw [dif_pos applicant.issuer_ne, dif_pos applicant.subject_ne]

theorem organizationOnboardingApproval_self (approval : OrganizationOnboardingApproval) :
    organizationOnboardingApproval approval.requestId approval.onboardingDigest approval.approvedBy
      approval.approvedAt = .ok approval := by
  unfold organizationOnboardingApproval
  rw [dif_pos approval.requestId_length]

theorem activeOrganization_self {organization : ActiveOrganization}
    (h : organization.state = .active) :
    activeOrganization organization.organizationId organization.organizationName
      organization.identityBoundary organization.identityProof organization.approval
      organization.initialTenantAdmin organization.activatedAt = .ok organization := by
  unfold activeOrganization
  rw [dif_pos organization.organizationId_length, dif_pos organization.nameFits]
  cases organization
  cases h
  rfl

/-- A boundary that was read is in normal form: read again, it is the same. -/
theorem organizationIdentityBoundary_self {kind : IdentityBoundaryKind} {text : String}
    {boundary : OrganizationIdentityBoundary}
    (h : organizationIdentityBoundary case kind text = .ok boundary)
    (hfits : FitsLength 1 512 boundary.reference) :
    organizationIdentityBoundary case boundary.kind boundary.reference = .ok boundary := by
  unfold organizationIdentityBoundary at h ⊢
  rw [if_pos hfits]
  have hstrip : strip boundary.reference = boundary.reference :=
    strip_of_not_hasSpace boundary.noSpace
  simp only [hstrip]
  rw [dif_pos ⟨boundary.nonempty, boundary.noSpace⟩]
  split at h
  · dsimp only at h
    split at h
    · split at h
      · rename_i hat
        cases h
        rw [if_pos hat]
      · rename_i hat
        cases h
        rw [if_neg (case.noAt _ hat)]
        simp [case.idempotent]
    · cases h
  · cases h

end

/-! ### What a review loads -/

section
variable {lower : String → String} {deployment : OnboardingDeployment}
  {s s' : PlatformDatabase lower} {request : OrganizationOnboardingRequest}

theorem authorize_eq_ok_iff {reviewer : AuthenticatedApplicant} {requestId : String} :
    authorize deployment reviewer requestId s = (.ok (), s') ↔
      deployment.mayReviewOnboarding reviewer requestId = true ∧ s' = s := by
  unfold authorize Action.guard
  split
  · rename_i h
    rw [Action.pure_apply, Prod.mk.injEq, eq_comm (b := s')]
    exact ⟨fun heq => ⟨h, heq.2⟩, fun heq => ⟨rfl, heq.2⟩⟩
  · rename_i h
    exact iff_of_false (fun heq => by cases heq) fun heq => h heq.1

/-- **A review loads exactly the requests that are ready.** -/
theorem load_eq_ok_iff {requestId : String} {proof : IdentityBoundaryVerificationEvidence} :
    load deployment requestId s = (.ok (request, proof), s') ↔
      Sendable requestId ∧ (∃ row, s.Ready deployment.case requestId row request proof) ∧
        s' = s := by
  by_cases hsend : Sendable requestId
  · by_cases hready : s.reviewStanding deployment.case requestId = .ready
    · obtain ⟨row, request', proof', h⟩ := reviewStanding_eq_ready_iff.1 hready
      rw [load_of_ready hsend h]
      constructor
      · intro heq
        cases heq
        exact ⟨hsend, ⟨row, h⟩, rfl⟩
      · rintro ⟨-, ⟨row', h'⟩, rfl⟩
        have hload := (load_of_ready hsend h).symm.trans (load_of_ready hsend h')
        exact hload
    · rw [load_of_not_ready hsend hready]
      refine iff_of_false (fun heq => by cases heq) ?_
      rintro ⟨-, ⟨row, h⟩, -⟩
      exact hready (reviewStanding_eq_ready_iff.2 ⟨row, request, proof, h⟩)
  · have hload : load deployment requestId s = (.error unsendable, s) := by
      unfold load
      rw [Action.bind_of_error (getPendingRequest_of_unsendable hsend)]
    rw [hload]
    exact iff_of_false (fun heq => by cases heq) fun h => hsend h.1

end

end PlatformOps
