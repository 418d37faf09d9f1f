/-
**An activation is read back.**

An activation is given the whole organization.  It compares the boundary, the proof and the approval
with the pending request, and stores the boundary, the proof, the approval, the administrator and
the time.  It does not compare the name, the administrator and the state.  The name and the state are
not stored either: the organization keeps the name of its request, and is read as active.

Main definitions:

* `ActiveOrganization.Agrees`, `ActiveOrganization.Differs` — an organization, and the request it is
  of;
* `RoundTrip` — what is accepted is read back, and what differs from the request is refused.

Main results:

* `resolveRoutableOrganization_activated` — an organization that agrees with its request is read
  back;
* `activation_round_trip_iff` — **the round trip holds exactly of the organizations that agree with
  their request, if the checks pass**;
* `activated_with_another_admin` — another user becomes the first administrator.
-/

import PlatformOps.OnboardingRepository

set_option relaxedAutoImplicit false
set_option autoImplicit false

namespace PlatformOps

/-- The administrator is the applicant, the name is that of the request, and the state is active. -/
def ActiveOrganization.Agrees (organization : ActiveOrganization)
    (request : OrganizationOnboardingRequest) : Prop :=
  organization.initialTenantAdmin = request.applicant ∧
    organization.organizationName = request.organizationName ∧ organization.state = .active

/-- The organization differs from the request in its name, its administrator, its boundary, its
proof, its approval or its state. -/
def ActiveOrganization.Differs (sha256 : String → HexDigest) (organization : ActiveOrganization)
    (request : OrganizationOnboardingRequest) : Prop :=
  ¬ organization.Agrees request ∨ ¬ organization.IsOf sha256 request

section
variable {lower : String → String}

/-- What is accepted is the organization of the pending request, and is read back as it is; what
differs from the request is refused, and changes nothing. -/
structure RoundTrip (case : CaseMapping) (sha256 : String → HexDigest) (s : PlatformDatabase lower)
    (organization : ActiveOrganization) : Prop where
  accepted : ∀ s', activateOrganization case sha256 organization s = (.ok (), s') →
    ∃ row request, s.joined (.organizationId organization.organizationId) = some row ∧
      readRequest case row = .ok request ∧ organization.Agrees request ∧
      resolveRoutableOrganization case organization.organizationId s' =
        (.ok (some organization), s')
  refused : ∀ row request, s.joined (.organizationId organization.organizationId) = some row →
    readRequest case row = .ok request → organization.Differs sha256 request →
      ∃ fault, activateOrganization case sha256 organization s = (.error fault, s)

variable {case : CaseMapping} {sha256 : String → HexDigest} {s : PlatformDatabase lower}
  {organization : ActiveOrganization} {row : OnboardingRequestRow × OrganizationRow}
  {request : OrganizationOnboardingRequest}

/-- The name and the boundary of a request are those of its rows. -/
theorem boundary_of_readRequest (h : readRequest case row = .ok request) :
    request.organizationName = row.2.organizationName ∧
      organizationIdentityBoundary case row.1.boundaryKind row.1.boundaryReference =
        .ok request.identityBoundary := by
  obtain ⟨applicant, -, hrest⟩ := bind_eq_ok_iff.1 h
  obtain ⟨boundary, hboundary, hrequest⟩ := bind_eq_ok_iff.1 hrest
  unfold organizationOnboardingRequest at hrequest
  split at hrequest
  · split at hrequest
    · split at hrequest
      · cases hrequest
        exact ⟨rfl, hboundary⟩
      · cases hrequest
    · cases hrequest
  · cases hrequest

/-- The rows of an organization that was just activated. -/
theorem PlatformDatabase.CanActivate.routableRows
    (h : s.CanActivate case sha256 organization row request) :
    (s.activated organization h.admits).routableRows organization.organizationId =
      some ⟨row.2.activate organization.activatedAt, organization.boundaryRow,
        organization.approval.row, organization.adminRow, rfl⟩ := by
  obtain ⟨hrequest, horganization⟩ := joined_eq_some_iff.1 h.joined
  have hid : row.1.organizationId = organization.organizationId := by
    simpa [eq_comm] using (KeyedTable.mem_of_find? hrequest).2
  rw [hid] at horganization
  have hrowId : row.2.organizationId = organization.organizationId := by
    simpa [eq_comm] using (KeyedTable.mem_of_find? horganization).2
  refine routableRows_eq_some_iff.2 ⟨?_, ?_, ⟨row.1, hrequest, ?_⟩, ?_⟩
  · unfold PlatformDatabase.activated
    rw [KeyedTable.find?_update, horganization]
    exact congrArg some (if_pos hrowId)
  · exact KeyedTable.find?_insert_self _ h.admits.boundaryFree
      (by simp [ActiveOrganization.boundaryRow])
  · refine KeyedTable.find?_insert_self _ (admits_approval_iff.2 h.admits.unapproved) ?_
    have hsame : row.1.requestId = organization.approval.requestId :=
      (fields_of_readRequest h.reads).1.symm.trans h.isOf.2.2.1.symm
    simp [OrganizationOnboardingApproval.row, hsame]
  · exact KeyedTable.find?_insert_self _ (admits_adminRow_iff.2 h.admits.unadministered)
      (by simp [ActiveOrganization.adminRow])

/-- **The rows of an activation are read as its organization**, if its boundary reads as it is and
the proof is of it. -/
theorem readRoutable_activate {row : OrganizationRow}
    (hread : organizationIdentityBoundary case organization.identityBoundary.kind
      organization.identityBoundary.reference = .ok organization.identityBoundary)
    (hkind : organization.identityProof.kind = organization.identityBoundary.kind)
    (hreference : organization.identityProof.reference = organization.identityBoundary.reference)
    (hid : row.organizationId = organization.organizationId)
    (hname : row.organizationName = organization.organizationName)
    (hstate : organization.state = .active) :
    readRoutable case ⟨row.activate organization.activatedAt, organization.boundaryRow,
      organization.approval.row, organization.adminRow, rfl⟩ = .ok organization := by
  -- the proof has the reference of the boundary, which therefore fits
  have hfits : FitsLength 1 512 organization.identityBoundary.reference :=
    hreference ▸ organization.identityProof.referenceFits
  have hproof : identityBoundaryVerificationEvidence organization.identityBoundary.kind
      organization.identityBoundary.reference organization.identityProof.evidenceRef
      organization.identityProof.verifiedAt = .ok organization.identityProof := by
    unfold identityBoundaryVerificationEvidence
    rw [dif_pos hfits, dif_pos organization.identityProof.evidenceFits]
    simp only [← hkind, ← hreference]
  unfold PlatformOps.readRoutable
  refine bind_eq_ok_iff.2 ⟨_, hread, ?_⟩
  refine bind_eq_ok_iff.2 ⟨_, hproof, ?_⟩
  refine bind_eq_ok_iff.2 ⟨_, authenticatedApplicant_self organization.approval.approvedBy, ?_⟩
  refine bind_eq_ok_iff.2 ⟨_, organizationOnboardingApproval_self organization.approval, ?_⟩
  refine bind_eq_ok_iff.2 ⟨_, authenticatedApplicant_self organization.initialTenantAdmin, ?_⟩
  refine Eq.trans ?_ (activeOrganization_self hstate)
  exact congrArg₂ (fun id name => activeOrganization id name _ _ _ _ _) hid hname

/-- The rows of an organization are read as the organization, if it agrees with its request. -/
theorem PlatformDatabase.CanActivate.readRoutable
    (h : s.CanActivate case sha256 organization row request)
    (hagrees : organization.Agrees request) :
    readRoutable case ⟨row.2.activate organization.activatedAt, organization.boundaryRow,
      organization.approval.row, organization.adminRow, rfl⟩ = .ok organization := by
  obtain ⟨hboundary, ⟨hkind, hreference⟩, -, -⟩ := h.isOf
  obtain ⟨hname, hread⟩ := boundary_of_readRequest h.reads
  obtain ⟨-, hsameName, hstate⟩ := hagrees
  obtain ⟨hrequest, horganization⟩ := joined_eq_some_iff.1 h.joined
  have hid : row.2.organizationId = organization.organizationId := by
    have hrowId : row.1.organizationId = organization.organizationId := by
      simpa [eq_comm] using (KeyedTable.mem_of_find? hrequest).2
    rw [← hrowId]
    simpa [eq_comm] using (KeyedTable.mem_of_find? horganization).2
  rw [← hboundary] at hkind hreference hread
  have hfits : FitsLength 1 512 organization.identityBoundary.reference :=
    hreference ▸ organization.identityProof.referenceFits
  exact readRoutable_activate (organizationIdentityBoundary_self hread hfits) hkind hreference hid
    (hname.symm.trans hsameName.symm) hstate

/-- **An organization that agrees with its request is read back.** -/
theorem resolveRoutableOrganization_activated
    (h : s.CanActivate case sha256 organization row request) (hagrees : organization.Agrees request) :
    resolveRoutableOrganization case organization.organizationId
        (s.activated organization h.admits) =
      (.ok (some organization), s.activated organization h.admits) :=
  resolveRoutableOrganization_of_rows (h.admits.sendable _ (by simp)) h.routableRows
    (h.readRoutable hagrees)

end

/-- **The round trip holds exactly of the organizations that agree with their request**, if the
checks pass. -/
theorem activation_round_trip_iff {lower : String → String} (case : CaseMapping)
    (sha256 : String → HexDigest) (s : PlatformDatabase lower) (organization : ActiveOrganization) :
    RoundTrip case sha256 s organization ↔
      ∀ row request, s.CanActivate case sha256 organization row request →
        organization.Agrees request := by
  constructor
  · intro h row request hcan
    obtain ⟨row', request', hjoined, hread, hagrees, -⟩ :=
      h.accepted _ (activateOrganization_eq_ok_iff.2 ⟨row, request, hcan, rfl⟩)
    rw [hcan.joined] at hjoined
    cases hjoined
    rw [hcan.reads] at hread
    cases hread
    exact hagrees
  · intro h
    refine ⟨?_, ?_⟩
    · intro s' hrun
      obtain ⟨row, request, hcan, rfl⟩ := activateOrganization_eq_ok_iff.1 hrun
      have hagrees := h row request hcan
      exact ⟨row, request, hcan.joined, hcan.reads, hagrees,
        resolveRoutableOrganization_activated hcan hagrees⟩
    · intro row request hjoined hread hdiffers
      rcases hrun : activateOrganization case sha256 organization s with ⟨result, s'⟩
      cases result with
      | error fault =>
          rw [activateOrganization_error hrun]
          exact ⟨fault, rfl⟩
      | ok u =>
          obtain ⟨row', request', hcan, -⟩ := activateOrganization_eq_ok_iff.1 hrun
          rw [hcan.joined] at hjoined
          cases hjoined
          rw [hcan.reads] at hread
          cases hread
          rcases hdiffers with hnot | hnot
          · exact absurd (h _ _ hcan) hnot
          · exact absurd hcan.isOf hnot

/-- Alice's request, and Mallory's account. -/
def malloryRegistered : PlatformDatabase asciiLower :=
  { aliceAsked with
    accounts := ⟨"user_mallory", 0, by decide⟩ :: aliceAsked.accounts }

/-- The organization of Alice's request, with Mallory as its first administrator and another name. -/
def malloryOrganization : ActiveOrganization where
  organizationId := "org_1"
  organizationName := "Mallory & Co"
  identityBoundary := aliceStart.identityBoundary
  identityProof := aliceProof
  approval := ⟨"orgreq_1", emptyDigest, bobReviewer, 0, by decide⟩
  initialTenantAdmin := ⟨"platformops", "user_mallory", aliceApplicant.issuer_ne, by decide⟩
  state := .active
  activatedAt := 1
  organizationId_length := by decide
  nameFits := by decide

/-- **Mallory becomes the first administrator** of the organization Alice has asked for. -/
theorem activated_with_another_admin :
    (activateOrganization .asciiOnly (fun _ => emptyDigest) malloryOrganization
        malloryRegistered).1 = .ok () ∧
      ¬ RoundTrip .asciiOnly (fun _ => emptyDigest) malloryRegistered malloryOrganization := by
  have haccepted : (activateOrganization .asciiOnly (fun _ => emptyDigest) malloryOrganization
      malloryRegistered).1 = .ok () := by
    decide
  refine ⟨haccepted, fun h => ?_⟩
  obtain ⟨row, request, hjoined, hread, ⟨hadmin, -⟩, -⟩ := h.accepted _ (Prod.ext haccepted rfl)
  have hrow : malloryRegistered.joined (.organizationId malloryOrganization.organizationId) =
      some (aliceRequest, aliceOrganization) := by
    decide
  rw [hrow] at hjoined
  cases hjoined
  have hsubject := (fields_of_readRequest hread).2.2.2.1
  rw [← hadmin] at hsubject
  exact absurd hsubject (by decide)

end PlatformOps
