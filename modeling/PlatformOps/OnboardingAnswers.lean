/-
**Faults that the endpoint of the commands answers.**

The endpoint answers three kinds of faults: an unavailable route, a permission error and a
validation error.  Every other fault of a store or of a workflow escapes it.  Here is when, for each
of the onboarding commands, no other fault is raised, as a condition on the tables before the
command.

Main definitions:

* `CommandFault.Mapped`, `Answered` — the faults that are answered, and the actions that raise no
  others;
* `PlatformDatabase.AdmitsRequest` — a request can be stored;
* `OnboardingDeployment.AdmitsStart` — so can what the verifier makes of it;
* `PlatformDatabase.AdmitsActivation` — a request and its proof can become an active organization;
* `OnboardingDeployment.AdmitsReview`, `OnboardingDeployment.AdmitsView` — a review, and the read of
  an administrator, find what they look for.

Main results:

* `answered_onboardOrganizationHandler_iff`, `answered_reviewOnboardingHandler_iff`,
  `answered_viewOnboardingReviewHandler_iff` — **when a handler raises nothing but what is
  answered**.
-/

import PlatformOps.OrganizationOnboarding

set_option relaxedAutoImplicit false
set_option autoImplicit false

namespace PlatformOps

variable {lower : String → String}

/-! ### What is raised -/

/-- The endpoint of the commands answers this fault. -/
def CommandFault.Mapped : CommandFault → Prop
  | .routeUnavailable _ => True
  | .permissionError _ _ => True
  | .validationError _ => True
  | .valueError _ _ => False
  | .databaseError _ _ => False

/-- From these tables, the action raises nothing but what the endpoint answers. -/
abbrev Answered {α : Type} (x : PlatformAction lower α) (s : PlatformDatabase lower) : Prop :=
  Action.RaisesOnly CommandFault.Mapped x s

theorem answered_validated {α : Type} (x : Except ValidationError α) (s : PlatformDatabase lower) :
    Answered (validated x : PlatformAction lower α) s := by
  cases x with
  | ok a => exact Action.raisesOnly_of_ok rfl
  | error e => exact (Action.raisesOnly_of_error rfl).2 trivial

theorem answered_send_bind_iff {α : Type} {texts : List String}
    {f : Unit → PlatformAction lower α} {s : PlatformDatabase lower} :
    Answered (send texts >>= f) s ↔ (∀ text ∈ texts, Sendable text) ∧ Answered (f ()) s :=
  Action.raisesOnly_guard_bind_iff fun h => h

/-- A stage that returns a value of the state or raises what is not answered. -/
theorem answered_bind_of_ok_iff {α β : Type} {x : PlatformAction lower α}
    {f : α → PlatformAction lower β} {s t : PlatformDatabase lower} {a : α}
    (h : x s = (.ok a, t)) : Answered (x >>= f) s ↔ Answered (f a) t := by
  unfold Answered Action.RaisesOnly
  rw [Action.bind_of_ok h]

theorem not_answered_bind {α β : Type} {x : PlatformAction lower α} {f : α → PlatformAction lower β}
    {s t : PlatformDatabase lower} {fault : CommandFault} (h : x s = (.error fault, t))
    (hfault : ¬ fault.Mapped) : ¬ Answered (x >>= f) s := by
  rw [Answered, Action.raisesOnly_of_error (Action.bind_of_error h f)]
  exact hfault

theorem insertInto_of_admits {κ α : Type} [DecidableEq κ] {keys : α → List κ}
    {get : PlatformDatabase lower → KeyedTable keys}
    {set : KeyedTable keys → PlatformDatabase lower → PlatformDatabase lower} {table : String}
    {refers : PlatformDatabase lower → Prop} [DecidablePred refers] {row : α}
    {s : PlatformDatabase lower} (h : (get s).Admits row) (hrefers : refers s) :
    insertInto get set table refers row s = (.ok (), set ((get s).insert row h) s) := by
  unfold insertInto
  rw [dif_pos h, if_pos hrefers]

theorem answered_insertInto_bind_iff {κ α β : Type} [DecidableEq κ] {keys : α → List κ}
    {get : PlatformDatabase lower → KeyedTable keys}
    {set : KeyedTable keys → PlatformDatabase lower → PlatformDatabase lower} {table : String}
    {refers : PlatformDatabase lower → Prop} [DecidablePred refers] {row : α}
    {f : Unit → PlatformAction lower β} {s : PlatformDatabase lower} :
    Answered (insertInto get set table refers row >>= f) s ↔
      ∃ h : (get s).Admits row, refers s ∧ Answered (f ()) (set ((get s).insert row h) s) := by
  by_cases h : (get s).Admits row
  · by_cases hrefers : refers s
    · rw [answered_bind_of_ok_iff (insertInto_of_admits h hrefers)]
      exact ⟨fun hrest => ⟨h, hrefers, hrest⟩, fun ⟨_, _, hrest⟩ => hrest⟩
    · have hrun : insertInto get set table refers row s =
          (.error (foreignKeyViolationOf table), s) := by
        unfold insertInto
        rw [dif_pos h, if_neg hrefers]
      exact iff_of_false (not_answered_bind hrun fun hfault => hfault)
        fun ⟨_, hsome, _⟩ => hrefers hsome
  · have hrun : insertInto get set table refers row s =
        (.error (uniqueViolationOf table), s) := by
      unfold insertInto
      rw [dif_neg h]
    exact iff_of_false (not_answered_bind hrun fun hfault => hfault) fun ⟨hadmits, _⟩ => h hadmits


theorem answered_insertInto_iff {κ α : Type} [DecidableEq κ] {keys : α → List κ}
    {get : PlatformDatabase lower → KeyedTable keys}
    {set : KeyedTable keys → PlatformDatabase lower → PlatformDatabase lower} {table : String}
    {refers : PlatformDatabase lower → Prop} [DecidablePred refers] {row : α}
    {s : PlatformDatabase lower} :
    Answered (insertInto get set table refers row) s ↔ (get s).Admits row ∧ refers s := by
  unfold Answered insertInto Action.RaisesOnly
  by_cases h : (get s).Admits row
  · by_cases hrefers : refers s
    · simp [h, hrefers]
    · simp [h, hrefers, foreignKeyViolationOf, CommandFault.Mapped]
  · simp [h, uniqueViolationOf, CommandFault.Mapped]

theorem answered_guard_bind_iff {α : Type} {condition : Prop} [Decidable condition]
    {fault : CommandFault} {f : Unit → PlatformAction lower α} {s : PlatformDatabase lower}
    (h : ¬ fault.Mapped) :
    Answered ((Action.guard condition fault : PlatformAction lower Unit) >>= f) s ↔
      condition ∧ Answered (f ()) s :=
  Action.raisesOnly_guard_bind_iff h

theorem not_mapped_valueError (kind detail : String) :
    ¬ (CommandFault.valueError kind detail).Mapped := id

theorem not_mapped_databaseError (kind detail : String) :
    ¬ (CommandFault.databaseError kind detail).Mapped := id

theorem answered_validated_bind_iff {α β : Type} {x : Except ValidationError α}
    {f : α → PlatformAction lower β} {s : PlatformDatabase lower} :
    Answered (validated x >>= f) s ↔ ∀ a, x = .ok a → Answered (f a) s := by
  cases x with
  | error e =>
      refine iff_of_true ?_ fun a h => nomatch h
      exact (Action.raisesOnly_of_error (validated_bind_of_error rfl f)).2 trivial
  | ok a =>
      rw [Answered, Action.RaisesOnly, validated_bind_of_ok rfl f]
      exact ⟨fun h b hb => by cases hb; exact h, fun h => h a rfl⟩

/-! ### A request is stored -/

theorem mapped_alreadyRequested_iff {fault : CommandFault} :
    (alreadyRequested fault).Mapped ↔ fault.Mapped := by
  unfold alreadyRequested
  split
  · rfl
  · rfl

/-- A pending request can be stored: its texts can be sent, its keys are free, and its applicant has
an account. -/
structure PlatformDatabase.AdmitsRequest (s : PlatformDatabase lower)
    (request : OrganizationOnboardingRequest) : Prop where
  sendable : ∀ text ∈ [request.organizationId, request.organizationName, request.requestId,
    request.applicant.issuer, request.applicant.subject, request.identityBoundary.reference],
    Sendable text
  organizationFree : s.organizations.find? request.organizationId = none
  requestFree : s.requests.Admits request.row
  account : s.HasAccount request.applicant.subject

section
variable {s : PlatformDatabase lower} {request : OrganizationOnboardingRequest}

theorem admits_organizationRow_iff (hstate : request.state ≠ .active) :
    s.organizations.Admits (request.organizationRow hstate) ↔
      s.organizations.find? request.organizationId = none := by
  rw [KeyedTable.admits_iff]
  exact List.forall_mem_singleton

/-- A pending request is saved, or what is raised is not answered. -/
theorem answered_savePending_iff (hstate : request.state = .pending) :
    Answered (savePending request) s ↔ s.AdmitsRequest request := by
  have hactive : request.state ≠ .active := by simp [hstate]
  unfold savePending
  rw [Answered, Action.raisesOnly_mapError_iff, Action.raisesOnly_transaction_iff]
  simp only [mapped_alreadyRequested_iff, dif_neg hactive]
  refine answered_send_bind_iff.trans ?_
  unfold insertOrganization insertRequest
  rw [answered_insertInto_bind_iff]
  constructor
  · rintro ⟨hsend, horganization, -, hrest⟩
    obtain ⟨hsend', hrest⟩ := answered_send_bind_iff.1 hrest
    obtain ⟨-, hrest⟩ := (answered_guard_bind_iff (not_mapped_databaseError _ _)).1 hrest
    obtain ⟨hrequest, hrefers⟩ := answered_insertInto_iff.1 hrest
    refine ⟨?_, (admits_organizationRow_iff hactive).1 horganization, hrequest, hrefers.2⟩
    simp only [List.forall_mem_cons] at hsend hsend' ⊢
    exact ⟨hsend.1, hsend.2.1, hsend'.1, hsend'.2.2⟩
  · intro h
    have hsend := h.sendable
    simp only [List.forall_mem_cons] at hsend
    have horganization := (admits_organizationRow_iff hactive).2 h.organizationFree
    refine ⟨by simp [hsend], horganization, trivial, ?_⟩
    refine answered_send_bind_iff.2 ⟨by simp [hsend], ?_⟩
    refine (answered_guard_bind_iff (not_mapped_databaseError _ _)).2 ⟨hstate, ?_⟩
    refine answered_insertInto_iff.2 ⟨h.requestFree, ?_, h.account⟩
    simp [OrganizationOnboardingRequest.row, OrganizationOnboardingRequest.organizationRow]

/-- The tables with the request stored. -/
def PlatformDatabase.AdmitsRequest.saved (h : s.AdmitsRequest request)
    (hactive : request.state ≠ .active) : PlatformDatabase lower :=
  { s with
    organizations := s.organizations.insert (request.organizationRow hactive)
      ((admits_organizationRow_iff hactive).2 h.organizationFree)
    requests := s.requests.insert request.row h.requestFree }

/-- A pending request that is admitted is saved. -/
theorem savePending_of_admits (hstate : request.state = .pending)
    (hactive : request.state ≠ .active) (h : s.AdmitsRequest request) :
    savePending request s = (.ok (), h.saved hactive) := by
  have hsend := h.sendable
  simp only [List.forall_mem_cons] at hsend
  have horganization := (admits_organizationRow_iff hactive).2 h.organizationFree
  have hrefers : (s.organizations.insert (request.organizationRow hactive) horganization).find?
      request.organizationId ≠ none ∧ s.HasAccount request.applicant.subject := by
    refine ⟨?_, h.account⟩
    simp [OrganizationOnboardingRequest.organizationRow]
  have hrun : (do
      send [request.organizationId, request.organizationName]
      insertOrganization (request.organizationRow hactive)
      send [request.requestId, request.organizationId, request.applicant.issuer,
        request.applicant.subject, request.identityBoundary.reference]
      Action.guard (request.state = .pending) (checkViolationOf "organization_onboarding_requests")
      insertRequest request.row : PlatformAction lower Unit) s = (.ok (), h.saved hactive) := by
    rw [send_bind_of_sendable (by simp [hsend])]
    refine (Action.bind_of_ok (insertInto_of_admits horganization trivial) _).trans ?_
    rw [send_bind_of_sendable (by simp [hsend]), Action.guard_bind_apply, if_pos hstate]
    refine insertInto_of_admits _ ?_
    exact hrefers
  unfold savePending Action.mapError
  rw [dif_neg hactive, Action.transaction_of_ok hrun]
  rfl

/-- A request that is stored is pending. -/
theorem pendingRow_saved (hstate : request.state = .pending) (hactive : request.state ≠ .active)
    (h : s.AdmitsRequest request) :
    (h.saved hactive).pendingRow request.requestId =
      some (request.row, request.organizationRow hactive) := by
  refine pendingRow_eq_some_iff.2 ⟨?_, ?_, hstate⟩
  · exact KeyedTable.find?_insert_self _ h.requestFree (by simp [OrganizationOnboardingRequest.row])
  · exact KeyedTable.find?_insert_self _ ((admits_organizationRow_iff hactive).2 h.organizationFree)
      (by simp [OrganizationOnboardingRequest.row, OrganizationOnboardingRequest.organizationRow])

/-! ### A proof is recorded -/

/-- A proof is recorded of a pending request, or what is raised is not answered. -/
theorem answered_recordIdentityProof_iff {proof : IdentityBoundaryVerificationEvidence}
    {row : OnboardingRequestRow × OrganizationRow}
    (hrow : s.pendingRow request.requestId = some row) :
    Answered (recordIdentityProof request proof) s ↔
      proof.Matches request ∧
        ∀ text ∈ [request.requestId, proof.reference, proof.evidenceRef], Sendable text := by
  have hfound : s.requests.find? (.requestId request.requestId) ≠ none := by
    rw [(pendingRow_eq_some_iff.1 hrow).1]
    exact Option.some_ne_none _
  have hproof : Answered (insertProof (proof.row request.requestId)) s := by
    by_cases hadmits : s.proofs.Admits (proof.row request.requestId)
    · unfold Answered Action.RaisesOnly insertProof
      rw [if_pos hadmits]
      refine answered_insertInto_iff.2 ⟨hadmits, ?_⟩
      exact hfound
    · unfold Answered Action.RaisesOnly insertProof
      rw [if_neg hadmits]
      exact Action.raisesOnly_pure () s
  unfold recordIdentityProof
  refine (answered_guard_bind_iff (not_mapped_valueError _ _)).trans (and_congr_right fun _ => ?_)
  rw [Answered, Action.raisesOnly_transaction_iff]
  refine answered_send_bind_iff.trans ?_
  constructor
  · rintro ⟨-, hrest⟩
    have hread := Action.raisesOnly_read_bind_iff.1 hrest
    obtain ⟨-, hrest⟩ := (answered_guard_bind_iff (not_mapped_valueError _ _)).1 hread
    exact (answered_send_bind_iff.1 hrest).1
  · intro hsend
    refine ⟨fun text htext => hsend text (by simp [List.mem_singleton.1 htext]), ?_⟩
    refine Action.raisesOnly_read_bind_iff.2 ?_
    refine (answered_guard_bind_iff (not_mapped_valueError _ _)).2 ⟨?_, ?_⟩
    · rw [hrow]
      exact Option.some_ne_none _
    · exact answered_send_bind_iff.2 ⟨hsend, hproof⟩

end

/-! ### A request is started -/

/-- A request can be stored, and so can what the verifier makes of it. -/
structure OnboardingDeployment.AdmitsStart (deployment : OnboardingDeployment)
    (s : PlatformDatabase lower) (request : OrganizationOnboardingRequest) (verifiedAt : ℕ) :
    Prop where
  stored : s.AdmitsRequest request
  verifier : ∀ fault, deployment.verify request verifiedAt = .error fault → fault.Mapped
  proof : ∀ proof, deployment.verify request verifiedAt = .ok (some proof) →
    proof.Matches request ∧
      ∀ text ∈ [request.requestId, proof.reference, proof.evidenceRef], Sendable text

section
variable {deployment : OnboardingDeployment} {s : PlatformDatabase lower}
  {instants : OnboardingInstants} {invocation : CommandInvocation}

theorem answered_organizationOnboardingGraph_iff {generated : GeneratedRequest}
    {applicant : AuthenticatedApplicant} {onboarding : OrganizationOnboardingStart} :
    Answered (organizationOnboardingGraph deployment generated instants applicant onboarding none)
        s ↔
      deployment.AdmitsStart s (onboarding.request applicant generated instants.createdAt)
        instants.verifiedAt := by
  set request := onboarding.request applicant generated instants.createdAt with hrequest
  have hstate : request.state = .pending := rfl
  have hactive : request.state ≠ .active := by simp [hstate]
  unfold organizationOnboardingGraph
  by_cases hadmits : s.AdmitsRequest request
  · have hstart : startOnboarding applicant onboarding generated instants.createdAt s =
        (.ok request, hadmits.saved hactive) := by
      unfold startOnboarding
      exact Action.bind_of_ok (savePending_of_admits hstate hactive hadmits) _
    rw [answered_bind_of_ok_iff hstart]
    unfold verifyPending
    rw [if_pos hstate]
    cases hverify : deployment.verify request instants.verifiedAt with
    | error fault =>
        refine (Action.raisesOnly_of_error (Action.ofExcept_error_bind_apply fault _ _)).trans ?_
        constructor
        · intro hmapped
          refine ⟨hadmits, fun fault' h => ?_, fun proof h => ?_⟩
          · rw [hverify] at h
            cases h
            exact hmapped
          · rw [hverify] at h
            cases h
        · intro h
          exact h.verifier fault hverify
    | ok identityProof =>
        refine (answered_bind_of_ok_iff (Action.ofExcept_apply _ _)).trans ?_
        have hnofault : ∀ fault, deployment.verify request instants.verifiedAt = .error fault →
            fault.Mapped := by
          intro fault h
          rw [hverify] at h
          cases h
        cases identityProof with
        | none =>
            refine iff_of_true (Action.raisesOnly_pure _ _) ⟨hadmits, hnofault, fun proof h => ?_⟩
            rw [hverify] at h
            cases h
        | some proof =>
            refine Action.raisesOnly_bind_pure_iff.trans ?_
            have hrow := pendingRow_saved hstate hactive hadmits
            refine (answered_recordIdentityProof_iff hrow).trans ?_
            constructor
            · intro hproof
              refine ⟨hadmits, hnofault, fun proof' h => ?_⟩
              rw [hverify] at h
              cases h
              exact hproof
            · intro h
              exact h.proof proof hverify
  · refine iff_of_false (fun h => hadmits ?_) fun h => hadmits h.stored
    have hstart := (Action.raisesOnly_bind_iff.1 h).1
    unfold startOnboarding at hstart
    exact (answered_savePending_iff hstate).1 (Action.raisesOnly_bind_iff.1 hstart).1

theorem answered_withPrincipal_iff {α : Type} {detail : String}
    {handle : ValidatedPrincipal → PlatformAction lower α} :
    Answered (withPrincipal invocation detail handle) s ↔
      ∀ principal, invocation.principal = some principal → Answered (handle principal) s := by
  unfold withPrincipal
  cases invocation.principal with
  | none => exact iff_of_true ((Action.raisesOnly_of_error rfl).2 trivial) fun _ h => nomatch h
  | some principal =>
      constructor
      · intro h principal' heq
        cases heq
        exact h
      · intro h
        exact h principal rfl

/-- **When `/onboard-org` raises nothing but what is answered**: its applicant or its payload is not
valid, or the request is admitted. -/
theorem answered_onboardOrganizationHandler_iff {generated : GeneratedRequest} :
    Answered (onboardOrganizationHandler deployment generated instants invocation) s ↔
      ∀ principal applicant onboarding, invocation.principal = some principal →
        principal.applicant = .ok applicant →
        organizationOnboardingStart deployment.case invocation.payload = .ok onboarding →
        deployment.AdmitsStart s (onboarding.request applicant generated instants.createdAt)
          instants.verifiedAt := by
  unfold onboardOrganizationHandler
  simp only [answered_withPrincipal_iff, answered_validated_bind_iff,
    answered_organizationOnboardingGraph_iff]
  constructor
  · intro h principal applicant onboarding hprincipal happlicant honboarding
    exact h principal hprincipal applicant happlicant onboarding honboarding
  · intro h principal hprincipal applicant happlicant onboarding honboarding
    exact h principal applicant onboarding hprincipal happlicant honboarding

end

/-! ### A request is activated -/

/-- A request and its proof can become an active organization: the texts can be sent, the request
has no approval yet, its organization no boundary and no administrator, no organization has the
boundary, and the applicant has an account. -/
structure PlatformDatabase.AdmitsActivation (s : PlatformDatabase lower)
    (organization : ActiveOrganization) : Prop where
  sendable : ∀ text ∈ [organization.organizationId, organization.approval.requestId,
    organization.identityProof.reference, organization.identityProof.evidenceRef,
    organization.approval.approvedBy.issuer, organization.approval.approvedBy.subject,
    organization.identityBoundary.reference, organization.initialTenantAdmin.subject,
    organization.initialTenantAdmin.issuer], Sendable text
  unapproved : s.approvals.find? organization.approval.requestId = none
  boundaryFree : s.boundaries.Admits organization.boundaryRow
  unadministered : s.admins.find? organization.organizationId = none
  account : s.HasAccount organization.initialTenantAdmin.subject

section
variable {case : CaseMapping} {sha256 : String → HexDigest} {s : PlatformDatabase lower}
  {requestId : String} {row : OnboardingRequestRow × OrganizationRow}
  {request : OrganizationOnboardingRequest} {proof : IdentityBoundaryVerificationEvidence}

theorem admits_approval_iff {approval : OrganizationOnboardingApproval} :
    s.approvals.Admits approval.row ↔ s.approvals.find? approval.requestId = none := by
  rw [KeyedTable.admits_iff]
  exact List.forall_mem_singleton

theorem admits_adminRow_iff {organization : ActiveOrganization} :
    s.admins.Admits organization.adminRow ↔ s.admins.find? organization.organizationId = none := by
  rw [KeyedTable.admits_iff]
  exact List.forall_mem_singleton

/-- A request that is ready is found under its organization too. -/
theorem joined_of_ready (h : s.Ready case requestId row request proof) :
    s.joined (.organizationId request.organizationId) = some row := by
  obtain ⟨hrequest, horganization, -⟩ := pendingRow_eq_some_iff.1 h.row_eq
  refine joined_eq_some_iff.2 ⟨?_, horganization⟩
  refine KeyedTable.find?_eq_some_iff.2 ⟨(KeyedTable.mem_of_find? hrequest).1, ?_⟩
  simp [(fields_of_readRequest h.request_eq).2.1]

/-- What an activation stores is stored, if the request and its proof are there. -/
theorem answered_storeActivation_iff {organization : ActiveOrganization}
    (hsame : organization.approval.requestId = requestId)
    (hrequest : s.requests.find? (.requestId requestId) ≠ none)
    (hproof : ¬ s.proofs.Admits (organization.identityProof.row requestId))
    (hfound : s.organizations.find? organization.organizationId ≠ none)
    (hid : Sendable organization.organizationId) :
    Answered (storeActivation requestId organization) s ↔ s.AdmitsActivation organization := by
  have hskip : insertProof (organization.identityProof.row requestId) s = (.ok (), s) := by
    unfold insertProof
    rw [if_neg hproof]
  have hactive : (s.organizations.update
      (.activateIf organization.organizationId organization.activatedAt)
      (OrganizationRow.keys_activateIf _ _)).find? organization.organizationId ≠ none := by
    rw [KeyedTable.find?_update]
    simpa using hfound
  unfold storeActivation insertApproval insertBoundary insertAdmin
  constructor
  · intro hrun
    obtain ⟨hsend₁, hrun⟩ := answered_send_bind_iff.1 hrun
    rw [answered_bind_of_ok_iff hskip] at hrun
    obtain ⟨hsend₂, hrun⟩ := answered_send_bind_iff.1 hrun
    obtain ⟨happroval, -, hrun⟩ := answered_insertInto_bind_iff.1 hrun
    have hset := Action.raisesOnly_modify_bind_iff.1 hrun
    obtain ⟨hsend₃, hrun⟩ := answered_send_bind_iff.1 hset
    obtain ⟨hboundary, -, hrun⟩ := answered_insertInto_bind_iff.1 hrun
    obtain ⟨hsend₄, hrun⟩ := answered_send_bind_iff.1 hrun
    obtain ⟨hadmin, haccount⟩ := answered_insertInto_iff.1 hrun
    refine ⟨?_, admits_approval_iff.1 happroval, hboundary, admits_adminRow_iff.1 hadmin,
      haccount.2⟩
    simp only [List.forall_mem_cons] at hsend₁ hsend₂ hsend₃ hsend₄ ⊢
    exact ⟨hid, hsend₂.1, hsend₁.2.1, hsend₁.2.2.1, hsend₂.2.1, hsend₂.2.2.1, hsend₃.2.1,
      hsend₄.2.1, hsend₄.2.2⟩
  · intro h
    have hsend := h.sendable
    simp only [List.forall_mem_cons] at hsend
    refine answered_send_bind_iff.2 ⟨by simp [hsend, ← hsame], ?_⟩
    rw [answered_bind_of_ok_iff hskip]
    refine answered_send_bind_iff.2 ⟨by simp [hsend], ?_⟩
    refine answered_insertInto_bind_iff.2 ⟨admits_approval_iff.2 h.unapproved, ?_, ?_⟩
    · rw [show organization.approval.row.requestId = requestId from hsame]
      exact hrequest
    · refine Action.raisesOnly_modify_bind_iff.2 ?_
      refine answered_send_bind_iff.2 ⟨by simp [hsend], ?_⟩
      refine answered_insertInto_bind_iff.2 ⟨h.boundaryFree, ?_, ?_⟩
      · exact hactive
      · refine answered_send_bind_iff.2 ⟨by simp [hsend], ?_⟩
        refine answered_insertInto_iff.2 ⟨admits_adminRow_iff.2 h.unadministered, ?_, h.account⟩
        exact hactive

/-- **A ready request is activated, or what is raised is not answered.** -/
theorem answered_activateOrganization_iff (h : s.Ready case requestId row request proof)
    {approver : AuthenticatedApplicant} {approvedAt activatedAt : ℕ} :
    Answered (activateOrganization case sha256 (request.activated proof
        (request.approval sha256 approver approvedAt) activatedAt)) s ↔
      s.AdmitsActivation
        (request.activated proof (request.approval sha256 approver approvedAt) activatedAt) := by
  set organization :=
    request.activated proof (request.approval sha256 approver approvedAt) activatedAt
  obtain ⟨hrequest, horganization, hpending⟩ := pendingRow_eq_some_iff.1 h.row_eq
  have hid : request.requestId = requestId := requestId_of_read h.row_eq h.request_eq
  have hrefers : s.requests.find? (.requestId request.requestId) ≠ none := by
    rw [hid, hrequest]
    exact Option.some_ne_none _
  have hfound : s.organizations.find? request.organizationId ≠ none := by
    rw [(fields_of_readRequest h.request_eq).2.1, horganization]
    exact Option.some_ne_none _
  have hrecorded : ¬ s.proofs.Admits (proof.row request.requestId) := by
    obtain ⟨proofRow, hproof, -⟩ := h.proof_eq
    rw [KeyedTable.admits_iff]
    intro hadmits
    have hnone := hadmits request.requestId (by simp [IdentityBoundaryVerificationEvidence.row])
    rw [hid, hproof] at hnone
    cases hnone
  have hfilter : (s.joined (.organizationId organization.organizationId)).filter
      (fun row => decide (row.2.state = .pending)) = some row := by
    rw [show s.joined (.organizationId organization.organizationId) = some row from
      joined_of_ready h]
    simp [hpending]
  have hisOf : organization.IsOf sha256 request := ⟨rfl, h.matched, rfl, rfl⟩
  unfold activateOrganization
  rw [Answered, Action.raisesOnly_transaction_iff]
  refine answered_send_bind_iff.trans ?_
  constructor
  · rintro ⟨hsend, hrest⟩
    have hread := Action.raisesOnly_read_bind_iff.1 hrest
    rw [hfilter] at hread
    have hguard := answered_validated_bind_iff.1 hread request h.request_eq
    obtain ⟨-, hstore⟩ := (answered_guard_bind_iff (not_mapped_valueError _ _)).1 hguard
    exact (answered_storeActivation_iff rfl hrefers hrecorded hfound (hsend _ (by simp))).1 hstore
  · intro hadmits
    have hsend : Sendable organization.organizationId := hadmits.sendable _ (by simp)
    refine ⟨by simpa using hsend, Action.raisesOnly_read_bind_iff.2 ?_⟩
    rw [hfilter]
    refine answered_validated_bind_iff.2 fun request' hrequest' => ?_
    rw [h.request_eq] at hrequest'
    cases hrequest'
    refine (answered_guard_bind_iff (not_mapped_valueError _ _)).2 ⟨hisOf, ?_⟩
    exact (answered_storeActivation_iff rfl hrefers hrecorded hfound hsend).2 hadmits

end

/-! ### A review, and the read of an administrator -/

section
variable {deployment : OnboardingDeployment} {s : PlatformDatabase lower}
  {instants : OnboardingInstants} {invocation : CommandInvocation} {requestId : String}
  {reviewer : AuthenticatedApplicant}

/-- The organization that a review makes of a request and its proof. -/
def OnboardingDeployment.reviewed (deployment : OnboardingDeployment)
    (instants : OnboardingInstants) (reviewer : AuthenticatedApplicant)
    (request : OrganizationOnboardingRequest)
    (proof : IdentityBoundaryVerificationEvidence) : ActiveOrganization :=
  request.activated proof (request.approval deployment.sha256 reviewer instants.approvedAt)
    instants.activatedAt

/-- The id can be sent, and the request is stored so that it is not valid, or is ready and, if the
reviewer may review it, can be activated. -/
def OnboardingDeployment.AdmitsReview (deployment : OnboardingDeployment)
    (s : PlatformDatabase lower) (instants : OnboardingInstants) (requestId : String)
    (reviewer : AuthenticatedApplicant) : Prop :=
  Sendable requestId ∧
    ((∃ e, s.reviewStanding deployment.case requestId = .unreadable e) ∨
      ∃ row request proof, s.Ready deployment.case requestId row request proof ∧
        (deployment.mayReviewOnboarding reviewer requestId = true →
          s.AdmitsActivation (deployment.reviewed instants reviewer request proof)))

/-- The reviewer may not look at the request, or the id can be sent and the request is pending, and
has no proof of another boundary. -/
def OnboardingDeployment.AdmitsView (deployment : OnboardingDeployment)
    (s : PlatformDatabase lower) (requestId : String) (reviewer : AuthenticatedApplicant) : Prop :=
  deployment.mayReviewOnboarding reviewer requestId = true →
    Sendable requestId ∧ s.reviewStanding deployment.case requestId ≠ .notPending ∧
      s.reviewStanding deployment.case requestId ≠ .mismatched

theorem PlatformDatabase.Ready.unique {case : CaseMapping}
    {row row' : OnboardingRequestRow × OrganizationRow}
    {request request' : OrganizationOnboardingRequest}
    {proof proof' : IdentityBoundaryVerificationEvidence}
    (h : s.Ready case requestId row request proof)
    (h' : s.Ready case requestId row' request' proof') : request' = request ∧ proof' = proof := by
  have hrow := h'.row_eq
  rw [h.row_eq] at hrow
  cases hrow
  have hrequest := h'.request_eq
  rw [h.request_eq] at hrequest
  cases hrequest
  obtain ⟨proofRow, hfind, hread⟩ := h.proof_eq
  obtain ⟨proofRow', hfind', hread'⟩ := h'.proof_eq
  rw [hfind] at hfind'
  cases hfind'
  rw [hread] at hread'
  cases hread'
  exact ⟨rfl, rfl⟩

theorem mapped_refusal_iff {standing : ReviewStanding} (h : standing ≠ .ready) :
    standing.refusal.Mapped ↔ ∃ e, standing = .unreadable e := by
  cases standing with
  | notPending => exact iff_of_false id fun ⟨e, he⟩ => nomatch he
  | unreadable e => exact iff_of_true trivial ⟨e, rfl⟩
  | unproved => exact iff_of_false id fun ⟨e, he⟩ => nomatch he
  | mismatched => exact iff_of_false id fun ⟨e, he⟩ => nomatch he
  | ready => exact absurd rfl h

theorem answered_activateOnboarding_iff {row : OnboardingRequestRow × OrganizationRow}
    {request : OrganizationOnboardingRequest} {proof : IdentityBoundaryVerificationEvidence}
    (h : s.Ready deployment.case requestId row request proof) :
    Answered (activateOnboarding deployment request (some proof)
        (some (request.approval deployment.sha256 reviewer instants.approvedAt))
        instants.activatedAt) s ↔
      s.AdmitsActivation (deployment.reviewed instants reviewer request proof) := by
  have hstate : request.state = .pending := (fields_of_readRequest h.request_eq).2.2.2.2
  unfold activateOnboarding
  refine (answered_guard_bind_iff (not_mapped_valueError _ _)).trans
    ((and_iff_right hstate).trans ?_)
  refine (answered_guard_bind_iff (not_mapped_valueError _ _)).trans
    ((and_iff_right h.matched).trans ?_)
  refine (answered_guard_bind_iff (not_mapped_valueError _ _)).trans
    ((and_iff_right ⟨rfl, rfl⟩).trans ?_)
  exact Action.raisesOnly_bind_pure_iff.trans (answered_activateOrganization_iff h)

theorem admitsReview_of_ready_iff (hsend : Sendable requestId)
    {row : OnboardingRequestRow × OrganizationRow} {request : OrganizationOnboardingRequest}
    {proof : IdentityBoundaryVerificationEvidence}
    (hrow : s.Ready deployment.case requestId row request proof) :
    deployment.AdmitsReview s instants requestId reviewer ↔
      (deployment.mayReviewOnboarding reviewer requestId = true →
        s.AdmitsActivation (deployment.reviewed instants reviewer request proof)) := by
  have hready := reviewStanding_eq_ready_iff.2 ⟨row, request, proof, hrow⟩
  constructor
  · rintro ⟨-, ⟨e, he⟩ | ⟨row', request', proof', hrow', h⟩⟩
    · rw [hready] at he
      cases he
    · obtain ⟨rfl, rfl⟩ := hrow.unique hrow'
      exact h
  · intro h
    exact ⟨hsend, Or.inr ⟨row, request, proof, hrow, h⟩⟩

theorem admitsReview_of_not_ready_iff (hsend : Sendable requestId)
    (hready : s.reviewStanding deployment.case requestId ≠ .ready) :
    deployment.AdmitsReview s instants requestId reviewer ↔
      ∃ e, s.reviewStanding deployment.case requestId = .unreadable e := by
  constructor
  · rintro ⟨-, he | ⟨row, request, proof, hrow, -⟩⟩
    · exact he
    · exact absurd (reviewStanding_eq_ready_iff.2 ⟨row, request, proof, hrow⟩) hready
  · intro he
    exact ⟨hsend, Or.inl he⟩

theorem authorize_of_allowed (h : deployment.mayReviewOnboarding reviewer requestId = true) :
    authorize deployment reviewer requestId s = (.ok (), s) := by
  unfold authorize Action.guard
  rw [if_pos h]
  rfl

theorem approveOnboarding_of_pending {request : OrganizationOnboardingRequest}
    (h : request.state = .pending) :
    approveOnboarding deployment request reviewer instants.approvedAt s =
      (.ok (request.approval deployment.sha256 reviewer instants.approvedAt), s) := by
  unfold approveOnboarding
  rw [Action.guard_bind_apply, if_pos h]
  rfl

/-- **When a review raises nothing but what is answered.** -/
theorem answered_reviewGraph_iff :
    Answered (organizationOnboardingReviewGraph deployment instants requestId reviewer) s ↔
      deployment.AdmitsReview s instants requestId reviewer := by
  by_cases hsend : Sendable requestId
  · by_cases hready : s.reviewStanding deployment.case requestId = .ready
    · obtain ⟨row, request, proof, hrow⟩ := reviewStanding_eq_ready_iff.1 hready
      rw [admitsReview_of_ready_iff hsend hrow]
      unfold organizationOnboardingReviewGraph
      rw [answered_bind_of_ok_iff (load_of_ready hsend hrow)]
      cases hmay : deployment.mayReviewOnboarding reviewer requestId with
      | false =>
          refine iff_of_true ?_ fun h => nomatch h
          exact (Action.raisesOnly_of_error
            (Action.bind_of_error (authorize_of_denied hmay) _)).2 trivial
      | true =>
          have hstate : request.state = .pending :=
            (fields_of_readRequest hrow.request_eq).2.2.2.2
          rw [answered_bind_of_ok_iff (authorize_of_allowed hmay),
            answered_bind_of_ok_iff (approveOnboarding_of_pending hstate)]
          refine Action.raisesOnly_bind_pure_iff.trans ?_
          exact (answered_activateOnboarding_iff hrow).trans ⟨fun h _ => h, fun h => h rfl⟩
    · rw [admitsReview_of_not_ready_iff hsend hready, ← mapped_refusal_iff hready]
      unfold organizationOnboardingReviewGraph
      exact Action.raisesOnly_of_error (Action.bind_of_error (load_of_not_ready hsend hready) _)
  · refine iff_of_false ?_ fun h => hsend h.1
    rw [Answered, Action.raisesOnly_of_error (review_of_unsendable hsend)]
    exact not_mapped_databaseError _ _

/-- The read of an administrator who may look at the request. -/
theorem answered_view_of_allowed_iff (hsend : Sendable requestId)
    (hmay : deployment.mayReviewOnboarding reviewer requestId = true) :
    Answered (getPendingReview deployment reviewer requestId) s ↔
      s.reviewStanding deployment.case requestId ≠ .notPending ∧
        s.reviewStanding deployment.case requestId ≠ .mismatched := by
  have hfinds : s.Finds deployment.case requestId (s.reviewStanding deployment.case requestId) :=
    finds_reviewStanding
  generalize s.reviewStanding deployment.case requestId = standing at hfinds
  unfold getPendingReview
  refine (answered_bind_of_ok_iff (authorize_of_allowed hmay)).trans ?_
  cases hfinds with
  | noRequest hrow =>
      rw [answered_bind_of_ok_iff (getPendingRequest_of_none hsend hrow)]
      refine iff_of_false (fun h => ?_) fun h => h.1 rfl
      exact not_mapped_valueError _ _ (Action.raisesOnly_raise_iff.1 h)
  | invalidRequest hrow hread =>
      refine iff_of_true ?_ (by simp)
      have hrun := getPendingRequest_of_error hsend hrow hread
      exact (Action.raisesOnly_of_error (Action.bind_of_error hrun _)).2 trivial
  | noProof hrow hread hfind =>
      obtain rfl := requestId_of_read hrow hread
      rw [answered_bind_of_ok_iff (getPendingRequest_of_ok hsend hrow hread)]
      refine iff_of_true (Action.raisesOnly_bind_pure_iff.2 ?_) (by simp)
      exact Action.raisesOnly_of_ok (getPersistedIdentityProof_of_none hsend hfind)
  | invalidProof hrow hread hfind hproof =>
      obtain rfl := requestId_of_read hrow hread
      rw [answered_bind_of_ok_iff (getPendingRequest_of_ok hsend hrow hread)]
      refine iff_of_true (Action.raisesOnly_bind_pure_iff.2 ?_) (by simp)
      have hrun := getPersistedIdentityProof_of_error hsend hfind hproof
      exact (Action.raisesOnly_of_error hrun).2 trivial
  | otherProof hrow hread hfind hproof hmatches =>
      obtain rfl := requestId_of_read hrow hread
      rw [answered_bind_of_ok_iff (getPendingRequest_of_ok hsend hrow hread)]
      have hrun := getPersistedIdentityProof_of_ok hsend hfind hproof
      rw [if_neg hmatches] at hrun
      exact iff_of_false (not_answered_bind hrun (not_mapped_valueError _ _)) fun h => h.2 rfl
  | itsProof hready =>
      rw [answered_bind_of_ok_iff (getPendingRequest_of_ok hsend hready.row_eq hready.request_eq)]
      refine iff_of_true (Action.raisesOnly_bind_pure_iff.2 ?_) (by simp)
      exact Action.raisesOnly_of_ok (getPersistedIdentityProof_of_ready hsend hready)

/-- **When the read of an administrator raises nothing but what is answered.** -/
theorem answered_getPendingReview_iff :
    Answered (getPendingReview deployment reviewer requestId) s ↔
      deployment.AdmitsView s requestId reviewer := by
  cases hmay : deployment.mayReviewOnboarding reviewer requestId with
  | false =>
      refine iff_of_true ?_ fun h => ?_
      · exact (Action.raisesOnly_of_error (view_of_denied hmay)).2 trivial
      · rw [hmay] at h
        cases h
  | true =>
      by_cases hsend : Sendable requestId
      · rw [answered_view_of_allowed_iff hsend hmay]
        exact ⟨fun h _ => ⟨hsend, h⟩, fun h => (h hmay).2⟩
      · refine iff_of_false (fun h => ?_) fun h => hsend (h hmay).1
        unfold getPendingReview at h
        have hrest := (answered_bind_of_ok_iff (authorize_of_allowed hmay)).1 h
        exact not_answered_bind (getPendingRequest_of_unsendable hsend)
          (not_mapped_databaseError _ _) hrest

/-- **When `/review-onboard-org` raises nothing but what is answered**: its payload or its reviewer
is not valid, or the review is admitted. -/
theorem answered_reviewOnboardingHandler_iff :
    Answered (reviewOnboardingHandler deployment instants invocation) s ↔
      ∀ principal command reviewer, invocation.principal = some principal →
        reviewOnboardingCommand invocation.payload = .ok command →
        principal.applicant = .ok reviewer →
        deployment.AdmitsReview s instants command.id reviewer := by
  unfold reviewOnboardingHandler
  simp only [answered_withPrincipal_iff, answered_validated_bind_iff, answered_reviewGraph_iff]
  constructor
  · intro h principal command reviewer hprincipal hcommand hreviewer
    exact h principal hprincipal command hcommand reviewer hreviewer
  · intro h principal hprincipal command hcommand reviewer hreviewer
    exact h principal command reviewer hprincipal hcommand hreviewer

/-- **When `/onboarding-review` raises nothing but what is answered**: its payload or its reviewer
is not valid, or the read is admitted. -/
theorem answered_viewOnboardingReviewHandler_iff :
    Answered (viewOnboardingReviewHandler deployment invocation) s ↔
      ∀ principal command reviewer, invocation.principal = some principal →
        onboardingAdministratorReadCommand invocation.payload = .ok command →
        principal.applicant = .ok reviewer →
        deployment.AdmitsView s command.id reviewer := by
  unfold viewOnboardingReviewHandler
  simp only [answered_withPrincipal_iff, answered_validated_bind_iff,
    answered_getPendingReview_iff]
  constructor
  · intro h principal command reviewer hprincipal hcommand hreviewer
    exact h principal hprincipal command hcommand reviewer hreviewer
  · intro h principal hprincipal command hcommand reviewer hreviewer
    exact h principal command reviewer hprincipal hcommand hreviewer

end

end PlatformOps
