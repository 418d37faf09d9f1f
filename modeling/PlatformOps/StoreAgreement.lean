/-
**The two stores of the onboarding side by side.**

The store in memory keeps what it is given: it folds the case of a boundary, it does not look at the
request it has stored when an organization is activated, and a second activation of an organization
replaces the first.  The database lowers the boundary, compares the organization with the stored
request, and activates an organization once.  Along runs in which no call tells them apart, the
tables hold what the dictionaries hold.

Main definitions:

* `OnboardingCall`, `OrganizationOnboardingStore.perform` — the calls of the services;
* `Comparable`, `ComparableAlong` — the calls that do not tell the stores apart;
* `StoresAgree` — the stores agree along a run;
* `Simulates` — the tables hold what is stored in memory.

Main results:

* `Simulates.accepts_iff`, `Simulates.after` — **what one call does on both sides**;
* `stores_agree` — **the stores agree along every run of such calls**, and activate an organization
  once;
* `second_activation_in_memory` — an organization is activated again in memory.
-/

import PlatformOps.ActivationRoundTrip
import PlatformOps.OnboardingStores

set_option relaxedAutoImplicit false
set_option autoImplicit false

namespace PlatformOps

/-! ### Runs of the services -/

/-- A call of the services, or of the store. -/
inductive OnboardingCall
  | start (applicant : AuthenticatedApplicant) (onboarding : OrganizationOnboardingStart)
      (generated : GeneratedRequest) (createdAt : ℕ)
  | recordIdentityProof (request : OrganizationOnboardingRequest)
      (proof : IdentityBoundaryVerificationEvidence)
  | approve (request : OrganizationOnboardingRequest) (approver : AuthenticatedApplicant)
      (approvedAt : ℕ)
  | activate (request : OrganizationOnboardingRequest)
      (identityProof : Option IdentityBoundaryVerificationEvidence)
      (approval : Option OrganizationOnboardingApproval) (activatedAt : ℕ)

/-- The applicant of a call that is stored. -/
def OnboardingCall.applicant : OnboardingCall → Option AuthenticatedApplicant
  | start applicant _ _ _ => some applicant
  | recordIdentityProof _ _ => none
  | approve _ _ _ => none
  | activate request _ _ _ => some request.applicant

/-- The applicant is a registered user. -/
def OnboardingCall.Registered (accounts : List UserAccount) (call : OnboardingCall) : Prop :=
  ∀ applicant ∈ call.applicant, ∃ account ∈ accounts, account.subject = applicant.subject

/-- The organization that a call activates. -/
def OnboardingCall.activates : OnboardingCall → Option String
  | start _ _ _ _ => none
  | recordIdentityProof _ _ => none
  | approve _ _ _ => none
  | activate request _ _ _ => some request.organizationId

namespace OrganizationOnboardingStore

variable {σ : Type} (store : OrganizationOnboardingStore σ) (sha256 : String → HexDigest)

/-- Run a call. -/
def perform : OnboardingCall → Action σ CommandFault Unit
  | .start applicant onboarding generated createdAt => do
      let _ ← store.start applicant onboarding generated createdAt
      pure ()
  | .recordIdentityProof request proof => store.recordIdentityProof request proof
  | .approve request approver approvedAt => do
      let _ ← approve sha256 request approver approvedAt
      pure ()
  | .activate request identityProof approval activatedAt => do
      let _ ← store.activateRequest sha256 request identityProof approval activatedAt
      pure ()

/-- The call is accepted. -/
def Accepts (s : σ) (call : OnboardingCall) : Prop := (store.perform sha256 call s).1 = .ok ()

instance (s : σ) : DecidablePred (store.Accepts sha256 s) := fun call =>
  inferInstanceAs (Decidable ((store.perform sha256 call s).1 = .ok ()))

/-- The state after a call. -/
def after (s : σ) (call : OnboardingCall) : σ := (store.perform sha256 call s).2

/-- The organizations that a run activates, one after the other. -/
def activatedIds (s : σ) : List OnboardingCall → List String
  | [] => []
  | call :: calls =>
      (if store.Accepts sha256 s call then call.activates.toList else []) ++
        activatedIds (store.after sha256 s call) calls

variable {store sha256} {s s' : σ} {call : OnboardingCall}

theorem accepts_iff : store.Accepts sha256 s call ↔
    store.perform sha256 call s = (.ok (), store.after sha256 s call) :=
  ⟨fun h => Prod.ext h rfl, fun h => congrArg Prod.fst h⟩

/-- **A call that is rejected changes nothing**, over any store. -/
theorem after_of_rejected (h : ¬ store.Accepts sha256 s call) : store.after sha256 s call = s := by
  have hall : (store.perform sha256 call).AllOrNothing := by
    cases call with
    | start => exact allOrNothing_start.bind_pure _
    | recordIdentityProof => exact store.allOrNothing_recordIdentityProof _ _
    | approve => exact allOrNothing_approve.bind_pure _
    | activate => exact allOrNothing_activateRequest.bind_pure _
  rcases hrun : store.perform sha256 call s with ⟨result, s'⟩
  cases result with
  | ok u => exact absurd (congrArg Prod.fst hrun) h
  | error e =>
      unfold after
      rw [hrun]
      exact hall s e s' hrun

theorem perform_start_eq_ok_iff {applicant : AuthenticatedApplicant}
    {onboarding : OrganizationOnboardingStart} {generated : GeneratedRequest} {createdAt : ℕ} :
    store.perform sha256 (.start applicant onboarding generated createdAt) s = (.ok (), s') ↔
      store.savePending (onboarding.request applicant generated createdAt) s = (.ok (), s') := by
  unfold perform
  rw [Action.bind_eq_ok_iff]
  constructor
  · rintro ⟨request, s₁, hstart, hend⟩
    obtain ⟨⟨⟩, s₂, hsave, heq⟩ := Action.bind_eq_ok_iff.1 hstart
    cases heq
    cases hend
    exact hsave
  · intro hsave
    exact ⟨_, s', Action.bind_eq_ok_iff.2 ⟨(), s', hsave, rfl⟩, rfl⟩

theorem perform_approve_eq_ok_iff {request : OrganizationOnboardingRequest}
    {approver : AuthenticatedApplicant} {approvedAt : ℕ} :
    store.perform sha256 (.approve request approver approvedAt) s = (.ok (), s') ↔
      request.state = .pending ∧ s' = s := by
  unfold perform
  rw [Action.bind_eq_ok_iff]
  constructor
  · rintro ⟨approval, s₁, happrove, hend⟩
    obtain ⟨hpending, -, rfl⟩ := approve_eq_ok_iff.1 happrove
    cases hend
    exact ⟨hpending, rfl⟩
  · rintro ⟨hpending, rfl⟩
    exact ⟨_, s', approve_eq_ok_iff.2 ⟨hpending, rfl, rfl⟩, rfl⟩

theorem perform_activate_eq_ok_iff {request : OrganizationOnboardingRequest}
    {identityProof : Option IdentityBoundaryVerificationEvidence}
    {approval : Option OrganizationOnboardingApproval} {activatedAt : ℕ} :
    store.perform sha256 (.activate request identityProof approval activatedAt) s = (.ok (), s') ↔
      ∃ proof recorded, Presents sha256 request identityProof approval proof recorded ∧
        store.activate (request.activated proof recorded activatedAt) s = (.ok (), s') := by
  unfold perform
  rw [Action.bind_eq_ok_iff]
  constructor
  · rintro ⟨organization, s₁, hactivate, hend⟩
    obtain ⟨proof, recorded, hpresents, rfl, hrun⟩ := activateRequest_eq_ok_iff.1 hactivate
    cases hend
    exact ⟨proof, recorded, hpresents, hrun⟩
  · rintro ⟨proof, recorded, hpresents, hrun⟩
    exact ⟨_, s', activateRequest_eq_ok_iff.2 ⟨proof, recorded, hpresents, rfl, hrun⟩, rfl⟩

end OrganizationOnboardingStore

/-! ### Calls that do not tell the stores apart -/

section
variable (lower casefold : String → String) (deployment : OnboardingDeployment)

open InMemoryOrganizationOnboardingStore (identityKey)

/-- The tables have room for the request: its texts can be sent, its identifiers are new, and no
stored request has its boundary, lowered. -/
structure InMemoryOrganizationOnboardingStore.HasRoom (m : InMemoryOrganizationOnboardingStore)
    (request : OrganizationOnboardingRequest) : Prop where
  sendable : ∀ text ∈ [request.organizationId, request.organizationName, request.requestId,
    request.applicant.issuer, request.applicant.subject, request.identityBoundary.reference],
    Sendable text
  distinct : ∀ other ∈ m.requestsById.values, other.requestId ≠ request.requestId ∧
    other.organizationId ≠ request.organizationId ∧
    ¬ (other.identityBoundary.kind = request.identityBoundary.kind ∧
      lower other.identityBoundary.reference = lower request.identityBoundary.reference)

/-- The organization is the first that is activated of this stored request, agrees with it in its
boundary, its proof, its approval and its name, and can be stored and read. -/
structure InMemoryOrganizationOnboardingStore.FirstOf (m : InMemoryOrganizationOnboardingStore)
    (organization : ActiveOrganization) (stored : OrganizationOnboardingRequest) : Prop where
  inactive : m.activeByOrganizationId.get? stored.organizationId = none
  reads : organizationIdentityBoundary deployment.case stored.identityBoundary.kind
    stored.identityBoundary.reference = .ok stored.identityBoundary
  isOf : organization.IsOf deployment.sha256 stored
  name_eq : organization.organizationName = stored.organizationName
  sendable : ∀ text ∈ [organization.organizationId, organization.approval.requestId,
    organization.identityProof.reference, organization.identityProof.evidenceRef,
    organization.approval.approvedBy.issuer, organization.approval.approvedBy.subject,
    organization.identityBoundary.reference, organization.initialTenantAdmin.subject,
    organization.initialTenantAdmin.issuer], Sendable text

/-- **The call does not tell the stores apart.**  A boundary is taken in memory exactly if the
tables have no room for the request; a proof for a stored request can be sent, and comes before its
activation; and an organization that was asked for is the first of its request. -/
def Comparable (m : InMemoryOrganizationOnboardingStore) : OnboardingCall → Prop
  | .start applicant onboarding generated createdAt =>
      m.requestsByIdentity.get?
          (identityKey casefold (onboarding.request applicant generated createdAt)) = none ↔
        m.HasRoom lower (onboarding.request applicant generated createdAt)
  | .recordIdentityProof request proof =>
      proof.Matches request → ∀ stored ∈ m.requestsById.values,
        stored.requestId = request.requestId →
        m.activeByOrganizationId.get? stored.organizationId = none ∧
          ∀ text ∈ [request.requestId, proof.reference, proof.evidenceRef], Sendable text
  | .approve _ _ _ => True
  | .activate request identityProof approval activatedAt =>
      ∀ proof recorded,
        Presents deployment.sha256 request identityProof approval proof recorded →
        ∀ stored ∈ m.requestsById.values, stored.organizationId = request.organizationId →
          m.FirstOf deployment (request.activated proof recorded activatedAt) stored

/-- Each of the calls is such in the state of the memory in which it is made. -/
def ComparableAlong (m : InMemoryOrganizationOnboardingStore) : List OnboardingCall → Prop
  | [] => True
  | call :: calls =>
      Comparable lower casefold deployment m call ∧
        ComparableAlong ((memoryStore casefold).after deployment.sha256 m call) calls

/-- Every id that can be sent resolves to the same organization, or to none on both sides. -/
def SameRoutable (m : InMemoryOrganizationOnboardingStore) (s : PlatformDatabase lower) : Prop :=
  ∀ organizationId, Sendable organizationId →
    ((memoryStore casefold).resolveRoutableOrganization organizationId m).1 =
      ((postgresStore lower deployment).resolveRoutableOrganization organizationId s).1

/-- Both stores accept the same calls, and resolve the same organizations in every state on the way;
a call that is rejected changes nothing. -/
def AgreeAlong (m : InMemoryOrganizationOnboardingStore) (s : PlatformDatabase lower) :
    List OnboardingCall → Prop
  | [] => SameRoutable lower casefold deployment m s
  | call :: calls =>
      SameRoutable lower casefold deployment m s ∧
        ((memoryStore casefold).Accepts deployment.sha256 m call ↔
          (postgresStore lower deployment).Accepts deployment.sha256 s call) ∧
        (¬ (memoryStore casefold).Accepts deployment.sha256 m call →
          (memoryStore casefold).after deployment.sha256 m call = m) ∧
        (¬ (postgresStore lower deployment).Accepts deployment.sha256 s call →
          (postgresStore lower deployment).after deployment.sha256 s call = s) ∧
        AgreeAlong ((memoryStore casefold).after deployment.sha256 m call)
          ((postgresStore lower deployment).after deployment.sha256 s call) calls

/-- The stores agree along a run, and both activate an organization once. -/
structure StoresAgree (m : InMemoryOrganizationOnboardingStore) (s : PlatformDatabase lower)
    (calls : List OnboardingCall) : Prop where
  agree : AgreeAlong lower casefold deployment m s calls
  memory_once : ((memoryStore casefold).activatedIds deployment.sha256 m calls).Nodup
  postgres_once : ((postgresStore lower deployment).activatedIds deployment.sha256 s calls).Nodup

/-- The tables with accounts only. -/
def accountsOnly (accounts : List UserAccount) : PlatformDatabase lower :=
  ⟨accounts, [], .empty, .empty, .empty, .empty, .empty, .empty, .empty, .empty⟩

end

/-! ### The tables hold what is stored in memory -/

/-- The row of the organization of a request, while it is pending. -/
def OrganizationOnboardingRequest.pendingRow (request : OrganizationOnboardingRequest) :
    OrganizationRow :=
  ⟨request.organizationId, request.organizationName, .pending, request.createdAt, none, by simp⟩

/-- The row of the organization of a stored request. -/
def InMemoryOrganizationOnboardingStore.organizationRow (m : InMemoryOrganizationOnboardingStore)
    (request : OrganizationOnboardingRequest) : OrganizationRow :=
  match m.activeByOrganizationId.get? request.organizationId with
  | none => request.pendingRow
  | some organization => request.pendingRow.activate organization.activatedAt

/-- The active organization is that of a stored request, and can be read. -/
structure ActiveOrganization.ActivationOf (deployment : OnboardingDeployment)
    (organization : ActiveOrganization) (stored : OrganizationOnboardingRequest) : Prop where
  organizationId_eq : organization.organizationId = stored.organizationId
  reads : organizationIdentityBoundary deployment.case stored.identityBoundary.kind
    stored.identityBoundary.reference = .ok stored.identityBoundary
  isOf : organization.IsOf deployment.sha256 stored
  name_eq : organization.organizationName = stored.organizationName
  state_eq : organization.state = .active

/-- **The tables hold what is stored in memory**: a row for each request and its organization, and
the rows of an activation for each active organization.  The proofs are left out: a store never
reads them. -/
structure Simulates {lower : String → String} (deployment : OnboardingDeployment)
    (accounts : List UserAccount) (m : InMemoryOrganizationOnboardingStore)
    (s : PlatformDatabase lower) : Prop where
  keyed : ∀ i request, m.requestsById.get? i = some request → request.requestId = i
  pending : ∀ request ∈ m.requestsById.values, request.state = .pending
  activated : ∀ i organization, m.activeByOrganizationId.get? i = some organization →
    ∃ request ∈ m.requestsById.values, request.organizationId = i ∧
      organization.ActivationOf deployment request
  accounts_eq : s.accounts = accounts
  requests : ∀ row, row ∈ s.requests.rows ↔ ∃ request ∈ m.requestsById.values, row = request.row
  organizations : ∀ row, row ∈ s.organizations.rows ↔
    ∃ request ∈ m.requestsById.values, row = m.organizationRow request
  approvals : ∀ row, row ∈ s.approvals.rows ↔
    ∃ organization ∈ m.activeByOrganizationId.values, row = organization.approval.row
  boundaries : ∀ row, row ∈ s.boundaries.rows ↔
    ∃ organization ∈ m.activeByOrganizationId.values, row = organization.boundaryRow
  admins : ∀ row, row ∈ s.admins.rows ↔
    ∃ organization ∈ m.activeByOrganizationId.values, row = organization.adminRow

section
variable {lower casefold : String → String} {deployment : OnboardingDeployment}
  {accounts : List UserAccount} {m : InMemoryOrganizationOnboardingStore}
  {s : PlatformDatabase lower} {request stored other : OrganizationOnboardingRequest}
  {organization : ActiveOrganization}

theorem OrganizationOnboardingRequest.organizationRow_eq (hstate : request.state = .pending)
    (hactive : request.state ≠ .active) : request.organizationRow hactive = request.pendingRow := by
  unfold OrganizationOnboardingRequest.organizationRow OrganizationOnboardingRequest.pendingRow
  simp only [hstate]

theorem organizationRow_of_inactive
    (h : m.activeByOrganizationId.get? request.organizationId = none) :
    m.organizationRow request = request.pendingRow := by
  unfold InMemoryOrganizationOnboardingStore.organizationRow
  rw [h]

theorem organizationRow_of_active
    (h : m.activeByOrganizationId.get? request.organizationId = some organization) :
    m.organizationRow request = request.pendingRow.activate organization.activatedAt := by
  unfold InMemoryOrganizationOnboardingStore.organizationRow
  rw [h]

theorem fields_of_organizationRow :
    (m.organizationRow request).organizationId = request.organizationId ∧
      (m.organizationRow request).organizationName = request.organizationName := by
  unfold InMemoryOrganizationOnboardingStore.organizationRow
  split <;> exact ⟨rfl, rfl⟩

/-- An organization is active in the tables if it is in memory. -/
theorem state_organizationRow_iff : (m.organizationRow request).state = .pending ↔
    m.activeByOrganizationId.get? request.organizationId = none := by
  cases hactive : m.activeByOrganizationId.get? request.organizationId with
  | none =>
      rw [organizationRow_of_inactive hactive]
      exact iff_of_true rfl rfl
  | some organization =>
      rw [organizationRow_of_active hactive]
      exact iff_of_false (fun h => by cases h) fun h => by cases h

/-- A stored request is read from its rows. -/
theorem readRequest_row {row : OrganizationRow} (hstate : request.state = .pending)
    (hreads : organizationIdentityBoundary deployment.case request.identityBoundary.kind
      request.identityBoundary.reference = .ok request.identityBoundary)
    (hname : row.organizationName = request.organizationName) :
    readRequest deployment.case (request.row, row) = .ok request := by
  unfold readRequest
  refine bind_eq_ok_iff.2 ⟨_, authenticatedApplicant_self request.applicant, ?_⟩
  refine bind_eq_ok_iff.2 ⟨_, hreads, ?_⟩
  simp only [hname]
  unfold organizationOnboardingRequest
  rw [dif_pos (by exact request.requestId_length), dif_pos (by exact request.organizationId_length),
    dif_pos request.nameFits]
  cases request
  cases hstate
  rfl

namespace Simulates

/-- At the start nothing is stored on either side. -/
theorem empty : Simulates deployment accounts .empty (accountsOnly lower accounts) where
  keyed i request h := by cases h
  pending request h := absurd h List.not_mem_nil
  activated i organization h := by cases h
  accounts_eq := rfl
  requests row := iff_of_false List.not_mem_nil fun ⟨_, h, _⟩ => List.not_mem_nil h
  organizations row := iff_of_false List.not_mem_nil fun ⟨_, h, _⟩ => List.not_mem_nil h
  approvals row := iff_of_false List.not_mem_nil fun ⟨_, h, _⟩ => List.not_mem_nil h
  boundaries row := iff_of_false List.not_mem_nil fun ⟨_, h, _⟩ => List.not_mem_nil h
  admins row := iff_of_false List.not_mem_nil fun ⟨_, h, _⟩ => List.not_mem_nil h

variable (h : Simulates deployment accounts m s)
include h

theorem get?_of_mem (hstored : stored ∈ m.requestsById.values) :
    m.requestsById.get? stored.requestId = some stored := by
  obtain ⟨i, hi⟩ := (Dict.mem_values_iff _).1 hstored
  rw [h.keyed i stored hi]
  exact hi

/-- **Two stored requests whose rows have a key in common are one.** -/
theorem eq_of_mem_keys (hstored : stored ∈ m.requestsById.values)
    (hother : other ∈ m.requestsById.values) (key : BoundaryKey)
    (hkey : key ∈ [BoundaryKey.requestId stored.requestId, .organizationId stored.organizationId,
      .boundary stored.identityBoundary.kind (lower stored.identityBoundary.reference)])
    (hkey' : key ∈ [BoundaryKey.requestId other.requestId, .organizationId other.organizationId,
      .boundary other.identityBoundary.kind (lower other.identityBoundary.reference)]) :
    stored = other := by
  have hrow : stored.row = other.row :=
    s.requests.eq_of_mem_keys ((h.requests _).2 ⟨stored, hstored, rfl⟩)
      ((h.requests _).2 ⟨other, hother, rfl⟩) hkey hkey'
  have hid : stored.requestId = other.requestId := congrArg OnboardingRequestRow.requestId hrow
  have hget := h.get?_of_mem hstored
  rw [hid, h.get?_of_mem hother] at hget
  exact (Option.some.inj hget).symm

/-- The rows of a stored request. -/
theorem joined_eq (hstored : stored ∈ m.requestsById.values) {key : BoundaryKey}
    (hkey : key ∈ [BoundaryKey.requestId stored.requestId, .organizationId stored.organizationId,
      .boundary stored.identityBoundary.kind (lower stored.identityBoundary.reference)]) :
    s.joined key = some (stored.row, m.organizationRow stored) := by
  refine joined_eq_some_iff.2 ⟨?_, ?_⟩
  · exact KeyedTable.find?_eq_some_iff.2 ⟨(h.requests _).2 ⟨stored, hstored, rfl⟩, hkey⟩
  · refine KeyedTable.find?_eq_some_iff.2 ⟨(h.organizations _).2 ⟨stored, hstored, rfl⟩, ?_⟩
    rw [fields_of_organizationRow.1]
    exact List.mem_singleton_self _

/-- What is joined is a stored request. -/
theorem stored_of_joined {key : BoundaryKey} {row : OnboardingRequestRow × OrganizationRow}
    (hjoined : s.joined key = some row) :
    ∃ stored ∈ m.requestsById.values, row = (stored.row, m.organizationRow stored) ∧
      key ∈ [BoundaryKey.requestId stored.requestId, .organizationId stored.organizationId,
        .boundary stored.identityBoundary.kind (lower stored.identityBoundary.reference)] := by
  obtain ⟨hrequest, -⟩ := joined_eq_some_iff.1 hjoined
  obtain ⟨hmem, hkey⟩ := KeyedTable.mem_of_find? hrequest
  obtain ⟨stored, hstored, hrow⟩ := (h.requests _).1 hmem
  rw [hrow] at hkey
  refine ⟨stored, hstored, ?_, hkey⟩
  exact Option.some.inj (hjoined.symm.trans (h.joined_eq hstored hkey))

/-! ### Requests -/

/-- **The tables admit exactly the requests they have room for.** -/
theorem admitsRequest_iff (haccount : ∃ account ∈ accounts, account.subject =
    request.applicant.subject) : s.AdmitsRequest request ↔ m.HasRoom lower request := by
  constructor
  · intro hadmits
    refine ⟨hadmits.sendable, fun other hother => ?_⟩
    have hfree := hadmits.requestFree other.row ((h.requests _).2 ⟨other, hother, rfl⟩)
    refine ⟨fun hid => ?_, fun hid => ?_, fun hboundary => ?_⟩
    · refine hfree (.requestId request.requestId) ?_ ?_ <;>
        simp [OrganizationOnboardingRequest.row, hid]
    · refine hfree (.organizationId request.organizationId) ?_ ?_ <;>
        simp [OrganizationOnboardingRequest.row, hid]
    · refine hfree (.boundary request.identityBoundary.kind
        (lower request.identityBoundary.reference)) ?_ ?_ <;>
        simp [OrganizationOnboardingRequest.row, hboundary]
  · intro hroom
    refine ⟨hroom.sendable, ?_, ?_, ?_⟩
    · refine KeyedTable.find?_eq_none_iff.2 fun row hrow hid => ?_
      obtain ⟨other, hother, rfl⟩ := (h.organizations _).1 hrow
      rw [fields_of_organizationRow.1] at hid
      exact (hroom.distinct other hother).2.1 (List.mem_singleton.1 hid).symm
    · intro row hrow key hkey hkey'
      obtain ⟨other, hother, rfl⟩ := (h.requests _).1 hrow
      obtain ⟨hid, horganization, hboundary⟩ := hroom.distinct other hother
      simp only [OrganizationOnboardingRequest.row, List.mem_cons, List.not_mem_nil, or_false]
        at hkey hkey'
      rcases hkey with rfl | rfl | rfl
      · simp only [BoundaryKey.requestId.injEq, reduceCtorEq, or_false] at hkey'
        exact hid hkey'
      · simp only [BoundaryKey.organizationId.injEq, reduceCtorEq, or_false, false_or] at hkey'
        exact horganization hkey'
      · simp only [BoundaryKey.boundary.injEq, reduceCtorEq, false_or] at hkey'
        exact hboundary hkey'
    · unfold PlatformDatabase.HasAccount
      rw [h.accounts_eq]
      exact haccount

/-- **A request is stored on both sides.** -/
theorem store (hstate : request.state = .pending) (hactive : request.state ≠ .active)
    (hadmits : s.AdmitsRequest request) (hroom : m.HasRoom lower request) :
    Simulates deployment accounts (m.store casefold request) (hadmits.saved hactive) := by
  have hnew : m.requestsById.get? request.requestId = none := by
    cases hget : m.requestsById.get? request.requestId with
    | none => rfl
    | some other =>
        have hother := (Dict.mem_values_iff _).2 ⟨_, hget⟩
        exact absurd (h.keyed _ _ hget) (hroom.distinct other hother).1
  have hvalues : ∀ other, other ∈ (m.store casefold request).requestsById.values ↔
      other = request ∨ other ∈ m.requestsById.values :=
    fun other => Dict.mem_values_set_of_new hnew
  have hinactive : m.activeByOrganizationId.get? request.organizationId = none := by
    cases hget : m.activeByOrganizationId.get? request.organizationId with
    | none => rfl
    | some organization =>
        obtain ⟨other, hother, hid, -⟩ := h.activated _ _ hget
        exact absurd hid (hroom.distinct other hother).2.1
  refine ⟨?_, ?_, ?_, h.accounts_eq, ?_, ?_, h.approvals, h.boundaries, h.admins⟩
  · intro i other hget
    rcases Dict.get?_set_eq_some_iff.1 hget with ⟨rfl, rfl⟩ | ⟨-, hold⟩
    · rfl
    · exact h.keyed i other hold
  · intro other hother
    rcases (hvalues other).1 hother with rfl | hother
    · exact hstate
    · exact h.pending other hother
  · intro i organization hget
    obtain ⟨other, hother, hrest⟩ := h.activated i organization hget
    exact ⟨other, (hvalues other).2 (Or.inr hother), hrest⟩
  · intro row
    refine (KeyedTable.mem_rows_insert (h := hadmits.requestFree)).trans ?_
    exact Dict.mem_rows_set_of_new hnew h.requests row
  · intro row
    have hrow : request.organizationRow hactive = m.organizationRow request := by
      rw [OrganizationOnboardingRequest.organizationRow_eq hstate]
      exact (organizationRow_of_inactive hinactive).symm
    refine (KeyedTable.mem_rows_insert
      (h := (admits_organizationRow_iff hactive).2 hadmits.organizationFree)).trans ?_
    rw [hrow]
    exact Dict.mem_rows_set_of_new hnew h.organizations row

/-! ### Activations -/

/-- The request of an active organization is that of its approval. -/
theorem eq_of_approval (hstored : stored ∈ m.requestsById.values)
    (hactive : organization ∈ m.activeByOrganizationId.values)
    (hid : organization.approval.requestId = stored.requestId) :
    m.activeByOrganizationId.get? stored.organizationId = some organization := by
  obtain ⟨i, hget⟩ := (Dict.mem_values_iff _).1 hactive
  obtain ⟨other, hother, rfl, hactivation⟩ := h.activated i organization hget
  have hsame : stored = other := by
    refine h.eq_of_mem_keys hstored hother (.requestId stored.requestId) (by simp) ?_
    simp [← hactivation.isOf.2.2.1, hid]
  rw [hsame]
  exact hget

/-- **The first activation of a stored request is admitted by the tables.** -/
theorem canActivate (hstored : stored ∈ m.requestsById.values)
    (hid : stored.organizationId = organization.organizationId)
    (hfirst : m.FirstOf deployment organization stored)
    (haccount : ∃ account ∈ accounts, account.subject = organization.initialTenantAdmin.subject) :
    s.CanActivate deployment.case deployment.sha256 organization
      (stored.row, m.organizationRow stored) stored := by
  obtain ⟨hboundary, -, happroval, -⟩ := hfirst.isOf
  refine ⟨h.joined_eq hstored (by simp [hid]), state_organizationRow_iff.2 hfirst.inactive,
    readRequest_row (h.pending stored hstored) hfirst.reads fields_of_organizationRow.2,
    hfirst.isOf, hfirst.sendable, ?_, ?_, ?_, ?_⟩
  · refine KeyedTable.find?_eq_none_iff.2 fun row hrow hkey => ?_
    obtain ⟨other, hother, rfl⟩ := (h.approvals _).1 hrow
    have hsame : other.approval.requestId = stored.requestId :=
      (List.mem_singleton.1 hkey).symm.trans happroval
    have hactive := h.eq_of_approval hstored hother hsame
    rw [hfirst.inactive] at hactive
    cases hactive
  · intro row hrow key hkey hkey'
    obtain ⟨other, hother, rfl⟩ := (h.boundaries _).1 hrow
    obtain ⟨i, hget⟩ := (Dict.mem_values_iff _).1 hother
    obtain ⟨request, hrequest, rfl, hactivation⟩ := h.activated i other hget
    -- a common key would make the other organization that of the stored request
    have hsame : stored = request := by
      refine h.eq_of_mem_keys hstored hrequest key ?_ ?_
      · simp only [ActiveOrganization.boundaryRow, hboundary, ← hid] at hkey'
        exact List.mem_cons_of_mem _ hkey'
      · simp only [ActiveOrganization.boundaryRow, hactivation.isOf.1,
          hactivation.organizationId_eq] at hkey
        exact List.mem_cons_of_mem _ hkey
    rw [← hsame, hfirst.inactive] at hget
    cases hget
  · refine KeyedTable.find?_eq_none_iff.2 fun row hrow hkey => ?_
    obtain ⟨other, hother, rfl⟩ := (h.admins _).1 hrow
    obtain ⟨i, hget⟩ := (Dict.mem_values_iff _).1 hother
    obtain ⟨request, -, rfl, hactivation⟩ := h.activated i other hget
    have hsame : stored.organizationId = request.organizationId :=
      (hid.trans (List.mem_singleton.1 hkey)).trans hactivation.organizationId_eq
    rw [← hsame, hfirst.inactive] at hget
    cases hget
  · unfold PlatformDatabase.HasAccount
    rw [h.accounts_eq]
    exact haccount

/-- **An organization is activated on both sides.** -/
theorem activate (hstored : stored ∈ m.requestsById.values)
    (hid : stored.organizationId = organization.organizationId)
    (hstate : organization.state = .active)
    (hfirst : m.FirstOf deployment organization stored)
    (hadmits : s.AdmitsActivation organization) :
    Simulates deployment accounts
      { m with
        activeByOrganizationId :=
          m.activeByOrganizationId.set organization.organizationId organization }
      (s.activated organization hadmits) := by
  have hinactive : m.activeByOrganizationId.get? organization.organizationId = none := by
    rw [← hid]
    exact hfirst.inactive
  refine ⟨h.keyed, h.pending, ?_, h.accounts_eq, h.requests, ?_, ?_, ?_, ?_⟩
  · intro i other hget
    rcases Dict.get?_set_eq_some_iff.1 hget with ⟨rfl, rfl⟩ | ⟨-, hold⟩
    · exact ⟨stored, hstored, hid,
        ⟨hid.symm, hfirst.reads, hfirst.isOf, hfirst.name_eq, hstate⟩⟩
    · exact h.activated i other hold
  · intro row
    have hrow : ∀ other ∈ m.requestsById.values,
        InMemoryOrganizationOnboardingStore.organizationRow
          { m with
            activeByOrganizationId :=
              m.activeByOrganizationId.set organization.organizationId organization } other =
        (m.organizationRow other).activateIf organization.organizationId
          organization.activatedAt := by
      intro other hother
      unfold OrganizationRow.activateIf
      rw [fields_of_organizationRow.1]
      by_cases hsame : other.organizationId = organization.organizationId
      · have hbefore : m.organizationRow other = other.pendingRow :=
          organizationRow_of_inactive (hsame ▸ hinactive)
        rw [if_pos hsame, hbefore]
        refine organizationRow_of_active ?_
        rw [hsame]
        exact Dict.get?_set_self _ _ _
      · rw [if_neg hsame]
        unfold InMemoryOrganizationOnboardingStore.organizationRow
        simp only
        rw [Dict.get?_set_of_ne _ _ hsame]
    refine List.mem_map.trans ?_
    constructor
    · rintro ⟨old, hold, rfl⟩
      obtain ⟨other, hother, rfl⟩ := (h.organizations _).1 hold
      exact ⟨other, hother, (hrow other hother).symm⟩
    · rintro ⟨other, hother, rfl⟩
      exact ⟨m.organizationRow other, (h.organizations _).2 ⟨other, hother, rfl⟩,
        (hrow other hother).symm⟩
  · intro row
    refine (KeyedTable.mem_rows_insert (h := admits_approval_iff.2 hadmits.unapproved)).trans ?_
    exact Dict.mem_rows_set_of_new hinactive h.approvals row
  · intro row
    refine (KeyedTable.mem_rows_insert (h := hadmits.boundaryFree)).trans ?_
    exact Dict.mem_rows_set_of_new hinactive h.boundaries row
  · intro row
    refine (KeyedTable.mem_rows_insert (h := admits_adminRow_iff.2 hadmits.unadministered)).trans ?_
    exact Dict.mem_rows_set_of_new hinactive h.admins row

/-! ### What is resolved -/

/-- The rows of an organization that is active in memory. -/
theorem routableRows_of_active {i : String}
    (hget : m.activeByOrganizationId.get? i = some organization) :
    ∃ rows, s.routableRows i = some rows ∧ readRoutable deployment.case rows = .ok organization := by
  obtain ⟨stored, hstored, rfl, hactivation⟩ := h.activated i organization hget
  have hmem : organization ∈ m.activeByOrganizationId.values := (Dict.mem_values_iff _).2 ⟨_, hget⟩
  have hrow := organizationRow_of_active hget
  obtain ⟨hboundary, ⟨hkind, hreference⟩, happroval, -⟩ := hactivation.isOf
  have hid : organization.organizationId = stored.organizationId := hactivation.organizationId_eq
  refine ⟨⟨stored.pendingRow.activate organization.activatedAt, organization.boundaryRow,
    organization.approval.row, organization.adminRow, rfl⟩,
    routableRows_eq_some_iff.2 ⟨?_, ?_, ⟨stored.row, ?_, ?_⟩, ?_⟩, ?_⟩
  · refine KeyedTable.find?_eq_some_iff.2 ⟨(h.organizations _).2 ⟨stored, hstored, ?_⟩, ?_⟩
    · exact hrow.symm
    · exact List.mem_singleton_self _
  · refine KeyedTable.find?_eq_some_iff.2 ⟨(h.boundaries _).2 ⟨organization, hmem, rfl⟩, ?_⟩
    simp [ActiveOrganization.boundaryRow, hid]
  · refine KeyedTable.find?_eq_some_iff.2 ⟨(h.requests _).2 ⟨stored, hstored, rfl⟩, ?_⟩
    simp [OrganizationOnboardingRequest.row]
  · refine KeyedTable.find?_eq_some_iff.2 ⟨(h.approvals _).2 ⟨organization, hmem, rfl⟩, ?_⟩
    simp [OrganizationOnboardingApproval.row, OrganizationOnboardingRequest.row, happroval]
  · refine KeyedTable.find?_eq_some_iff.2 ⟨(h.admins _).2 ⟨organization, hmem, rfl⟩, ?_⟩
    simp [ActiveOrganization.adminRow, hid]
  · have hreads := hactivation.reads
    rw [← hboundary] at hreads hkind hreference
    exact readRoutable_activate hreads hkind hreference hid.symm hactivation.name_eq.symm
      hactivation.state_eq

/-- An organization that is not active in memory has no rows to be read. -/
theorem routableRows_of_inactive {i : String} (hget : m.activeByOrganizationId.get? i = none) :
    s.routableRows i = none := by
  cases hrows : s.routableRows i with
  | none => rfl
  | some rows =>
      obtain ⟨horganization, -⟩ := routableRows_eq_some_iff.1 hrows
      obtain ⟨hmem, hkey⟩ := KeyedTable.mem_of_find? horganization
      obtain ⟨stored, hstored, hrow⟩ := (h.organizations _).1 hmem
      have hid : i = stored.organizationId := by
        rw [hrow, fields_of_organizationRow.1] at hkey
        exact List.mem_singleton.1 hkey
      have hpending : (m.organizationRow stored).state = .pending :=
        state_organizationRow_iff.2 (hid ▸ hget)
      rw [← hrow, rows.active] at hpending
      cases hpending

/-- **Both sides resolve the same organizations.** -/
theorem sameRoutable : SameRoutable lower casefold deployment m s := by
  intro i hsend
  have hmemory : ((memoryStore casefold).resolveRoutableOrganization i m).1 =
      .ok (m.activeByOrganizationId.get? i) := rfl
  rw [hmemory]
  cases hget : m.activeByOrganizationId.get? i with
  | none =>
      exact (congrArg Prod.fst
        (resolveRoutableOrganization_of_none hsend (h.routableRows_of_inactive hget))).symm
  | some organization =>
      obtain ⟨rows, hrows, hread⟩ := h.routableRows_of_active hget
      exact (congrArg Prod.fst (resolveRoutableOrganization_of_rows hsend hrows hread)).symm

/-! ### One call -/

omit h in
/-- Both sides accept the call, and simulate each other again, or both reject it. -/
def Matched (accounts : List UserAccount) (casefold : String → String)
    (deployment : OnboardingDeployment) (m : InMemoryOrganizationOnboardingStore)
    (s : PlatformDatabase lower) (call : OnboardingCall) : Prop :=
  (∃ m' s', (memoryStore casefold).perform deployment.sha256 call m = (.ok (), m') ∧
      (postgresStore lower deployment).perform deployment.sha256 call s = (.ok (), s') ∧
      Simulates deployment accounts m' s') ∨
    (¬ (memoryStore casefold).Accepts deployment.sha256 m call ∧
      ¬ (postgresStore lower deployment).Accepts deployment.sha256 s call)

/-- **A request is started on both sides, or on none.** -/
theorem matched_start {applicant : AuthenticatedApplicant} {onboarding : OrganizationOnboardingStart}
    {generated : GeneratedRequest} {createdAt : ℕ}
    (hregistered : (OnboardingCall.start applicant onboarding generated createdAt).Registered
      accounts)
    (hcomparable : Comparable lower casefold deployment m
      (.start applicant onboarding generated createdAt)) :
    Matched accounts casefold deployment m s (.start applicant onboarding generated createdAt) := by
  have hadmits : s.AdmitsRequest (onboarding.request applicant generated createdAt) ↔
      m.HasRoom lower (onboarding.request applicant generated createdAt) :=
    h.admitsRequest_iff (hregistered applicant rfl)
  have hactive : (onboarding.request applicant generated createdAt).state ≠ .active := by
    simp [OrganizationOnboardingStart.request]
  by_cases hroom : m.HasRoom lower (onboarding.request applicant generated createdAt)
  · refine Or.inl ⟨m.store casefold (onboarding.request applicant generated createdAt), _, ?_, ?_,
      h.store rfl hactive (hadmits.2 hroom) hroom⟩
    · exact OrganizationOnboardingStore.perform_start_eq_ok_iff.2
        (memory_savePending_eq_ok_iff.2 ⟨hcomparable.2 hroom, rfl⟩)
    · exact OrganizationOnboardingStore.perform_start_eq_ok_iff.2
        ((savePending_eq_ok_iff rfl hactive).2 ⟨hadmits.2 hroom, rfl⟩)
  · refine Or.inr ⟨fun haccepts => hroom ?_, fun haccepts => hroom ?_⟩
    · exact hcomparable.1 (memory_savePending_eq_ok_iff.1
        (OrganizationOnboardingStore.perform_start_eq_ok_iff.1
          (OrganizationOnboardingStore.accepts_iff.1 haccepts))).1
    · obtain ⟨hadmitted, -⟩ := (savePending_eq_ok_iff rfl hactive).1
        (OrganizationOnboardingStore.perform_start_eq_ok_iff.1
          (OrganizationOnboardingStore.accepts_iff.1 haccepts))
      exact hadmits.1 hadmitted

/-- **A proof is recorded on both sides, or on none.** -/
theorem matched_recordIdentityProof {proof : IdentityBoundaryVerificationEvidence}
    (hcomparable : Comparable lower casefold deployment m (.recordIdentityProof request proof)) :
    Matched accounts casefold deployment m s (.recordIdentityProof request proof) := by
  by_cases hfound : proof.Matches request ∧ m.requestsById.get? request.requestId ≠ none
  · obtain ⟨hmatches, hknown⟩ := hfound
    obtain ⟨stored, hget⟩ := Option.ne_none_iff_exists'.1 hknown
    have hstored : stored ∈ m.requestsById.values := (Dict.mem_values_iff _).2 ⟨_, hget⟩
    have hid : stored.requestId = request.requestId := h.keyed _ _ hget
    obtain ⟨hinactive, hsend⟩ := hcomparable hmatches stored hstored hid
    have hrow : s.pendingRow request.requestId ≠ none := by
      have hpending : s.pendingRow request.requestId =
          some (stored.row, m.organizationRow stored) :=
        Option.filter_eq_some_iff.2 ⟨h.joined_eq hstored (by simp [hid]),
          decide_eq_true (state_organizationRow_iff.2 hinactive)⟩
      rw [hpending]
      exact Option.some_ne_none _
    refine Or.inl ⟨_, _, memory_recordIdentityProof_eq_ok_iff.2 ⟨hmatches, hknown, rfl⟩,
      recordIdentityProof_eq_ok_iff.2 ⟨hmatches, hsend, hrow, rfl⟩, ?_⟩
    exact ⟨h.keyed, h.pending, h.activated, h.accounts_eq, h.requests, h.organizations, h.approvals,
      h.boundaries, h.admins⟩
  · refine Or.inr ⟨fun haccepts => hfound ?_, fun haccepts => hfound ?_⟩
    · obtain ⟨hmatches, hknown, -⟩ := memory_recordIdentityProof_eq_ok_iff.1
        (OrganizationOnboardingStore.accepts_iff.1 haccepts)
      exact ⟨hmatches, hknown⟩
    · obtain ⟨hmatches, -, hrow, -⟩ := recordIdentityProof_eq_ok_iff.1
        (OrganizationOnboardingStore.accepts_iff.1 haccepts)
      obtain ⟨row, hpending⟩ := Option.ne_none_iff_exists'.1 hrow
      obtain ⟨stored, hstored, -, hkey⟩ :=
        h.stored_of_joined (Option.filter_eq_some_iff.1 hpending).1
      have hid : stored.requestId = request.requestId := by simpa [eq_comm] using hkey
      rw [← hid, h.get?_of_mem hstored]
      exact ⟨hmatches, Option.some_ne_none _⟩

/-- **An organization is activated on both sides, or on none.** -/
theorem matched_activate {identityProof : Option IdentityBoundaryVerificationEvidence}
    {approval : Option OrganizationOnboardingApproval} {activatedAt : ℕ}
    (hregistered : (OnboardingCall.activate request identityProof approval activatedAt).Registered
      accounts)
    (hcomparable : Comparable lower casefold deployment m
      (.activate request identityProof approval activatedAt)) :
    Matched accounts casefold deployment m s
      (.activate request identityProof approval activatedAt) := by
  by_cases hfound : (∃ proof recorded,
      Presents deployment.sha256 request identityProof approval proof recorded) ∧
      ∃ stored ∈ m.requestsById.values, stored.organizationId = request.organizationId
  · obtain ⟨⟨proof, recorded, hpresents⟩, stored, hstored, hid⟩ := hfound
    have hfirst := hcomparable proof recorded hpresents stored hstored hid
    have hcan := h.canActivate hstored hid hfirst (hregistered request.applicant rfl)
    have hknown : request.organizationId ∈ m.organizationIds :=
      List.mem_map.2 ⟨stored, hstored, hid⟩
    refine Or.inl ⟨_, _, ?_, ?_, h.activate hstored hid rfl hfirst hcan.admits⟩
    · exact OrganizationOnboardingStore.perform_activate_eq_ok_iff.2
        ⟨proof, recorded, hpresents, memory_activate_eq_ok_iff.2 ⟨hknown, rfl, rfl⟩⟩
    · exact OrganizationOnboardingStore.perform_activate_eq_ok_iff.2
        ⟨proof, recorded, hpresents, activateOrganization_eq_ok_iff.2 ⟨_, stored, hcan, rfl⟩⟩
  · refine Or.inr ⟨fun haccepts => hfound ?_, fun haccepts => hfound ?_⟩
    · obtain ⟨proof, recorded, hpresents, hactivate⟩ :=
        OrganizationOnboardingStore.perform_activate_eq_ok_iff.1
          (OrganizationOnboardingStore.accepts_iff.1 haccepts)
      obtain ⟨hknown, -, -⟩ := memory_activate_eq_ok_iff.1 hactivate
      obtain ⟨stored, hstored, hid⟩ := List.mem_map.1 hknown
      exact ⟨⟨proof, recorded, hpresents⟩, stored, hstored, hid⟩
    · obtain ⟨proof, recorded, hpresents, hactivate⟩ :=
        OrganizationOnboardingStore.perform_activate_eq_ok_iff.1
          (OrganizationOnboardingStore.accepts_iff.1 haccepts)
      obtain ⟨row, read, hcan, -⟩ := activateOrganization_eq_ok_iff.1 hactivate
      obtain ⟨stored, hstored, -, hkey⟩ := h.stored_of_joined hcan.joined
      have hid : stored.organizationId = request.organizationId := by
        simpa [eq_comm, OrganizationOnboardingRequest.activated] using hkey
      exact ⟨⟨proof, recorded, hpresents⟩, stored, hstored, hid⟩

/-- **One call of both sides.** -/
theorem matched {call : OnboardingCall} (hregistered : call.Registered accounts)
    (hcomparable : Comparable lower casefold deployment m call) :
    Matched accounts casefold deployment m s call := by
  cases call with
  | start => exact h.matched_start hregistered hcomparable
  | recordIdentityProof => exact h.matched_recordIdentityProof hcomparable
  | approve request approver approvedAt =>
      by_cases hpending : request.state = .pending
      · exact Or.inl ⟨m, s, OrganizationOnboardingStore.perform_approve_eq_ok_iff.2 ⟨hpending, rfl⟩,
          OrganizationOnboardingStore.perform_approve_eq_ok_iff.2 ⟨hpending, rfl⟩, h⟩
      · refine Or.inr ⟨fun haccepts => hpending ?_, fun haccepts => hpending ?_⟩
        · exact (OrganizationOnboardingStore.perform_approve_eq_ok_iff.1
            (OrganizationOnboardingStore.accepts_iff.1 haccepts)).1
        · exact (OrganizationOnboardingStore.perform_approve_eq_ok_iff.1
            (OrganizationOnboardingStore.accepts_iff.1 haccepts)).1
  | activate => exact h.matched_activate hregistered hcomparable

/-- Both sides accept the same calls. -/
theorem accepts_iff {call : OnboardingCall} (hregistered : call.Registered accounts)
    (hcomparable : Comparable lower casefold deployment m call) :
    (memoryStore casefold).Accepts deployment.sha256 m call ↔
      (postgresStore lower deployment).Accepts deployment.sha256 s call := by
  rcases h.matched hregistered hcomparable with ⟨m', s', hm, hs, -⟩ | ⟨hm, hs⟩
  · exact iff_of_true (congrArg Prod.fst hm) (congrArg Prod.fst hs)
  · exact iff_of_false hm hs

/-- **After a call, the tables hold again what is stored in memory.** -/
theorem after {call : OnboardingCall} (hregistered : call.Registered accounts)
    (hcomparable : Comparable lower casefold deployment m call) :
    Simulates deployment accounts ((memoryStore casefold).after deployment.sha256 m call)
      ((postgresStore lower deployment).after deployment.sha256 s call) := by
  rcases h.matched hregistered hcomparable with ⟨m', s', hm, hs, hafter⟩ | ⟨hm, hs⟩
  · have hm' : (memoryStore casefold).after deployment.sha256 m call = m' := congrArg Prod.snd hm
    have hs' : (postgresStore lower deployment).after deployment.sha256 s call = s' :=
      congrArg Prod.snd hs
    rw [hm', hs']
    exact hafter
  · rw [OrganizationOnboardingStore.after_of_rejected hm,
      OrganizationOnboardingStore.after_of_rejected hs]
    exact h

end Simulates

/-! ### Runs -/

/-- The stores agree along a run of calls that do not tell them apart. -/
theorem Simulates.agreeAlong (h : Simulates deployment accounts m s) {calls : List OnboardingCall}
    (hregistered : ∀ call ∈ calls, call.Registered accounts)
    (hcomparable : ComparableAlong lower casefold deployment m calls) :
    AgreeAlong lower casefold deployment m s calls := by
  induction calls generalizing m s with
  | nil => exact h.sameRoutable
  | cons call calls ih =>
      have hcall : call.Registered accounts := hregistered call List.mem_cons_self
      refine ⟨h.sameRoutable, h.accepts_iff hcall hcomparable.1,
        OrganizationOnboardingStore.after_of_rejected, OrganizationOnboardingStore.after_of_rejected,
        ?_⟩
      exact ih (h.after hcall hcomparable.1)
        (fun other hother => hregistered other (List.mem_cons_of_mem _ hother)) hcomparable.2

/-- They activate the same organizations. -/
theorem Simulates.activatedIds_eq (h : Simulates deployment accounts m s)
    {calls : List OnboardingCall} (hregistered : ∀ call ∈ calls, call.Registered accounts)
    (hcomparable : ComparableAlong lower casefold deployment m calls) :
    (postgresStore lower deployment).activatedIds deployment.sha256 s calls =
      (memoryStore casefold).activatedIds deployment.sha256 m calls := by
  induction calls generalizing m s with
  | nil => rfl
  | cons call calls ih =>
      have hcall : call.Registered accounts := hregistered call List.mem_cons_self
      have hrest := ih (h.after hcall hcomparable.1)
        (fun other hother => hregistered other (List.mem_cons_of_mem _ hother)) hcomparable.2
      unfold OrganizationOnboardingStore.activatedIds
      rw [hrest]
      simp only [h.accepts_iff hcall hcomparable.1]

/-- An organization that is active in memory stays active. -/
theorem active_of_after {call : OnboardingCall} {i : String}
    (h : ((memoryStore casefold).after deployment.sha256 m call).activeByOrganizationId.get? i =
      none) : m.activeByOrganizationId.get? i = none := by
  by_cases haccepts : (memoryStore casefold).Accepts deployment.sha256 m call
  · have hrun := OrganizationOnboardingStore.accepts_iff.1 haccepts
    generalize (memoryStore casefold).after deployment.sha256 m call = m' at h hrun
    cases call with
    | start =>
        obtain ⟨-, rfl⟩ := memory_savePending_eq_ok_iff.1
          (OrganizationOnboardingStore.perform_start_eq_ok_iff.1 hrun)
        exact h
    | recordIdentityProof =>
        obtain ⟨-, -, rfl⟩ := memory_recordIdentityProof_eq_ok_iff.1 hrun
        exact h
    | approve =>
        obtain ⟨-, rfl⟩ := OrganizationOnboardingStore.perform_approve_eq_ok_iff.1 hrun
        exact h
    | activate =>
        obtain ⟨proof, recorded, -, hactivate⟩ :=
          OrganizationOnboardingStore.perform_activate_eq_ok_iff.1 hrun
        obtain ⟨-, -, rfl⟩ := memory_activate_eq_ok_iff.1 hactivate
        rw [Dict.get?_set] at h
        split at h
        · cases h
        · exact h
  · rw [OrganizationOnboardingStore.after_of_rejected haccepts] at h
    exact h

/-- **An activation is the first of its organization, and makes it active.** -/
theorem active_of_accepted {call : OnboardingCall} {i : String}
    (hcomparable : Comparable lower casefold deployment m call) (hactivates : call.activates = some i)
    (haccepts : (memoryStore casefold).Accepts deployment.sha256 m call) :
    m.activeByOrganizationId.get? i = none ∧
      ((memoryStore casefold).after deployment.sha256 m call).activeByOrganizationId.get? i ≠
        none := by
  have hrun := OrganizationOnboardingStore.accepts_iff.1 haccepts
  generalize (memoryStore casefold).after deployment.sha256 m call = m' at hrun
  cases call with
  | start => cases hactivates
  | recordIdentityProof => cases hactivates
  | approve => cases hactivates
  | activate request identityProof approval activatedAt =>
      cases hactivates
      obtain ⟨proof, recorded, hpresents, hactivate⟩ :=
        OrganizationOnboardingStore.perform_activate_eq_ok_iff.1 hrun
      obtain ⟨hknown, -, rfl⟩ := memory_activate_eq_ok_iff.1 hactivate
      obtain ⟨stored, hstored, hid⟩ := List.mem_map.1 hknown
      have hfirst := hcomparable proof recorded hpresents stored hstored hid
      constructor
      · rw [← hfirst.inactive]
        exact congrArg _ hid.symm
      · have hset : (m.activeByOrganizationId.set
            (request.activated proof recorded activatedAt).organizationId
            (request.activated proof recorded activatedAt)).get? request.organizationId = some _ :=
          Dict.get?_set_self _ _ _
        simp only [hset]
        exact Option.some_ne_none _

/-- No organization is activated that is active, and none twice. -/
theorem activatedIds_memory {calls : List OnboardingCall}
    (hcomparable : ComparableAlong lower casefold deployment m calls) :
    ((memoryStore casefold).activatedIds deployment.sha256 m calls).Nodup ∧
      ∀ i ∈ (memoryStore casefold).activatedIds deployment.sha256 m calls,
        m.activeByOrganizationId.get? i = none := by
  induction calls generalizing m with
  | nil => exact ⟨List.nodup_nil, fun i hi => absurd hi List.not_mem_nil⟩
  | cons call calls ih =>
      obtain ⟨hnodup, hinactive⟩ := ih hcomparable.2
      unfold OrganizationOnboardingStore.activatedIds
      by_cases haccepts : (memoryStore casefold).Accepts deployment.sha256 m call
      · rw [if_pos haccepts]
        cases hactivates : call.activates with
        | none => exact ⟨hnodup, fun i hi => active_of_after (hinactive i hi)⟩
        | some i =>
            obtain ⟨hfirst, hactive⟩ := active_of_accepted hcomparable.1 hactivates haccepts
            refine ⟨List.nodup_cons.2 ⟨fun hi => hactive (hinactive i hi), hnodup⟩, ?_⟩
            intro j hj
            rcases List.mem_cons.1 hj with rfl | hj
            · exact hfirst
            · exact active_of_after (hinactive j hj)
      · rw [if_neg haccepts]
        exact ⟨hnodup, fun i hi => active_of_after (hinactive i hi)⟩

end

/-- **The stores agree along every run of calls of registered users that do not tell them apart**,
and activate an organization once. -/
theorem stores_agree (lower casefold : String → String) (deployment : OnboardingDeployment)
    (accounts : List UserAccount) (calls : List OnboardingCall)
    (hregistered : ∀ call ∈ calls, call.Registered accounts)
    (hcomparable : ComparableAlong lower casefold deployment .empty calls) :
    StoresAgree lower casefold deployment .empty (accountsOnly lower accounts) calls where
  agree := Simulates.empty.agreeAlong hregistered hcomparable
  memory_once := (activatedIds_memory hcomparable).1
  postgres_once := by
    rw [Simulates.empty.activatedIds_eq hregistered hcomparable]
    exact (activatedIds_memory hcomparable).1

/-- Bob approves Alice's request, and her organization is activated, at these instants. -/
def aliceActivates (activatedAt : ℕ) : OnboardingCall :=
  .activate aliceStarted (some aliceProof)
    (some (aliceStarted.approval denyingDeployment.sha256 bobReviewer 0)) activatedAt

/-- Alice starts her request. -/
def aliceStarts : OnboardingCall :=
  .start aliceApplicant aliceStart aliceGenerated 0

/-- She starts her request, it is proved and approved, and her organization is activated. -/
theorem stores_agree_alice :
    StoresAgree asciiLower asciiLower denyingDeployment .empty
      (accountsOnly asciiLower [⟨"user_alice", 0, by decide⟩])
      [aliceStarts, .recordIdentityProof aliceStarted aliceProof, aliceActivates 1] := by
  have hvalues : ((memoryStore asciiLower).after denyingDeployment.sha256 .empty
      aliceStarts).requestsById.values = [aliceStarted] := by
    decide
  have hproved : ((memoryStore asciiLower).after denyingDeployment.sha256
      ((memoryStore asciiLower).after denyingDeployment.sha256 .empty aliceStarts)
      (.recordIdentityProof aliceStarted aliceProof)).requestsById.values = [aliceStarted] := by
    decide
  refine stores_agree asciiLower asciiLower denyingDeployment _ _ ?_ ⟨?_, ?_, ?_, trivial⟩
  · intro call hcall applicant happlicant
    refine ⟨⟨"user_alice", 0, by decide⟩, List.mem_singleton_self _, ?_⟩
    simp only [List.mem_cons, List.not_mem_nil, or_false] at hcall
    rcases hcall with rfl | rfl | rfl
    · cases happlicant
      rfl
    · cases happlicant
    · cases happlicant
      rfl
  · exact iff_of_true rfl ⟨by decide, fun other hother => absurd hother List.not_mem_nil⟩
  · intro _ stored hstored _
    rw [hvalues] at hstored
    obtain rfl := List.mem_singleton.1 hstored
    exact ⟨by decide, by decide⟩
  · intro proof recorded hpresents stored hstored _
    rw [hproved] at hstored
    obtain rfl := List.mem_singleton.1 hstored
    cases hpresents.proof_eq
    cases hpresents.approval_eq
    exact ⟨by decide, by decide, ⟨rfl, ⟨rfl, rfl⟩, rfl, rfl⟩, rfl, by decide⟩

/-- **Alice's organization is activated twice in memory**, and once in the database. -/
theorem second_activation_in_memory :
    (memoryStore asciiLower).activatedIds denyingDeployment.sha256 .empty
        [aliceStarts, aliceActivates 1, aliceActivates 2] =
      [aliceStarted.organizationId, aliceStarted.organizationId] ∧
    (postgresStore asciiLower denyingDeployment).activatedIds denyingDeployment.sha256
        (accountsOnly asciiLower [⟨"user_alice", 0, by decide⟩])
        [aliceStarts, aliceActivates 1, aliceActivates 2] = [aliceStarted.organizationId] ∧
    ¬ StoresAgree asciiLower asciiLower denyingDeployment .empty
      (accountsOnly asciiLower [⟨"user_alice", 0, by decide⟩])
      [aliceStarts, aliceActivates 1, aliceActivates 2] := by
  have hmemory : (memoryStore asciiLower).activatedIds denyingDeployment.sha256 .empty
        [aliceStarts, aliceActivates 1, aliceActivates 2] =
      [aliceStarted.organizationId, aliceStarted.organizationId] := by
    decide
  refine ⟨hmemory, by decide +kernel, fun h => ?_⟩
  have honce := h.memory_once
  rw [hmemory] at honce
  exact (List.nodup_cons.1 honce).1 (List.mem_singleton_self _)

end PlatformOps
