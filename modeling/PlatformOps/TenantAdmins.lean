/-
**The first administrators and the memberships.**

An activation records the first administrator of an organization in a table of its own.  The
authorizer asks for memberships, which are rows of another table: an invitation that is accepted
makes one, and nothing else does.  So the first administrator of an organization is a member of it
only by invitation.

Main definitions:

* `TenantOperation`, `TenantOperation.after` — the operations that write, and the tables after one;
* `tablesAfter` — the tables after some operations;
* `AcceptedIn`, `RevokedIn` — a user has accepted an invitation, or lost a membership;
* `AdminsAreMembers` — the first administrators are members;
* `MembershipsOf` — what the memberships say of the operations.

Main results:

* `MembershipsOf.concat` — what one operation keeps;
* `membershipsOf_tablesAfter` — what every run keeps;
* `initial_admins_are_members_iff` — **the first administrators are members exactly if each of them
  has accepted an invitation**.
-/

import PlatformOps.ActivationRoundTrip
import PlatformOps.OrganizationMembership

set_option relaxedAutoImplicit false
set_option autoImplicit false

namespace PlatformOps

/-! ### Operations -/

/-- The operations that write. -/
inductive TenantOperation
  | register (account : UserAccount) (contact : VerifiedEmailContact)
  | savePending (request : OrganizationOnboardingRequest)
  | recordIdentityProof (request : OrganizationOnboardingRequest)
      (proof : IdentityBoundaryVerificationEvidence)
  | activate (organization : ActiveOrganization)
  | createInvitation (invitation : OrganizationInvitation)
  | acceptInvitation (tokenDigest : HexDigest) (userSubject : String) (now : ℕ)
      (generated : GeneratedMembership)
  | revokeActiveMembership (membershipId : String)

section
variable {lower : String → String} (case : CaseMapping) (codec : IdnaCodec)
  (sha256 : String → HexDigest)

/-- The tables after an operation. -/
def TenantOperation.after (s : PlatformDatabase lower) : TenantOperation → PlatformDatabase lower
  | register account contact =>
      { s with accounts := s.accounts ++ [account], contacts := s.contacts ++ [contact] }
  | savePending request => (PlatformOps.savePending request s).2
  | recordIdentityProof request proof => (PlatformOps.recordIdentityProof request proof s).2
  | activate organization => (activateOrganization case sha256 organization s).2
  | createInvitation invitation => (PlatformOps.createInvitation codec invitation s).2
  | acceptInvitation tokenDigest userSubject now generated =>
      (PlatformOps.acceptInvitation tokenDigest userSubject now generated s).2
  | revokeActiveMembership membershipId => (PlatformOps.revokeActiveMembership membershipId s).2

/-- The tables after some operations. -/
def tablesAfter (start : PlatformDatabase lower) (operations : List TenantOperation) :
    PlatformDatabase lower :=
  operations.foldl (TenantOperation.after case codec sha256) start

/-- The tables with users only. -/
def usersOnly (accounts : List UserAccount) (contacts : List VerifiedEmailContact) :
    PlatformDatabase lower :=
  ⟨accounts, contacts, .empty, .empty, .empty, .empty, .empty, .empty, .empty, .empty⟩

variable (start : PlatformDatabase lower) (operations : List TenantOperation)

/-- The user has accepted an invitation of the organization. -/
def AcceptedIn (userSubject organizationId : String) : Prop :=
  ∃ before tokenDigest now generated rest membership,
    operations = before ++ .acceptInvitation tokenDigest userSubject now generated :: rest ∧
      (acceptInvitation tokenDigest userSubject now generated
        (tablesAfter case codec sha256 start before)).1 = .ok membership ∧
      membership.organizationId = organizationId

/-- A membership of the user in the organization was revoked. -/
def RevokedIn (userSubject organizationId : String) : Prop :=
  ∃ before membershipId rest,
    operations = before ++ .revokeActiveMembership membershipId :: rest ∧
      (revokeActiveMembership membershipId (tablesAfter case codec sha256 start before)).1 = .ok () ∧
      ∃ row ∈ (tablesAfter case codec sha256 start before).memberships.rows,
        row.IsActive membershipId ∧ row.userSubject = userSubject ∧
          row.organizationId = organizationId

/-- Every recorded first administrator has an active membership, unless one was revoked. -/
def AdminsAreMembers : Prop :=
  let s := tablesAfter case codec sha256 start operations
  ∀ admin ∈ s.admins.rows,
    RevokedIn case codec sha256 start operations admin.userSubject admin.organizationId ∨
      ∃ membership, getActiveMembership admin.userSubject admin.organizationId s =
          (.ok (some membership), s) ∧
        membership.userSubject = admin.userSubject ∧
        membership.organizationId = admin.organizationId ∧ membership.state = .active

end

/-! ### What the operations do to the memberships -/

section
variable {lower : String → String} {case : CaseMapping} {codec : IdnaCodec}
  {sha256 : String → HexDigest} {s s' : PlatformDatabase lower}

theorem keeps_insertInto {κ α : Type} [DecidableEq κ] {keys : α → List κ}
    {get : PlatformDatabase lower → KeyedTable keys}
    {set : KeyedTable keys → PlatformDatabase lower → PlatformDatabase lower} {table : String}
    {refers : PlatformDatabase lower → Prop} [DecidablePred refers] {row : α} {π : Type}
    {part : PlatformDatabase lower → π} (h : ∀ t s, part (set t s) = part s) :
    (insertInto get set table refers row).Keeps part := by
  intro s
  unfold insertInto
  split
  · split
    · exact h _ s
    · rfl
  · rfl

theorem keeps_insertProof {row : IdentityProofRow} :
    (insertProof row : PlatformAction lower Unit).Keeps (·.memberships) := by
  intro s
  unfold insertProof
  split
  · apply keeps_insertInto
    exact fun _ _ => rfl
  · rfl

theorem keeps_savePending {request : OrganizationOnboardingRequest} :
    (savePending request : PlatformAction lower Unit).Keeps (·.memberships) := by
  have hrequest : (do
      send [request.requestId, request.organizationId, request.applicant.issuer,
        request.applicant.subject, request.identityBoundary.reference]
      Action.guard (request.state = .pending) (checkViolationOf "organization_onboarding_requests")
      insertRequest request.row : PlatformAction lower Unit).Keeps (·.memberships) := by
    refine (readOnly_send.keeps _).bind fun _ => (Action.readOnly_guard.keeps _).bind fun _ => ?_
    apply keeps_insertInto
    exact fun _ _ => rfl
  refine Action.Keeps.mapError (Action.Keeps.transaction ?_) _
  refine (readOnly_send.keeps _).bind fun _ => ?_
  by_cases hactive : request.state = .active
  · rw [dif_pos hactive]
    exact ((Action.readOnly_raise _).keeps _).bind fun _ => hrequest
  · rw [dif_neg hactive]
    refine Action.Keeps.bind ?_ fun _ => hrequest
    apply keeps_insertInto
    exact fun _ _ => rfl

theorem keeps_recordIdentityProof {request : OrganizationOnboardingRequest}
    {proof : IdentityBoundaryVerificationEvidence} :
    (recordIdentityProof request proof : PlatformAction lower Unit).Keeps (·.memberships) := by
  refine (Action.readOnly_guard.keeps _).bind fun _ => Action.Keeps.transaction ?_
  refine (readOnly_send.keeps _).bind fun _ => ?_
  refine ((Action.readOnly_read _).keeps _).bind fun _ => ?_
  refine (Action.readOnly_guard.keeps _).bind fun _ => ?_
  exact (readOnly_send.keeps _).bind fun _ => keeps_insertProof

theorem keeps_storeActivation {requestId : String} {organization : ActiveOrganization} :
    (storeActivation requestId organization : PlatformAction lower Unit).Keeps (·.memberships) := by
  have happroval : (insertApproval organization.approval.row : PlatformAction lower Unit).Keeps
      (·.memberships) := by
    apply keeps_insertInto
    exact fun _ _ => rfl
  have hboundary : (insertBoundary organization.boundaryRow : PlatformAction lower Unit).Keeps
      (·.memberships) := by
    apply keeps_insertInto
    exact fun _ _ => rfl
  have hadmin : (insertAdmin organization.adminRow : PlatformAction lower Unit).Keeps
      (·.memberships) := by
    apply keeps_insertInto
    exact fun _ _ => rfl
  refine (readOnly_send.keeps _).bind fun _ => keeps_insertProof.bind fun _ => ?_
  refine (readOnly_send.keeps _).bind fun _ => happroval.bind fun _ => ?_
  refine Action.Keeps.bind (Action.keeps_modify fun _ => rfl) fun _ => ?_
  refine (readOnly_send.keeps _).bind fun _ => hboundary.bind fun _ => ?_
  exact (readOnly_send.keeps _).bind fun _ => hadmin

theorem keeps_activateOrganization {organization : ActiveOrganization} :
    (activateOrganization case sha256 organization : PlatformAction lower Unit).Keeps
      (·.memberships) := by
  refine Action.Keeps.transaction ?_
  refine (readOnly_send.keeps _).bind fun _ => ?_
  refine ((Action.readOnly_read _).keeps _).bind fun found => ?_
  split
  · exact (Action.readOnly_raise _).keeps _
  · refine ((Action.readOnly_ofExcept _).keeps _).bind fun _ => ?_
    exact (Action.readOnly_guard.keeps _).bind fun _ => keeps_storeActivation

theorem keeps_createInvitation {invitation : OrganizationInvitation} :
    (createInvitation codec invitation : PlatformAction lower Unit).Keeps (·.memberships) := by
  refine ((Action.readOnly_ofExcept _).keeps _).bind fun parts => Action.Keeps.transaction ?_
  refine (readOnly_send.keeps _).bind fun _ => ?_
  refine ((Action.readOnly_read _).keeps _).bind fun _ => ?_
  refine (Action.readOnly_guard.keeps _).bind fun _ => (readOnly_send.keeps _).bind fun _ => ?_
  apply keeps_insertInto
  exact fun _ _ => rfl

/-- **An acceptance makes one membership**: an active one of the user, in the organization of the
invitation. -/
theorem memberships_acceptInvitation {tokenDigest : HexDigest} {userSubject : String} {now : ℕ}
    {generated : GeneratedMembership} {membership : OrganizationMembership}
    (h : acceptInvitation tokenDigest userSubject now generated s = (.ok membership, s')) :
    ∃ organizationId, invitedMembership generated userSubject organizationId now = .ok membership ∧
      Sendable membership.userSubject ∧ Sendable membership.organizationId ∧
      ∃ hadmits : s.memberships.Admits membership.row,
        s'.memberships = s.memberships.insert membership.row hadmits := by
  unfold acceptInvitation Action.mapError at h
  rcases hrun : Action.transaction (do
    let invitation ← eligibleInvitation tokenDigest userSubject now
    let membership ← validated
      (invitedMembership generated userSubject invitation.organizationId now)
    send [membership.membershipId, membership.userSubject, membership.organizationId]
    insertMembership membership.row
    send [invitation.invitationId]
    setConsumed invitation.invitationId now
    pure membership : PlatformAction lower OrganizationMembership) s with ⟨result, t⟩
  rw [hrun] at h
  cases result with
  | error e => cases h
  | ok a =>
      cases h
      obtain ⟨invitation, t, heligible, hrest⟩ :=
        Action.bind_eq_ok_iff.1 (Action.transaction_eq_ok_iff.1 hrun)
      obtain rfl := readOnly_eligibleInvitation.state_eq heligible
      obtain ⟨membership', hmembership, hrest⟩ := validated_bind_eq_ok_iff.1 hrest
      obtain ⟨hsend, hrest⟩ := send_bind_eq_ok_iff.1 hrest
      obtain ⟨hadmits, -, hrest⟩ := insertInto_bind_eq_ok_iff.1 hrest
      obtain ⟨-, hrest⟩ := send_bind_eq_ok_iff.1 hrest
      simp only [setConsumed, Action.modify_bind_apply, Action.pure_apply] at hrest
      cases hrest
      exact ⟨_, hmembership, hsend _ (by simp), hsend _ (by simp), hadmits, rfl⟩

/-- **What a revocation does**: it revokes the active membership with the identifier. -/
theorem revokeActiveMembership_eq_ok_iff {membershipId : String} :
    revokeActiveMembership membershipId s = (.ok (), s') ↔
      Sendable membershipId ∧ (∃ row ∈ s.memberships.rows, row.IsActive membershipId) ∧
        s' = { s with
          memberships := s.memberships.giveUp (.revokeIf membershipId)
            (MembershipRow.keys_revokeIf membershipId) } := by
  unfold revokeActiveMembership
  rw [Action.transaction_eq_ok_iff, send_bind_eq_ok_iff, Action.read_bind_apply,
    Action.modify_bind_apply]
  have hguard : ∀ {t : PlatformDatabase lower} {rows : List MembershipRow},
      (Action.guard (rows ≠ []) membershipNotActive : PlatformAction lower Unit) t = (.ok (), s') ↔
        rows ≠ [] ∧ s' = t := by
    intro t rows
    unfold Action.guard
    split
    · rename_i hne
      constructor
      · intro heq
        cases heq
        exact ⟨hne, rfl⟩
      · rintro ⟨-, rfl⟩
        rfl
    · rename_i hnil
      exact iff_of_false (fun heq => by cases heq) fun heq => hnil heq.1
  rw [hguard, List.forall_mem_singleton]
  refine and_congr_right fun _ => and_congr_left fun _ => ?_
  constructor
  · intro hne
    obtain ⟨row, hrow⟩ := List.exists_mem_of_ne_nil _ hne
    obtain ⟨hmem, hactive⟩ := List.mem_filter.1 hrow
    exact ⟨row, hmem, of_decide_eq_true hactive⟩
  · rintro ⟨row, hmem, hactive⟩
    exact List.ne_nil_of_mem (List.mem_filter.2 ⟨hmem, decide_eq_true hactive⟩)

end

/-! ### The memberships of a run -/

/-- The row can be read as a membership, and asked for. -/
structure MembershipRow.Readable (row : MembershipRow) : Prop where
  membershipId : 8 ≤ row.membershipId.length
  userSubject : row.userSubject ≠ ""
  organizationId : row.organizationId ≠ ""
  roleIds : row.roleIds = []
  sendable : ∀ text ∈ [row.userSubject, row.organizationId], Sendable text

/-- A row that can be read is read. -/
theorem MembershipRow.Readable.read {row : MembershipRow} (h : row.Readable) :
    ∃ membership, readMembership row = .ok membership ∧ membership.userSubject = row.userSubject ∧
      membership.organizationId = row.organizationId ∧ membership.state = row.state := by
  refine ⟨⟨row.membershipId, row.userSubject, row.organizationId, row.source, [], row.state,
    row.version, row.createdAt, h.membershipId, h.userSubject, h.organizationId, row.version_pos⟩,
    ?_, rfl, rfl, rfl⟩
  unfold readMembership
  rw [h.roleIds]
  refine bind_eq_ok_iff.2 ⟨[], rfl, ?_⟩
  rw [dif_pos h.membershipId, dif_pos h.userSubject, dif_pos h.organizationId]

section
variable {lower : String → String} {case : CaseMapping} {codec : IdnaCodec}
  {sha256 : String → HexDigest} {start : PlatformDatabase lower}
  {operations : List TenantOperation} {operation : TenantOperation}
  {userSubject organizationId : String}

theorem tablesAfter_concat : tablesAfter case codec sha256 start (operations ++ [operation]) =
    operation.after case codec sha256 (tablesAfter case codec sha256 start operations) := by
  unfold tablesAfter
  rw [List.foldl_append]
  rfl

theorem AcceptedIn.concat (h : AcceptedIn case codec sha256 start operations userSubject
    organizationId) :
    AcceptedIn case codec sha256 start (operations ++ [operation]) userSubject organizationId := by
  obtain ⟨before, tokenDigest, now, generated, rest, membership, rfl, hrun, hid⟩ := h
  exact ⟨before, tokenDigest, now, generated, rest ++ [operation], membership, by simp, hrun, hid⟩

theorem RevokedIn.concat (h : RevokedIn case codec sha256 start operations userSubject
    organizationId) :
    RevokedIn case codec sha256 start (operations ++ [operation]) userSubject organizationId := by
  obtain ⟨before, membershipId, rest, rfl, hrow⟩ := h
  exact ⟨before, membershipId, rest ++ [operation], by simp, hrow⟩

/-- Who has accepted an invitation after one operation more. -/
theorem acceptedIn_concat_cases (h : AcceptedIn case codec sha256 start (operations ++ [operation])
    userSubject organizationId) :
    AcceptedIn case codec sha256 start operations userSubject organizationId ∨
      ∃ tokenDigest now generated membership,
        operation = .acceptInvitation tokenDigest userSubject now generated ∧
        (acceptInvitation tokenDigest userSubject now generated
          (tablesAfter case codec sha256 start operations)).1 = .ok membership ∧
        membership.organizationId = organizationId := by
  obtain ⟨before, tokenDigest, now, generated, rest, membership, heq, hrun, hid⟩ := h
  rcases List.eq_nil_or_concat rest with rfl | ⟨rest', last, rfl⟩
  · obtain ⟨rfl, hlast⟩ := List.append_inj' heq rfl
    exact Or.inr ⟨tokenDigest, now, generated, membership, (List.cons.inj hlast).1, hrun, hid⟩
  · have hassoc : operations ++ [operation] =
        (before ++ .acceptInvitation tokenDigest userSubject now generated :: rest') ++ [last] := by
      rw [heq]
      simp
    obtain ⟨rfl, -⟩ := List.append_inj' hassoc rfl
    exact Or.inl ⟨before, tokenDigest, now, generated, rest', membership, rfl, hrun, hid⟩

variable (case codec sha256 start operations) in
/-- **What the memberships say of the operations**: each comes from an invitation that was accepted,
and is active unless it was revoked; and whoever has accepted one has a membership. -/
structure MembershipsOf (memberships : KeyedTable MembershipRow.keys) : Prop where
  readable : ∀ row ∈ memberships.rows, row.Readable
  accepted : ∀ row ∈ memberships.rows,
    AcceptedIn case codec sha256 start operations row.userSubject row.organizationId
  revoked : ∀ row ∈ memberships.rows, row.state ≠ .active →
    RevokedIn case codec sha256 start operations row.userSubject row.organizationId
  stored : ∀ userSubject organizationId,
    AcceptedIn case codec sha256 start operations userSubject organizationId →
      ∃ row ∈ memberships.rows, row.userSubject = userSubject ∧ row.organizationId = organizationId

/-- An operation that keeps the memberships, and accepts no invitation. -/
theorem MembershipsOf.of_keeps {memberships : KeyedTable MembershipRow.keys}
    (h : MembershipsOf case codec sha256 start operations memberships)
    (hnot : ∀ tokenDigest userSubject now generated,
      operation = .acceptInvitation tokenDigest userSubject now generated →
        ∀ membership, (acceptInvitation tokenDigest userSubject now generated
          (tablesAfter case codec sha256 start operations)).1 ≠ .ok membership) :
    MembershipsOf case codec sha256 start (operations ++ [operation]) memberships := by
  refine ⟨h.readable, fun row hrow => (h.accepted row hrow).concat,
    fun row hrow hstate => (h.revoked row hrow hstate).concat, ?_⟩
  intro userSubject organizationId haccepted
  rcases acceptedIn_concat_cases haccepted with hbefore | ⟨_, _, _, membership, heq, hrun, -⟩
  · exact h.stored userSubject organizationId hbefore
  · exact absurd hrun (hnot _ _ _ _ heq membership)

/-- The row of a membership that was just accepted. -/
theorem row_of_invitedMembership {generated : GeneratedMembership} {createdAt : ℕ}
    {membership : OrganizationMembership}
    (h : invitedMembership generated userSubject organizationId createdAt = .ok membership)
    (huser : Sendable membership.userSubject) (hid : Sendable membership.organizationId) :
    membership.row.Readable ∧ membership.userSubject = userSubject ∧ membership.state = .active := by
  have hsend : ∀ text ∈ [membership.userSubject, membership.organizationId], Sendable text := by
    simp [huser, hid]
  unfold invitedMembership at h
  split at h
  · split at h
    · cases h
      exact ⟨⟨generated.membershipId_length, by assumption, by assumption, rfl, hsend⟩, rfl, rfl⟩
    · cases h
  · cases h

/-- An acceptance that is new. -/
theorem MembershipsOf.accept {s s' : PlatformDatabase lower} {tokenDigest : HexDigest} {now : ℕ}
    {generated : GeneratedMembership} {membership : OrganizationMembership}
    (hs : s = tablesAfter case codec sha256 start operations)
    (h : MembershipsOf case codec sha256 start operations s.memberships)
    (hrun : acceptInvitation tokenDigest userSubject now generated s = (.ok membership, s')) :
    MembershipsOf case codec sha256 start
      (operations ++ [.acceptInvitation tokenDigest userSubject now generated]) s'.memberships := by
  obtain ⟨id, hinvited, huser, hid, hadmits, hmemberships⟩ := memberships_acceptInvitation hrun
  obtain ⟨hreadable, hsame, hactive⟩ := row_of_invitedMembership hinvited huser hid
  have hresult : (acceptInvitation tokenDigest userSubject now generated
      (tablesAfter case codec sha256 start operations)).1 = .ok membership := by
    rw [← hs, hrun]
  have hnew : AcceptedIn case codec sha256 start
      (operations ++ [.acceptInvitation tokenDigest userSubject now generated]) userSubject
      membership.organizationId :=
    ⟨operations, tokenDigest, now, generated, [], membership, rfl, hresult, rfl⟩
  rw [hmemberships]
  refine ⟨?_, ?_, ?_, ?_⟩
  · intro row hrow
    rcases KeyedTable.mem_rows_insert.1 hrow with hold | rfl
    · exact h.readable row hold
    · exact hreadable
  · intro row hrow
    rcases KeyedTable.mem_rows_insert.1 hrow with hold | rfl
    · exact (h.accepted row hold).concat
    · rw [show membership.row.userSubject = userSubject from hsame]
      exact hnew
  · intro row hrow hstate
    rcases KeyedTable.mem_rows_insert.1 hrow with hold | rfl
    · exact (h.revoked row hold hstate).concat
    · exact absurd hactive hstate
  · intro user organization haccepted
    rcases acceptedIn_concat_cases haccepted with hbefore | ⟨_, _, _, membership', heq, hrun', hid'⟩
    · obtain ⟨row, hrow, hrest⟩ := h.stored user organization hbefore
      exact ⟨row, KeyedTable.mem_rows_insert.2 (Or.inl hrow), hrest⟩
    · cases heq
      rw [hresult] at hrun'
      cases hrun'
      exact ⟨membership.row, KeyedTable.mem_rows_insert.2 (Or.inr rfl), hsame, hid'⟩

/-- A revocation that is new. -/
theorem MembershipsOf.revoke {s s' : PlatformDatabase lower} {membershipId : String}
    (hs : s = tablesAfter case codec sha256 start operations)
    (h : MembershipsOf case codec sha256 start operations s.memberships)
    (hrun : revokeActiveMembership membershipId s = (.ok (), s')) :
    MembershipsOf case codec sha256 start (operations ++ [.revokeActiveMembership membershipId])
      s'.memberships := by
  have hresult : (revokeActiveMembership membershipId
      (tablesAfter case codec sha256 start operations)).1 = .ok () := by
    rw [← hs, hrun]
  obtain ⟨-, -, rfl⟩ := revokeActiveMembership_eq_ok_iff.1 hrun
  have hsame : ∀ row : MembershipRow, (row.revokeIf membershipId).userSubject = row.userSubject ∧
      (row.revokeIf membershipId).organizationId = row.organizationId := by
    intro row
    unfold MembershipRow.revokeIf
    split <;> exact ⟨rfl, rfl⟩
  refine ⟨?_, ?_, ?_, ?_⟩
  · intro row' hrow'
    obtain ⟨row, hrow, rfl⟩ := List.mem_map.1 hrow'
    have hreadable := h.readable row hrow
    unfold MembershipRow.revokeIf
    split
    · exact ⟨hreadable.membershipId, hreadable.userSubject, hreadable.organizationId,
        hreadable.roleIds, hreadable.sendable⟩
    · exact hreadable
  · intro row' hrow'
    obtain ⟨row, hrow, rfl⟩ := List.mem_map.1 hrow'
    rw [(hsame row).1, (hsame row).2]
    exact (h.accepted row hrow).concat
  · intro row' hrow' hstate
    obtain ⟨row, hrow, rfl⟩ := List.mem_map.1 hrow'
    rw [(hsame row).1, (hsame row).2]
    by_cases hactive : row.IsActive membershipId
    · refine ⟨operations, membershipId, [], rfl, hresult, row, ?_, hactive, rfl, rfl⟩
      rw [← hs]
      exact hrow
    · unfold MembershipRow.revokeIf at hstate
      rw [if_neg hactive] at hstate
      exact (h.revoked row hrow hstate).concat
  · intro user organization haccepted
    rcases acceptedIn_concat_cases haccepted with hbefore | ⟨_, _, _, _, heq, -, -⟩
    · obtain ⟨row, hrow, huser, hid⟩ := h.stored user organization hbefore
      exact ⟨row.revokeIf membershipId, List.mem_map.2 ⟨row, hrow, rfl⟩,
        (hsame row).1.trans huser, (hsame row).2.trans hid⟩
    · cases heq

/-- **What one operation keeps.** -/
theorem MembershipsOf.concat (h : MembershipsOf case codec sha256 start operations
    (tablesAfter case codec sha256 start operations).memberships) :
    MembershipsOf case codec sha256 start (operations ++ [operation])
      (tablesAfter case codec sha256 start (operations ++ [operation])).memberships := by
  rw [tablesAfter_concat]
  set s := tablesAfter case codec sha256 start operations with hs
  -- the operations on other tables
  have hkeeps : ∀ {s' : PlatformDatabase lower}, s'.memberships = s.memberships →
      (∀ tokenDigest userSubject now generated,
        operation ≠ .acceptInvitation tokenDigest userSubject now generated) →
      MembershipsOf case codec sha256 start (operations ++ [operation]) s'.memberships := by
    intro s' hsame hnot
    rw [hsame]
    exact h.of_keeps fun _ _ _ _ heq => absurd heq (hnot _ _ _ _)
  cases operation with
  | register account contact => exact hkeeps rfl (by simp)
  | savePending request => exact hkeeps (keeps_savePending s) (by simp)
  | recordIdentityProof request proof => exact hkeeps (keeps_recordIdentityProof s) (by simp)
  | activate organization => exact hkeeps (keeps_activateOrganization s) (by simp)
  | createInvitation invitation =>
      simp only [TenantOperation.after]
      exact hkeeps (keeps_createInvitation s) (by simp)
  | acceptInvitation tokenDigest userSubject now generated =>
      change MembershipsOf _ _ _ _ _
        (acceptInvitation tokenDigest userSubject now generated s).2.memberships
      rcases hrun : acceptInvitation tokenDigest userSubject now generated s with ⟨result, s'⟩
      cases result with
      | error fault =>
          rw [acceptInvitation_error hrun]
          refine h.of_keeps ?_
          intro _ _ _ _ heq membership hok
          cases heq
          rw [← hs, hrun] at hok
          cases hok
      | ok membership => exact h.accept hs hrun
  | revokeActiveMembership membershipId =>
      change MembershipsOf _ _ _ _ _ (revokeActiveMembership membershipId s).2.memberships
      rcases hrun : revokeActiveMembership membershipId s with ⟨result, s'⟩
      cases result with
      | error fault =>
          rw [show s' = s from Action.state_eq_of_error hrun]
          exact h.of_keeps fun _ _ _ _ heq => by cases heq
      | ok u => exact h.revoke hs hrun

/-- **What every run keeps.** -/
theorem membershipsOf_tablesAfter (hstart : start.memberships.rows = []) :
    MembershipsOf case codec sha256 start operations
      (tablesAfter case codec sha256 start operations).memberships := by
  induction operations using List.reverseRecOn with
  | nil =>
      have hnone : ∀ row ∈ start.memberships.rows, False := by simp [hstart]
      refine ⟨fun row hrow => (hnone row hrow).elim, fun row hrow => (hnone row hrow).elim,
        fun row hrow => (hnone row hrow).elim, ?_⟩
      rintro _ _ ⟨before, _, _, _, rest, _, heq, -, -⟩
      exact absurd heq.symm (by simp)
  | append_singleton operations operation ih => exact ih.concat

end

/-- **The first administrators are members exactly if each of them has accepted an invitation.** -/
theorem initial_admins_are_members_iff {lower : String → String} (case : CaseMapping)
    (codec : IdnaCodec) (sha256 : String → HexDigest) (accounts : List UserAccount)
    (contacts : List VerifiedEmailContact) (operations : List TenantOperation) :
    AdminsAreMembers case codec sha256 (usersOnly accounts contacts : PlatformDatabase lower)
        operations ↔
      ∀ admin ∈ (tablesAfter case codec sha256 (usersOnly accounts contacts : PlatformDatabase lower)
          operations).admins.rows,
        AcceptedIn case codec sha256 (usersOnly accounts contacts : PlatformDatabase lower) operations
          admin.userSubject admin.organizationId := by
  unfold AdminsAreMembers
  set start : PlatformDatabase lower := usersOnly accounts contacts
  have hrun : ∀ before, MembershipsOf case codec sha256 start before
      (tablesAfter case codec sha256 start before).memberships :=
    fun before => membershipsOf_tablesAfter rfl
  refine forall₂_congr fun admin hadmin => ?_
  constructor
  · rintro (⟨before, membershipId, rest, heq, -, row, hrow, -, huser, hid⟩ | ⟨membership, hget, -⟩)
    · obtain ⟨before', tokenDigest, now, generated, rest', membership, hbefore, hok, horganization⟩ :=
        (hrun before).accepted row hrow
      rw [huser] at hbefore hok
      refine ⟨before', tokenDigest, now, generated,
        rest' ++ .revokeActiveMembership membershipId :: rest, membership, ?_, hok,
        horganization.trans hid⟩
      rw [heq, hbefore]
      simp
    · unfold getActiveMembership at hget
      obtain ⟨-, hread⟩ := send_bind_eq_ok_iff.1 (Action.transaction_eq_ok_iff.1 hget)
      rw [Action.read_bind_apply] at hread
      cases hfound : (tablesAfter case codec sha256 start operations).activeMembership
          admin.userSubject admin.organizationId with
      | none =>
          rw [hfound] at hread
          cases hread
      | some row =>
          obtain ⟨hmem, hkey⟩ := KeyedTable.mem_of_find? hfound
          obtain ⟨huser, hid⟩ : row.userSubject = admin.userSubject ∧
              row.organizationId = admin.organizationId := by
            unfold MembershipRow.keys at hkey
            split at hkey
            · simpa [eq_comm] using hkey
            · simp at hkey
          rw [← huser, ← hid]
          exact (hrun operations).accepted row hmem
  · intro haccepted
    obtain ⟨row, hrow, huser, hid⟩ := (hrun operations).stored _ _ haccepted
    by_cases hstate : row.state = .active
    · obtain ⟨membership, hread, hmember, horganization, hsame⟩ :=
        ((hrun operations).readable row hrow).read
      refine Or.inr ⟨membership, ?_, hmember.trans huser, horganization.trans hid,
        hsame.trans hstate⟩
      have hfound : (tablesAfter case codec sha256 start operations).activeMembership
          admin.userSubject admin.organizationId = some row := by
        refine KeyedTable.find?_eq_some_iff.2 ⟨hrow, ?_⟩
        simp [MembershipRow.keys, hstate, huser, hid]
      have hsend := ((hrun operations).readable row hrow).sendable
      rw [huser, hid] at hsend
      unfold getActiveMembership
      refine Action.transaction_eq_ok_iff.2 (send_bind_eq_ok_iff.2 ⟨hsend, ?_⟩)
      rw [Action.read_bind_apply, hfound]
      exact validated_bind_of_ok hread _
    · rw [← huser, ← hid]
      exact Or.inl ((hrun operations).revoked row hrow hstate)

/-- Alice asks for an organization, and it is activated with her as its first administrator. -/
def aliceOnboarded : List TenantOperation :=
  [.savePending
      { requestId := "orgreq_1"
        organizationId := "org_1"
        organizationName := "Acme"
        applicant := aliceApplicant
        identityBoundary := aliceStart.identityBoundary
        state := .pending
        createdAt := 0
        requestId_length := malloryOrganization.approval.requestId_length
        organizationId_length := malloryOrganization.organizationId_length
        nameFits := aliceStart.nameFits },
    .activate
      { malloryOrganization with
        organizationName := "Acme"
        initialTenantAdmin := aliceApplicant
        nameFits := aliceStart.nameFits }]

/-- The tables after that. -/
def aliceAdministers : PlatformDatabase asciiLower :=
  tablesAfter .asciiOnly .asciiOnly (fun _ => emptyDigest) (usersOnly [aliceAccount] [])
    aliceOnboarded

/-- **Alice administers her organization, and is no member of it.** -/
theorem admin_without_membership :
    aliceAdministers.admins.rows = [⟨"org_1", "user_alice", "platformops", 1⟩] ∧
      (getActiveMembership "user_alice" "org_1" aliceAdministers).1 = .ok none ∧
      ¬ AdminsAreMembers .asciiOnly .asciiOnly (fun _ => emptyDigest)
        (usersOnly [⟨"user_alice", 0, by decide⟩] [] : PlatformDatabase asciiLower)
        aliceOnboarded := by
  have hadmins : aliceAdministers.admins.rows = [⟨"org_1", "user_alice", "platformops", 1⟩] := by
    decide
  have hnone : (getActiveMembership "user_alice" "org_1" aliceAdministers).1 = .ok none := by
    decide
  refine ⟨hadmins, hnone, fun h => ?_⟩
  rcases h ⟨"org_1", "user_alice", "platformops", 1⟩ (hadmins ▸ List.mem_singleton.2 rfl) with
    ⟨before, membershipId, rest, heq, -⟩ | ⟨membership, hget, -⟩
  · have hmem : TenantOperation.revokeActiveMembership membershipId ∈ aliceOnboarded := by
      rw [heq]
      simp
    simp [aliceOnboarded] at hmem
  · have hresult := congrArg Prod.fst hget
    rw [show (getActiveMembership "user_alice" "org_1" (tablesAfter .asciiOnly .asciiOnly
      (fun _ => emptyDigest) (usersOnly [⟨"user_alice", 0, by decide⟩] []) aliceOnboarded)).1 =
        .ok none from hnone] at hresult
    cases hresult

end PlatformOps
