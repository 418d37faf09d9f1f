/-
**Membership by invitation.**

An invitation names an organization and the address of its recipient, and is known by the digest of
a token.  A user who presents the token becomes a member, if the invitation can still be used, the
organization is active and the address is a verified one of the user.  The command looks at the
invitation first, and then accepts it in a transaction that looks again.  A membership is revoked by
its identifier.

Main definitions:

* `OrganizationMembership`, `OrganizationRoleReference`, `OrganizationInvitation` — the records;
* `createInvitation`, `inspectInvitation`, `acceptInvitation`, `getActiveMembership`,
  `revokeActiveMembership` — the repository;
* `organizationMemberOnboardingGraph`, `joinOrganizationHandler` — the graph and the handler.

Main results:

* `readOnly_inspectInvitation` — looking at an invitation changes nothing;
* `acceptInvitation_error` — **an acceptance that fails changes nothing**.
-/

import PlatformOps.OrganizationOnboarding

set_option relaxedAutoImplicit false
set_option autoImplicit false

namespace PlatformOps

/-! ### Records -/

/-- A role of a member. -/
@[ext] structure OrganizationRoleReference where
  roleId : String
  roleId_ne : roleId ≠ ""

instance : DecidableEq OrganizationRoleReference := fun _ _ =>
  decidable_of_iff _ OrganizationRoleReference.ext_iff.symm

/-- A membership. -/
@[ext] structure OrganizationMembership where
  membershipId : String
  userSubject : String
  organizationId : String
  source : OrganizationMembershipSource
  roleRefs : List OrganizationRoleReference
  state : OrganizationMembershipState
  version : ℕ
  createdAt : ℕ
  membershipId_length : 8 ≤ membershipId.length
  userSubject_ne : userSubject ≠ ""
  organizationId_ne : organizationId ≠ ""
  version_pos : 1 ≤ version

instance : DecidableEq OrganizationMembership := fun _ _ =>
  decidable_of_iff _ OrganizationMembership.ext_iff.symm

/-- The identifier of a membership: the digits of a UUID. -/
structure GeneratedMembership where
  membershipHex : String
  membershipHex_length : membershipHex.length = 32

/-- `_membership_id`. -/
def GeneratedMembership.membershipId (generated : GeneratedMembership) : String :=
  "member_" ++ generated.membershipHex

theorem GeneratedMembership.membershipId_length (generated : GeneratedMembership) :
    8 ≤ generated.membershipId.length := by
  unfold membershipId
  rw [String.length_append, generated.membershipHex_length]
  exact Nat.le_add_left_of_le (by decide)

/-- Validate the membership of a recipient of an invitation. -/
def invitedMembership (generated : GeneratedMembership) (userSubject organizationId : String)
    (createdAt : ℕ) : Except ValidationError OrganizationMembership :=
  if huser : userSubject ≠ "" then
    if horganization : organizationId ≠ "" then
      .ok ⟨generated.membershipId, userSubject, organizationId, .invitation, [], .active, 1,
        createdAt, generated.membershipId_length, huser, horganization, Nat.one_pos⟩
    else .error ⟨"OrganizationMembership", "organization_id"⟩
  else .error ⟨"OrganizationMembership", "user_subject"⟩

/-- The row of a membership. -/
def OrganizationMembership.row (membership : OrganizationMembership) : MembershipRow :=
  ⟨membership.membershipId, membership.userSubject, membership.organizationId, membership.source,
    membership.roleRefs.map (·.roleId), membership.state, membership.version, membership.createdAt,
    membership.version_pos⟩

/-- An invitation.  Its address is made canonical again when it is stored. -/
@[ext] structure OrganizationInvitation where
  invitationId : String
  organizationId : String
  canonicalEmail : String
  tokenDigest : HexDigest
  expiresAt : ℕ
  consumedAt : Option ℕ
  invitationId_length : 8 ≤ invitationId.length
  organizationId_ne : organizationId ≠ ""

instance : DecidableEq OrganizationInvitation := fun _ _ =>
  decidable_of_iff _ OrganizationInvitation.ext_iff.symm

/-- The row of an invitation to an address. -/
def OrganizationInvitation.row (invitation : OrganizationInvitation) (localPart domain : String) :
    InvitationRow :=
  ⟨invitation.invitationId, invitation.organizationId, localPart ++ "@" ++ domain,
    invitation.tokenDigest, invitation.expiresAt, invitation.consumedAt⟩

/-- Validate role references. -/
def organizationRoleReferences : List String → Except ValidationError (List OrganizationRoleReference)
  | [] => .ok []
  | roleId :: roleIds =>
      if h : roleId ≠ "" then do
        let roleRefs ← organizationRoleReferences roleIds
        .ok (⟨roleId, h⟩ :: roleRefs)
      else .error ⟨"OrganizationRoleReference", "role_id"⟩

/-- The membership of a row. -/
def readMembership (row : MembershipRow) : Except ValidationError OrganizationMembership := do
  let roleRefs ← organizationRoleReferences row.roleIds
  if hid : 8 ≤ row.membershipId.length then
    if huser : row.userSubject ≠ "" then
      if horganization : row.organizationId ≠ "" then
        .ok ⟨row.membershipId, row.userSubject, row.organizationId, row.source, roleRefs, row.state,
          row.version, row.createdAt, hid, huser, horganization, row.version_pos⟩
      else .error ⟨"OrganizationMembership", "organization_id"⟩
    else .error ⟨"OrganizationMembership", "user_subject"⟩
  else .error ⟨"OrganizationMembership", "membership_id"⟩

/-! ### The repository -/

section
variable {lower : String → String}

/-- `OrganizationInvitationNotUsable`. -/
def invitationNotUsable : CommandFault :=
  .valueError "OrganizationInvitationNotUsable" "invitation is expired, consumed, or unknown"

/-- `OrganizationMembershipOrganizationInactive`. -/
def organizationInactive : CommandFault :=
  .valueError "OrganizationMembershipOrganizationInactive" "organization is not active"

/-- `OrganizationInvitationRecipientMismatch`. -/
def recipientMismatch : CommandFault :=
  .valueError "OrganizationInvitationRecipientMismatch" "invitation recipient does not match user"

/-- `OrganizationMembershipNotActive`. -/
def membershipNotActive : CommandFault :=
  .valueError "OrganizationMembershipNotActive" "membership is not active"

/-- What the repository makes of a violated constraint when it accepts an invitation. -/
def duplicateMembership : CommandFault → CommandFault
  | .databaseError "UniqueViolation" _ =>
      .valueError "DuplicateActiveOrganizationMembership" "active membership already exists"
  | fault => fault

/-- The invitation can still be used. -/
def InvitationRow.Usable (row : InvitationRow) (now : ℕ) : Prop :=
  row.consumedAt = none ∧ now < row.expiresAt

instance (row : InvitationRow) (now : ℕ) : Decidable (row.Usable now) :=
  inferInstanceAs (Decidable (_ ∧ _))

/-- The organization is active. -/
def PlatformDatabase.OrganizationActive (s : PlatformDatabase lower) (organizationId : String) :
    Prop :=
  ∃ row ∈ s.organizations.find? organizationId, row.state = .active

instance (s : PlatformDatabase lower) (organizationId : String) :
    Decidable (s.OrganizationActive organizationId) :=
  inferInstanceAs (Decidable (∃ row ∈ s.organizations.find? organizationId, row.state = .active))

/-- The address is a verified one of the user. -/
def PlatformDatabase.IsRecipient (s : PlatformDatabase lower)
    (userSubject canonicalEmail : String) : Prop :=
  ∃ contact ∈ s.contacts,
    contact.userSubject = userSubject ∧ contact.canonicalEmail = canonicalEmail

instance (s : PlatformDatabase lower) (userSubject canonicalEmail : String) :
    Decidable (s.IsRecipient userSubject canonicalEmail) :=
  inferInstanceAs (Decidable (∃ contact ∈ s.contacts, _ ∧ _))

/-- Insert an invitation. -/
def insertInvitation (row : InvitationRow) : PlatformAction lower Unit :=
  insertInto (·.invitations) (fun t s => { s with invitations := t }) "organization_invitations"
    (fun s => s.organizations.find? row.organizationId ≠ none) row

/-- `create_invitation`. -/
def createInvitation (codec : IdnaCodec) (invitation : OrganizationInvitation) :
    PlatformAction lower Unit := do
  let (localPart, domain) ← .ofExcept
    ((canonicalizeEmail codec invitation.canonicalEmail).mapError (.valueError "ValueError"))
  .transaction do
    send [invitation.organizationId]
    let active ← .read fun s => decide (s.OrganizationActive invitation.organizationId)
    .guard (active = true) organizationInactive
    send [invitation.invitationId, invitation.organizationId, localPart ++ "@" ++ domain]
    insertInvitation (invitation.row localPart domain)

/-- Raise unless the invitation is usable, the organization is active and the user is the
recipient. -/
def eligibleInvitation (tokenDigest : HexDigest) (userSubject : String) (now : ℕ) :
    PlatformAction lower InvitationRow := do
  let found ← .read fun s => s.invitations.find? (.tokenDigest tokenDigest)
  match found.filter fun row => row.Usable now with
  | none => .raise invitationNotUsable
  | some invitation => do
      let active ← .read fun s => decide (s.OrganizationActive invitation.organizationId)
      .guard (active = true) organizationInactive
      send [userSubject, invitation.canonicalEmail]
      let recipient ← .read fun s => decide (s.IsRecipient userSubject invitation.canonicalEmail)
      .guard (recipient = true) recipientMismatch
      pure invitation

/-- `inspect_invitation`. -/
def inspectInvitation (tokenDigest : HexDigest) (userSubject : String) (now : ℕ) :
    PlatformAction lower String :=
  .transaction do
    let invitation ← eligibleInvitation tokenDigest userSubject now
    pure invitation.organizationId

/-- Insert a membership. -/
def insertMembership (row : MembershipRow) : PlatformAction lower Unit :=
  insertInto (·.memberships) (fun t s => { s with memberships := t }) "organization_memberships"
    (fun s => s.organizations.find? row.organizationId ≠ none ∧ s.HasAccount row.userSubject) row

/-- The invitation with this id consumed. -/
def InvitationRow.consumeIf (invitationId : String) (now : ℕ) (row : InvitationRow) :
    InvitationRow :=
  if row.invitationId = invitationId then { row with consumedAt := some now } else row

theorem InvitationRow.keys_consumeIf (invitationId : String) (now : ℕ) (row : InvitationRow) :
    [InvitationKey.invitationId (row.consumeIf invitationId now).invitationId,
        .tokenDigest (row.consumeIf invitationId now).tokenDigest] =
      [.invitationId row.invitationId, .tokenDigest row.tokenDigest] := by
  unfold consumeIf
  split
  · rfl
  · rfl

/-- Consume an invitation. -/
def setConsumed (invitationId : String) (now : ℕ) : PlatformAction lower Unit :=
  .modify fun s =>
    { s with
      invitations := s.invitations.update (.consumeIf invitationId now)
        (InvitationRow.keys_consumeIf invitationId now) }

/-- `accept_invitation`: look at the invitation again, create the membership and consume the
invitation, in one transaction. -/
def acceptInvitation (tokenDigest : HexDigest) (userSubject : String) (now : ℕ)
    (generated : GeneratedMembership) : PlatformAction lower OrganizationMembership :=
  .mapError duplicateMembership (.transaction do
    let invitation ← eligibleInvitation tokenDigest userSubject now
    let membership ← validated
      (invitedMembership generated userSubject invitation.organizationId now)
    send [membership.membershipId, membership.userSubject, membership.organizationId]
    insertMembership membership.row
    send [invitation.invitationId]
    setConsumed invitation.invitationId now
    pure membership)

/-- The active membership of a user in an organization. -/
def PlatformDatabase.activeMembership (s : PlatformDatabase lower)
    (userSubject organizationId : String) : Option MembershipRow :=
  s.memberships.find? (.active userSubject organizationId)

/-- `get_active_membership`. -/
def getActiveMembership (userSubject organizationId : String) :
    PlatformAction lower (Option OrganizationMembership) :=
  .transaction do
    send [userSubject, organizationId]
    let found ← .read fun s => s.activeMembership userSubject organizationId
    match found with
    | none => pure none
    | some row => do
        let membership ← validated (readMembership row)
        pure (some membership)

/-- The membership once it is revoked. -/
def MembershipRow.revoke (row : MembershipRow) : MembershipRow :=
  { row with
    state := .revoked
    version := row.version + 1
    version_pos := Nat.le_add_left 1 row.version }

/-- The membership with this id is active. -/
def MembershipRow.IsActive (membershipId : String) (row : MembershipRow) : Prop :=
  row.membershipId = membershipId ∧ row.state = .active

instance (membershipId : String) (row : MembershipRow) : Decidable (row.IsActive membershipId) :=
  inferInstanceAs (Decidable (_ ∧ _))

/-- The active membership with this id revoked. -/
def MembershipRow.revokeIf (membershipId : String) (row : MembershipRow) : MembershipRow :=
  if row.IsActive membershipId then row.revoke else row

/-- A membership that is revoked gives its user and its organization up. -/
theorem MembershipRow.keys_revokeIf (membershipId : String) (row : MembershipRow) :
    (row.revokeIf membershipId).keys ⊆ row.keys := by
  unfold revokeIf
  split
  · intro k hk
    have hid : k = .membershipId row.membershipId := by simpa [keys, revoke] using hk
    rw [hid]
    exact List.mem_cons_self ..
  · exact List.Subset.refl _

/-- `revoke_active_membership`. -/
def revokeActiveMembership (membershipId : String) : PlatformAction lower Unit :=
  .transaction do
    send [membershipId]
    let found ← .read fun s => s.memberships.rows.filter fun row => row.IsActive membershipId
    .modify fun s =>
      { s with
        memberships := s.memberships.giveUp (.revokeIf membershipId)
          (MembershipRow.keys_revokeIf membershipId) }
    .guard (found ≠ []) membershipNotActive

/-! ### The graph and the handler -/

/-- The graph of a new member: the invitation is looked at, and then accepted. -/
def organizationMemberOnboardingGraph (inspectedAt acceptedAt : ℕ)
    (generated : GeneratedMembership) (userSubject : String) (tokenDigest : HexDigest) :
    PlatformAction lower OrganizationMembership := do
  let _ ← inspectInvitation tokenDigest userSubject inspectedAt
  acceptInvitation tokenDigest userSubject acceptedAt generated

/-- The handler of `/join-org`. -/
def joinOrganizationHandler (invitationHmac : String → HexDigest) (inspectedAt acceptedAt : ℕ)
    (generated : GeneratedMembership) (invocation : CommandInvocation) :
    PlatformAction lower OrganizationMembership :=
  withPrincipal invocation "validated principal is required" fun principal => do
    let acceptance ← validated (organizationInvitationAcceptance invocation.payload)
    organizationMemberOnboardingGraph inspectedAt acceptedAt generated principal.subject
      (invitationHmac acceptance.invitationToken)

/-! ### What an acceptance changes -/

variable {tokenDigest : HexDigest} {userSubject : String} {now : ℕ}

theorem readOnly_eligibleInvitation :
    (eligibleInvitation tokenDigest userSubject now :
      PlatformAction lower InvitationRow).ReadOnly := by
  refine (Action.readOnly_read _).bind fun found => ?_
  cases found.filter fun row => row.Usable now with
  | none => exact Action.readOnly_raise _
  | some invitation =>
      refine (Action.readOnly_read _).bind fun active => ?_
      refine Action.readOnly_guard.bind fun _ => ?_
      refine readOnly_send.bind fun _ => ?_
      refine (Action.readOnly_read _).bind fun recipient => ?_
      exact Action.readOnly_guard.bind fun _ => Action.readOnly_pure _

/-- Looking at an invitation changes nothing. -/
theorem readOnly_inspectInvitation :
    (inspectInvitation tokenDigest userSubject now : PlatformAction lower String).ReadOnly :=
  (readOnly_eligibleInvitation.bind fun _ => Action.readOnly_pure _).transaction

/-- **An acceptance that fails changes nothing**: the invitation can be used again. -/
theorem acceptInvitation_error {generated : GeneratedMembership} {s t : PlatformDatabase lower}
    {fault : CommandFault}
    (h : acceptInvitation tokenDigest userSubject now generated s = (.error fault, t)) : t = s :=
  Action.state_eq_of_mapError h

end

end PlatformOps
