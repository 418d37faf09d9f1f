/-
**Invitations and memberships in the database.**

An invitation is created for an active organization, accepted under a lock on its row and on the row
of the organization, and consumed by the transaction that inserts the membership; a membership is
revoked by one update.  A partial unique index allows one active membership for a user and an
organization.  The transactions run at the level READ COMMITTED, interleaved with each other and with
those that register users and that store organizations and change their states.

Until one of these transactions raises, it has only locked rows, so that it commits what was there.
A statement that violates a constraint aborts the transaction.

Main definitions:

* `TenantRow`, `tenantSchema` — the tables;
* `createInvitationProgram`, `acceptInvitationProgram`, `revokeActiveMembershipProgram`,
  `tenantServer` — the transactions;
* `TenantRow.Evolves`, `TenantCall.Writes` — how rows change, and what the transactions write;
* `Accepted`, `TenantHistory` — what the committed rows say about the transactions.

Main results:

* `tenantHistory_after` — the invariant of the interleavings;
* `acceptance_succeeds` — an acceptance of a valid invitation that runs by itself commits;
* `invitations_safe` — **an invitation makes one member at most, whatever is interleaved**.
-/

import PlatformOps.AccountTransactions
import PlatformOps.OrganizationMembership
import PlatformOps.ProgramRules
import PlatformOps.SoloRuns

set_option relaxedAutoImplicit false
set_option autoImplicit false

namespace PlatformOps

open ReadCommitted

/-! ### The tables -/

/-- A row of one of the tables. -/
inductive TenantRow
  | registration (row : AccountRow)
  | organization (row : OrganizationRow)
  | membership (row : MembershipRow)
  | invitation (row : InvitationRow)
  deriving DecidableEq

/-- The unique keys of the tables. -/
inductive TenantKey
  | registration (key : AccountKey)
  | organization (organizationId : String)
  | membership (key : MembershipKey)
  | invitation (key : InvitationKey)
  deriving DecidableEq

/-- `auth_user_accounts`, `auth_verified_email_contacts`, `organizations`,
`organization_memberships` and `organization_invitations`. -/
def tenantSchema : Schema TenantKey TenantRow where
  keys
    | .registration row => (accountSchema.keys row).map .registration
    | .organization row => [.organization row.organizationId]
    | .membership row => row.keys.map .membership
    | .invitation row =>
        [.invitation (.invitationId row.invitationId), .invitation (.tokenDigest row.tokenDigest)]
  references
    | .registration row => (accountSchema.references row).map .registration
    | .organization _ => []
    | .membership row =>
        [.registration (.subject row.userSubject), .organization row.organizationId]
    | .invitation row => [.organization row.organizationId]
  check _ := true

/-- The invitation of a row. -/
def TenantRow.invitation? : TenantRow → Option InvitationRow
  | .invitation row => some row
  | _ => none

/-- The organization of a row. -/
def TenantRow.organization? : TenantRow → Option OrganizationRow
  | .organization row => some row
  | _ => none

/-- The account or contact of a row. -/
def TenantRow.registration? : TenantRow → Option AccountRow
  | .registration row => some row
  | _ => none

/-- The row is the invitation with this digest. -/
def TenantRow.hasDigest (tokenDigest : HexDigest) (row : TenantRow) : Bool :=
  row.invitation?.any fun invitation => invitation.tokenDigest = tokenDigest

/-- The row is the organization with this id. -/
def TenantRow.isOrganization (organizationId : String) (row : TenantRow) : Bool :=
  row.organization?.any fun organization => organization.organizationId = organizationId

/-- The row is the invitation with this id. -/
def TenantRow.isInvitation (invitationId : String) (row : TenantRow) : Bool :=
  row.invitation?.any fun invitation => invitation.invitationId = invitationId

/-- The row is the active membership with this id. -/
def TenantRow.isActiveMembership (membershipId : String) : TenantRow → Bool
  | .membership row => row.IsActive membershipId
  | _ => false

/-- The row is a contact of the user with this address. -/
def TenantRow.isContact (userSubject canonicalEmail : String) : TenantRow → Bool
  | .registration (.contact contact) =>
      contact.userSubject = userSubject ∧ contact.canonicalEmail = canonicalEmail
  | _ => false

/-- One of the rows is the organization, and it is active. -/
def organizationActive (rows : List TenantRow) (organizationId : String) : Bool :=
  rows.any fun row => row.organization?.any fun organization =>
    organization.organizationId = organizationId ∧ organization.state = .active

/-! ### The transactions -/

/-- The row once the invitation is consumed. -/
def TenantRow.consume (now : ℕ) : TenantRow → TenantRow
  | .invitation row => .invitation { row with consumedAt := some now }
  | row => row

/-- The row once the membership is revoked. -/
def TenantRow.revoke : TenantRow → TenantRow
  | .membership row => .membership row.revoke
  | row => row

/-- The organization in another state. -/
def OrganizationRow.withState (row : OrganizationRow) (state : OrganizationState)
    (activatedAt : ℕ) : OrganizationRow :=
  { row with
    state := state
    activatedAt := some activatedAt
    activeHasTimestamp := by simp }

/-- The row once the organization is in another state. -/
def TenantRow.withState (state : OrganizationState) (activatedAt : ℕ) : TenantRow → TenantRow
  | .organization row => .organization (row.withState state activatedAt)
  | row => row

/-- A call. -/
inductive TenantCall (codec : IdnaCodec)
  | register (call : AccountCall codec)
  | store (row : OrganizationRow)
  | changeState (organizationId : String) (state : OrganizationState) (activatedAt : ℕ)
  | createInvitation (invitation : OrganizationInvitation)
  | acceptInvitation (tokenDigest : HexDigest) (userSubject : String) (now : ℕ)
      (generated : GeneratedMembership)
  | revokeActiveMembership (membershipId : String)

/-- What a transaction returns, or raises: an acceptance returns the membership. -/
abbrev TenantResult := Except CommandFault (Option OrganizationMembership)

/-- The transaction of a call. -/
abbrev TenantProgram := Program ℤ TenantRow TenantResult

variable {codec : IdnaCodec} (hashtext : String → ℤ)

/-- The registration of a user, as `createOrRecoverProgram` does it. -/
def registerProgram (call : AccountCall codec) : TenantProgram :=
  .lock (hashtext call.canonicalEmail) (.select fun rows =>
    match joinedAccount (rows.filterMap (·.registration?)) call.canonicalEmail with
    | some _ => .ret (.ok none)
    | none =>
        if Sendable call.account.subject then
          .insert (.registration (.account call.account))
            (.insert (.registration (.contact call.contact)) (.ret (.ok none)))
        else .ret (.error unsendable))

/-- The transaction of `create_invitation`, for an address that has a canonical form. -/
def insertInvitationProgram (invitation : OrganizationInvitation) (localPart domain : String) :
    TenantProgram :=
  if Sendable invitation.organizationId then
    .select fun rows =>
      if organizationActive rows invitation.organizationId then
        if Sendable invitation.invitationId ∧ Sendable (localPart ++ "@" ++ domain) then
          .insert (.invitation (invitation.row localPart domain)) (.ret (.ok none))
        else .ret (.error unsendable)
      else .ret (.error organizationInactive)
  else .ret (.error unsendable)

/-- `create_invitation`. -/
def createInvitationProgram (codec : IdnaCodec) (invitation : OrganizationInvitation) :
    TenantProgram :=
  match canonicalizeEmail codec invitation.canonicalEmail with
  | .error detail => .ret (.error (.valueError "ValueError" detail))
  | .ok (localPart, domain) => insertInvitationProgram invitation localPart domain

/-- The end of an acceptance: insert the membership and consume the invitation. -/
def consumeProgram (invitation : InvitationRow) (now : ℕ) (membership : OrganizationMembership) :
    TenantProgram :=
  .insert (.membership membership.row)
    (.update (·.isInvitation invitation.invitationId) (·.consume now) fun _ =>
      .ret (.ok (some membership)))

/-- An acceptance once it has locked the invitation and the organization. -/
def recipientProgram (invitation : InvitationRow) (userSubject : String) (now : ℕ)
    (generated : GeneratedMembership) : TenantProgram :=
  if Sendable userSubject then
    .select fun rows =>
      if rows.any (·.isContact userSubject invitation.canonicalEmail) then
        match invitedMembership generated userSubject invitation.organizationId now with
        | .error e => .ret (.error (.validationError e))
        | .ok membership =>
            if Sendable membership.membershipId then consumeProgram invitation now membership
            else .ret (.error unsendable)
      else .ret (.error recipientMismatch)
  else .ret (.error unsendable)

/-- `accept_invitation`: lock the invitation, lock the organization, look for the address of the
user, insert the membership and consume the invitation. -/
def acceptInvitationProgram (tokenDigest : HexDigest) (userSubject : String) (now : ℕ)
    (generated : GeneratedMembership) : TenantProgram :=
  .update (·.hasDigest tokenDigest) id fun found =>
    match (found.findSome? (·.invitation?)).filter (·.Usable now) with
    | none => .ret (.error invitationNotUsable)
    | some invitation =>
        .update (·.isOrganization invitation.organizationId) id fun locked =>
          if organizationActive locked invitation.organizationId then
            recipientProgram invitation userSubject now generated
          else .ret (.error organizationInactive)

/-- `revoke_active_membership`. -/
def revokeActiveMembershipProgram (membershipId : String) : TenantProgram :=
  if Sendable membershipId then
    .update (·.isActiveMembership membershipId) (·.revoke) fun revoked =>
      if revoked = [] then .ret (.error membershipNotActive) else .ret (.ok none)
  else .ret (.error unsendable)

/-- The transaction of a call. -/
def TenantCall.main : TenantCall codec → TenantProgram
  | .register call => registerProgram hashtext call
  | .store row => .insert (.organization row) (.ret (.ok none))
  | .changeState organizationId state activatedAt =>
      .update (·.isOrganization organizationId) (·.withState state activatedAt) fun _ =>
        .ret (.ok none)
  | .createInvitation invitation => createInvitationProgram codec invitation
  | .acceptInvitation tokenDigest userSubject now generated =>
      acceptInvitationProgram tokenDigest userSubject now generated
  | .revokeActiveMembership membershipId => revokeActiveMembershipProgram membershipId

/-- The server with the tables. -/
def tenantServer (codec : IdnaCodec) (hashtext : String → ℤ) :
    Server ℤ TenantKey TenantRow TenantResult (TenantCall codec) :=
  { tenantSchema with main := TenantCall.main hashtext }

/-- The database of the tenants. -/
abbrev TenantDatabase (codec : IdnaCodec) := Database ℤ TenantRow TenantResult (TenantCall codec)

/-! ### How rows evolve -/

/-- What the transactions may make of a row: they give no row a new key, activate no membership, and
release no invitation that is consumed. -/
def TenantRow.Evolves : TenantRow → TenantRow → Prop
  | .registration a, .registration b => a = b
  | .organization a, .organization b => a.organizationId = b.organizationId
  | .membership a, .membership b =>
      a.membershipId = b.membershipId ∧ a.userSubject = b.userSubject ∧
        a.organizationId = b.organizationId ∧ (b.state = .active → a.state = .active)
  | .invitation a, .invitation b =>
      a.invitationId = b.invitationId ∧ a.tokenDigest = b.tokenDigest ∧
        a.organizationId = b.organizationId ∧ (a.consumedAt ≠ none → b.consumedAt ≠ none)
  | _, _ => False

namespace TenantRow

theorem Evolves.refl (a : TenantRow) : Evolves a a := by
  cases a with
  | registration a => exact rfl
  | organization a => exact rfl
  | membership a => exact ⟨rfl, rfl, rfl, fun h => h⟩
  | invitation a => exact ⟨rfl, rfl, rfl, fun h => h⟩

theorem Evolves.trans (a b c : TenantRow) (h : Evolves a b) (h' : Evolves b c) : Evolves a c := by
  cases a with
  | registration a =>
      cases b with
      | registration b =>
          cases c with
          | registration c => exact Eq.trans h h'
          | organization c => exact h'
          | membership c => exact h'
          | invitation c => exact h'
      | organization b => exact h.elim
      | membership b => exact h.elim
      | invitation b => exact h.elim
  | organization a =>
      cases b with
      | registration b => exact h.elim
      | organization b =>
          cases c with
          | registration c => exact h'
          | organization c => exact Eq.trans h h'
          | membership c => exact h'
          | invitation c => exact h'
      | membership b => exact h.elim
      | invitation b => exact h.elim
  | membership a =>
      cases b with
      | registration b => exact h.elim
      | organization b => exact h.elim
      | membership b =>
          cases c with
          | registration c => exact h'
          | organization c => exact h'
          | membership c =>
              obtain ⟨hid, huser, horganization, hactive⟩ := h
              obtain ⟨hid', huser', horganization', hactive'⟩ := h'
              exact ⟨hid.trans hid', huser.trans huser', horganization.trans horganization',
                fun hc => hactive (hactive' hc)⟩
          | invitation c => exact h'
      | invitation b => exact h.elim
  | invitation a =>
      cases b with
      | registration b => exact h.elim
      | organization b => exact h.elim
      | membership b => exact h.elim
      | invitation b =>
          cases c with
          | registration c => exact h'
          | organization c => exact h'
          | membership c => exact h'
          | invitation c =>
              obtain ⟨hid, hdigest, horganization, hconsumed⟩ := h
              obtain ⟨hid', hdigest', horganization', hconsumed'⟩ := h'
              exact ⟨hid.trans hid', hdigest.trans hdigest', horganization.trans horganization',
                fun hc => hconsumed' (hconsumed hc)⟩

theorem Evolves.invitation {a : InvitationRow} {b : TenantRow} (h : Evolves (.invitation a) b) :
    ∃ b', b = .invitation b' ∧ a.invitationId = b'.invitationId ∧ a.tokenDigest = b'.tokenDigest ∧
      a.organizationId = b'.organizationId ∧ (a.consumedAt ≠ none → b'.consumedAt ≠ none) := by
  cases b with
  | registration b => exact h.elim
  | organization b => exact h.elim
  | membership b => exact h.elim
  | invitation b => exact ⟨b, rfl, h⟩

theorem Evolves.membership {a : MembershipRow} {b : TenantRow} (h : Evolves (.membership a) b) :
    ∃ b', b = .membership b' ∧ a.membershipId = b'.membershipId ∧ a.userSubject = b'.userSubject ∧
      a.organizationId = b'.organizationId ∧ (b'.state = .active → a.state = .active) := by
  cases b with
  | registration b => exact h.elim
  | organization b => exact h.elim
  | membership b => exact ⟨b, rfl, h⟩
  | invitation b => exact h.elim

/-- A row that evolves takes no key. -/
theorem Evolves.keys_subset {a b : TenantRow} (h : Evolves a b) :
    tenantSchema.keys b ⊆ tenantSchema.keys a := by
  cases a with
  | registration a =>
      cases b with
      | registration b =>
          obtain rfl : a = b := h
          exact List.Subset.refl _
      | organization b => exact h.elim
      | membership b => exact h.elim
      | invitation b => exact h.elim
  | organization a =>
      cases b with
      | registration b => exact h.elim
      | organization b =>
          have hid : a.organizationId = b.organizationId := h
          simp [tenantSchema, hid]
      | membership b => exact h.elim
      | invitation b => exact h.elim
  | membership a =>
      obtain ⟨b, rfl, hid, huser, horganization, hactive⟩ := h.membership
      refine List.map_subset _ ?_
      unfold MembershipRow.keys
      rw [hid, huser, horganization]
      by_cases hb : b.state = .active
      · rw [if_pos hb, if_pos (hactive hb)]
        exact List.Subset.refl _
      · rw [if_neg hb]
        simp
  | invitation a =>
      obtain ⟨b, rfl, hid, hdigest, -⟩ := h.invitation
      simp [tenantSchema, hid, hdigest]

theorem evolves_consume (now : ℕ) (row : TenantRow) : Evolves row (row.consume now) := by
  cases row with
  | registration row => exact rfl
  | organization row => exact rfl
  | membership row => exact Evolves.refl (.membership row)
  | invitation row =>
      refine ⟨rfl, rfl, rfl, fun _ h => ?_⟩
      cases h

theorem evolves_revoke (row : TenantRow) : Evolves row row.revoke := by
  cases row with
  | registration row => exact rfl
  | organization row => exact rfl
  | membership row =>
      refine ⟨rfl, rfl, rfl, fun h => ?_⟩
      cases h
  | invitation row => exact Evolves.refl (.invitation row)

theorem evolves_withState (state : OrganizationState) (activatedAt : ℕ) (row : TenantRow) :
    Evolves row (row.withState state activatedAt) := by
  cases row with
  | registration row => exact rfl
  | organization row => exact rfl
  | membership row => exact Evolves.refl (.membership row)
  | invitation row => exact Evolves.refl (.invitation row)

end TenantRow

theorem main_tenantServer (call : TenantCall codec) :
    (tenantServer codec hashtext).main call = call.main hashtext := rfl

/-- The transactions take no key for a row that it did not have. -/
theorem givesUpKeys_tenantServer (call : TenantCall codec) :
    (tenantServer codec hashtext).GivesUpKeys ((tenantServer codec hashtext).main call) := by
  rw [main_tenantServer]
  cases call with
  | register call =>
      simp only [TenantCall.main, registerProgram, Server.GivesUpKeys]
      intro rows
      split
      · simp only [Server.GivesUpKeys]
      · split
        · simp only [Server.GivesUpKeys]
        · simp only [Server.GivesUpKeys]
  | store row => simp only [TenantCall.main, Server.GivesUpKeys]
  | changeState organizationId state activatedAt =>
      simp only [TenantCall.main, Server.GivesUpKeys]
      exact ⟨fun row => (TenantRow.evolves_withState state activatedAt row).keys_subset,
        fun rows => trivial⟩
  | createInvitation invitation =>
      simp only [TenantCall.main, createInvitationProgram]
      split
      · simp only [Server.GivesUpKeys]
      · unfold insertInvitationProgram
        split
        · simp only [Server.GivesUpKeys]
          intro rows
          split
          · split
            · simp only [Server.GivesUpKeys]
            · simp only [Server.GivesUpKeys]
          · simp only [Server.GivesUpKeys]
        · simp only [Server.GivesUpKeys]
  | acceptInvitation tokenDigest userSubject now generated =>
      simp only [TenantCall.main, acceptInvitationProgram, Server.GivesUpKeys]
      refine ⟨fun row => List.Subset.refl _, fun found => ?_⟩
      split
      · simp only [Server.GivesUpKeys]
      · simp only [Server.GivesUpKeys]
        refine ⟨fun row => List.Subset.refl _, fun locked => ?_⟩
        split
        · unfold recipientProgram
          split
          · simp only [Server.GivesUpKeys]
            intro rows
            split
            · split
              · simp only [Server.GivesUpKeys]
              · split
                · simp only [consumeProgram, Server.GivesUpKeys]
                  exact ⟨fun row => (TenantRow.evolves_consume now row).keys_subset,
                    fun rows => trivial⟩
                · simp only [Server.GivesUpKeys]
            · simp only [Server.GivesUpKeys]
          · simp only [Server.GivesUpKeys]
        · simp only [Server.GivesUpKeys]
  | revokeActiveMembership membershipId =>
      simp only [TenantCall.main, revokeActiveMembershipProgram]
      split
      · simp only [Server.GivesUpKeys]
        refine ⟨fun row => (TenantRow.evolves_revoke row).keys_subset, fun revoked => ?_⟩
        split
        · simp only [Server.GivesUpKeys]
        · simp only [Server.GivesUpKeys]
      · simp only [Server.GivesUpKeys]

/-! ### What the transactions write -/

/-- A row that a transaction has written when it commits: what was committed of it, and what is
written over it. -/
inductive TenantCall.Wrote : TenantCall codec → TenantResult → Option TenantRow → TenantRow → Prop
  | locked (call : TenantCall codec) (a : TenantResult) (row : TenantRow) : Wrote call a (some row) row
  | account (call : AccountCall codec) :
      Wrote (.register call) (.ok none) none (.registration (.account call.account))
  | contact (call : AccountCall codec) (hsend : Sendable call.account.subject) :
      Wrote (.register call) (.ok none) none (.registration (.contact call.contact))
  | stored (row : OrganizationRow) : Wrote (.store row) (.ok none) none (.organization row)
  | changed (organizationId : String) (state : OrganizationState) (activatedAt : ℕ)
      (row : OrganizationRow) :
      Wrote (.changeState organizationId state activatedAt) (.ok none) (some (.organization row))
        (.organization (row.withState state activatedAt))
  | invited (invitation : OrganizationInvitation) (localPart domain : String) :
      Wrote (.createInvitation invitation) (.ok none) none
        (.invitation (invitation.row localPart domain))
  | joined (tokenDigest : HexDigest) (userSubject : String) (now : ℕ)
      (generated : GeneratedMembership) (membership : OrganizationMembership) :
      Wrote (.acceptInvitation tokenDigest userSubject now generated) (.ok (some membership)) none
        (.membership membership.row)
  | consumed (tokenDigest : HexDigest) (userSubject : String) (now : ℕ)
      (generated : GeneratedMembership) (membership : OrganizationMembership)
      (row : InvitationRow) :
      Wrote (.acceptInvitation tokenDigest userSubject now generated) (.ok (some membership))
        (some (.invitation row)) (.invitation { row with consumedAt := some now })
  | revoked (membershipId : String) (row : MembershipRow) :
      Wrote (.revokeActiveMembership membershipId) (.ok none) (some (.membership row))
        (.membership row.revoke)

/-- An acceptance has inserted the membership and consumed an invitation that was not, and no other
one. -/
structure Acceptance (w : WriteSet TenantRow) (tokenDigest : HexDigest) (now : ℕ)
    (membership : OrganizationMembership) : Prop where
  inserted : ∃ k, w k = some (none, .membership membership.row)
  consumed : ∃ i invitation,
    w i = some (some (.invitation invitation), .invitation { invitation with consumedAt := some now }) ∧
      invitation.tokenDigest = tokenDigest ∧ invitation.consumedAt = none ∧
      ∀ l old new, w l = some (some (.invitation old), .invitation new) →
        old = new ∨ old.invitationId = invitation.invitationId

/-- What a transaction has certainly done when it commits with this result. -/
def TenantCall.Done : TenantCall codec → WriteSet TenantRow → TenantResult → Prop
  | .register call, w, .ok _ => ∀ i old, w i = some (old, .registration (.contact call.contact)) →
      ∃ j, w j = some (none, .registration (.account call.account))
  | .acceptInvitation tokenDigest _ now _, w, .ok result => ∃ membership,
      result = some membership ∧ Acceptance w tokenDigest now membership
  | .revokeActiveMembership membershipId, w, .ok _ => ∃ i row,
      w i = some (some (.membership row), .membership row.revoke) ∧ row.IsActive membershipId
  | _, _, _ => True

/-- What a transaction writes that commits with this result. -/
structure TenantCall.Writes (call : TenantCall codec) (w : WriteSet TenantRow) (a : TenantResult) :
    Prop where
  rows : ∀ i old new, w i = some (old, new) → call.Wrote a old new
  done : call.Done w a

/-- What raises has only locked rows. -/
theorem TenantCall.Wrote.old_eq {call : TenantCall codec} {fault : CommandFault}
    {old : Option TenantRow} {new : TenantRow} (h : call.Wrote (.error fault) old new) :
    old = some new := by
  cases h
  rfl

theorem TenantCall.Writes.onlyLocks {call : TenantCall codec} {w : WriteSet TenantRow}
    {fault : CommandFault} (h : call.Writes w (.error fault)) : w.OnlyLocks :=
  fun i old new hrow => (h.rows i old new hrow).old_eq

/-- What has only locked rows may raise. -/
theorem TenantCall.writes_error (call : TenantCall codec) {w : WriteSet TenantRow}
    (h : w.OnlyLocks) (fault : CommandFault) : call.Writes w (.error fault) := by
  constructor
  · intro i old new hrow
    rw [h i old new hrow]
    exact .locked call _ new
  · cases call with
    | register call => trivial
    | store row => trivial
    | changeState organizationId state activatedAt => trivial
    | createInvitation invitation => trivial
    | acceptInvitation tokenDigest userSubject now generated => trivial
    | revokeActiveMembership membershipId => trivial

variable {hashtext}

/-- What a transaction has to have done, as a condition on its commit. -/
abbrev TenantCall.Commits (call : TenantCall codec) :
    Set TenantRow → WriteSet TenantRow → TenantResult → Prop := fun _ w a => call.Writes w a

theorem ensures_register (call : AccountCall codec) :
    (registerProgram hashtext call).Ensures TenantRow.Evolves (TenantCall.register call).Commits ∅
      .empty := by
  simp only [registerProgram, Program.ensures_lock, Program.ensures_select]
  intro rows found hrows
  split
  · refine ⟨?_, ?_⟩
    · intro i old new hrow
      cases hrow
    · intro i old hrow
      cases hrow
  · split
    · rename_i hsend
      simp only [Program.ensures_ret, Program.ensures_insert]
      intro i hi j hj
      have hij : i ≠ j := by
        rintro rfl
        rw [Function.update_self] at hj
        cases hj
      constructor
      · intro l old new hrow
        by_cases hl : l = j
        · subst hl
          rw [Function.update_self] at hrow
          cases hrow
          exact .contact call hsend
        · rw [Function.update_of_ne hl] at hrow
          by_cases hli : l = i
          · subst hli
            rw [Function.update_self] at hrow
            cases hrow
            exact .account call
          · rw [Function.update_of_ne hli] at hrow
            cases hrow
      · intro l old hrow
        refine ⟨i, ?_⟩
        rw [Function.update_of_ne hij, Function.update_self]
    · exact TenantCall.writes_error _ WriteSet.onlyLocks_empty _

theorem ensures_changeState (organizationId : String) (state : OrganizationState)
    (activatedAt : ℕ) :
    (TenantCall.main hashtext
        (.changeState organizationId state activatedAt : TenantCall codec)).Ensures
      TenantRow.Evolves
      (.changeState organizationId state activatedAt : TenantCall codec).Commits ∅ .empty := by
  simp only [TenantCall.main, Program.ensures_ret, Program.ensures_update]
  refine ⟨fun row _ => TenantRow.evolves_withState state activatedAt row, ?_⟩
  intro w returned hupdated
  refine ⟨?_, trivial⟩
  intro i old new hrow
  obtain ⟨row, hfilter, rfl, rfl⟩ := hupdated.of_empty.1 i old new hrow
  cases row with
  | registration row => cases hfilter
  | organization row => exact .changed organizationId state activatedAt row
  | membership row => cases hfilter
  | invitation row => cases hfilter

theorem ensures_insertInvitation (invitation : OrganizationInvitation)
    (localPart domain : String) :
    (insertInvitationProgram invitation localPart domain).Ensures TenantRow.Evolves
      (.createInvitation invitation : TenantCall codec).Commits ∅ .empty := by
  have hnone : ∀ fault, (.createInvitation invitation : TenantCall codec).Writes .empty
      (.error fault) := TenantCall.writes_error _ WriteSet.onlyLocks_empty
  unfold insertInvitationProgram
  split
  · simp only [Program.ensures_select]
    intro rows found hrows
    split
    · split
      · simp only [Program.ensures_ret, Program.ensures_insert]
        intro i hi
        refine ⟨?_, trivial⟩
        intro l old new hrow
        by_cases hl : l = i
        · subst hl
          rw [Function.update_self] at hrow
          cases hrow
          exact .invited invitation localPart domain
        · rw [Function.update_of_ne hl] at hrow
          cases hrow
      · exact hnone _
    · exact hnone _
  · exact hnone _

theorem ensures_revokeActiveMembership (membershipId : String) :
    (revokeActiveMembershipProgram membershipId).Ensures TenantRow.Evolves
      (.revokeActiveMembership membershipId : TenantCall codec).Commits ∅ .empty := by
  unfold revokeActiveMembershipProgram
  split
  · simp only [Program.ensures_update]
    refine ⟨fun row _ => TenantRow.evolves_revoke row, ?_⟩
    intro w returned hupdated
    obtain ⟨hrows, hreturned⟩ := hupdated.of_empty
    split
    · rename_i hempty
      -- no row has matched, so that none was written
      refine TenantCall.writes_error _ ?_ _
      intro i old new hrow
      obtain ⟨row, hfilter, rfl, rfl⟩ := hrows i old new hrow
      have hmem : row.revoke ∈ returned :=
        (hupdated.returned_iff _).2 ⟨i, some row, row, List.not_mem_nil,
          ⟨hfilter, hrow, Or.inr ⟨rfl, rfl⟩⟩, rfl⟩
      rw [hempty] at hmem
      cases hmem
    · rename_i hsome
      constructor
      · intro i old new hrow
        obtain ⟨row, hfilter, rfl, rfl⟩ := hrows i old new hrow
        cases row with
        | registration row => cases hfilter
        | organization row => cases hfilter
        | membership row => exact .revoked membershipId row
        | invitation row => cases hfilter
      · obtain ⟨row', hrow'⟩ := List.exists_mem_of_ne_nil _ hsome
        obtain ⟨i, row, hfilter, hrow⟩ := hreturned row' hrow'
        cases row with
        | registration row => cases hfilter
        | organization row => cases hfilter
        | membership row => exact ⟨i, row, hrow, of_decide_eq_true hfilter⟩
        | invitation row => cases hfilter
  · exact TenantCall.writes_error _ WriteSet.onlyLocks_empty _

section
variable {tokenDigest : HexDigest} {userSubject : String} {now : ℕ}
  {generated : GeneratedMembership}

/-- The end of an acceptance, over locks: the invitation is one of the rows it has locked. -/
theorem ensures_consume {w : WriteSet TenantRow} {known : Set TenantRow} (hlocks : w.OnlyLocks)
    {i : ℕ} {invitation : InvitationRow}
    (hi : w i = some (some (.invitation invitation), .invitation invitation))
    (hdigest : invitation.tokenDigest = tokenDigest) (hconsumed : invitation.consumedAt = none)
    (membership : OrganizationMembership) :
    (consumeProgram invitation now membership).Ensures TenantRow.Evolves
      (.acceptInvitation tokenDigest userSubject now generated : TenantCall codec).Commits known w := by
  simp only [consumeProgram, Program.ensures_ret, Program.ensures_update, Program.ensures_insert]
  intro k hk
  refine ⟨fun row _ => TenantRow.evolves_consume now row, ?_⟩
  intro w' returned hupdated
  have hik : i ≠ k := by
    rintro rfl
    rw [hk] at hi
    cases hi
  -- what becomes of a row that is locked, of the membership, and of any other row
  have hown : ∀ l old row, l ≠ k → w l = some (old, row) → w' l = some (old,
      if row.isInvitation invitation.invitationId = true then row.consume now else row) := by
    intro l old row hl hrow
    refine hupdated.own l old row List.not_mem_nil ?_
    rw [Function.update_of_ne hl]
    exact hrow
  have hmembership : w' k = some (none, .membership membership.row) := by
    have h := hupdated.own k none (.membership membership.row) List.not_mem_nil
      (Function.update_self ..)
    exact h
  have hcases : ∀ l old new, w' l = some (old, new) →
      l = k ∧ old = none ∧ new = .membership membership.row ∨ old = some new ∨
        ∃ row, old = some (.invitation row) ∧ new = .invitation { row with consumedAt := some now } ∧
          row.invitationId = invitation.invitationId := by
    intro l old new hrow
    have hconsume : ∀ row : TenantRow, row.isInvitation invitation.invitationId = true →
        ∃ inv, row = .invitation inv ∧ row.consume now = .invitation { inv with
          consumedAt := some now } ∧ inv.invitationId = invitation.invitationId := by
      intro row hfilter
      cases row with
      | registration row => cases hfilter
      | organization row => cases hfilter
      | membership row => cases hfilter
      | invitation row => exact ⟨row, rfl, rfl, of_decide_eq_true hfilter⟩
    by_cases hl : l = k
    · subst hl
      rw [hmembership] at hrow
      cases hrow
      exact Or.inl ⟨rfl, rfl, rfl⟩
    · rcases hwas : w l with _ | ⟨old', row⟩
      · rcases hupdated.other l List.not_mem_nil ((Function.update_of_ne hl ..).trans hwas) with
          hnone | ⟨row, hfilter, hnew⟩
        · rw [hrow] at hnone
          cases hnone
        · rw [hrow] at hnew
          cases hnew
          obtain ⟨inv, rfl, heq, hid⟩ := hconsume row hfilter
          exact Or.inr (Or.inr ⟨inv, rfl, heq, hid⟩)
      · rw [hown l old' row hl hwas] at hrow
        cases hrow
        have hlock := hlocks l old row hwas
        subst hlock
        by_cases hfilter : row.isInvitation invitation.invitationId = true
        · rw [if_pos hfilter]
          obtain ⟨inv, rfl, heq, hid⟩ := hconsume row hfilter
          exact Or.inr (Or.inr ⟨inv, rfl, heq, hid⟩)
        · rw [if_neg hfilter]
          exact Or.inr (Or.inl rfl)
  constructor
  · intro l old new hrow
    rcases hcases l old new hrow with ⟨-, rfl, rfl⟩ | rfl | ⟨row, rfl, rfl, -⟩
    · exact .joined ..
    · exact .locked ..
    · exact .consumed ..
  · refine ⟨membership, rfl, ⟨k, hmembership⟩, i, invitation, ?_, hdigest, hconsumed, ?_⟩
    · have h := hown i _ _ hik hi
      have hmatch : (TenantRow.invitation invitation).isInvitation invitation.invitationId = true :=
        decide_eq_true rfl
      rw [if_pos hmatch] at h
      exact h
    · intro l old new hrow
      rcases hcases l _ _ hrow with ⟨-, h, -⟩ | h | ⟨row, hold, -, hid⟩
      · cases h
      · cases h
        exact Or.inl rfl
      · cases hold
        exact Or.inr hid

/-- An acceptance writes nothing before it is sure. -/
theorem ensures_acceptInvitation :
    (acceptInvitationProgram tokenDigest userSubject now generated).Ensures TenantRow.Evolves
      (.acceptInvitation tokenDigest userSubject now generated : TenantCall codec).Commits ∅ .empty := by
  have hraise : ∀ {w : WriteSet TenantRow}, w.OnlyLocks → ∀ fault,
      (.acceptInvitation tokenDigest userSubject now generated : TenantCall codec).Writes w
        (.error fault) := fun h fault => TenantCall.writes_error _ h fault
  simp only [acceptInvitationProgram, Program.ensures_update]
  refine ⟨fun row _ => .refl row, ?_⟩
  intro w found hfound
  obtain ⟨hlocks, -, hreturned⟩ := hfound.locks WriteSet.onlyLocks_empty
  split
  · exact hraise hlocks _
  · rename_i invitation hinvitation
    obtain ⟨hfirst, husable⟩ := Option.filter_eq_some_iff.1 hinvitation
    obtain ⟨row, hrow, hinv⟩ := List.exists_of_findSome?_eq_some hfirst
    obtain ⟨hdigest, i, hi⟩ := hreturned row hrow
    cases row with
    | registration row => cases hinv
    | organization row => cases hinv
    | membership row => cases hinv
    | invitation row =>
        cases hinv
        simp only [Program.ensures_update]
        refine ⟨fun row _ => .refl row, ?_⟩
        intro w' locked hlocked
        obtain ⟨hlocks', hkeep, -⟩ := hlocked.locks hlocks
        split
        · unfold recipientProgram
          split
          · simp only [Program.ensures_select]
            intro rows found' hrows
            split
            · split
              · exact hraise hlocks' _
              · rename_i membership hmembership
                split
                · exact ensures_consume hlocks' (hkeep i _ _ hi) (of_decide_eq_true hdigest)
                    (of_decide_eq_true husable).1 membership
                · exact hraise hlocks' _
            · exact hraise hlocks' _
          · exact hraise hlocks' _
        · exact hraise hlocks' _

end

/-- **What a transaction has written when it commits.** -/
theorem ensures_tenantServer (call : TenantCall codec) :
    ((tenantServer codec hashtext).main call).Ensures TenantRow.Evolves call.Commits ∅ .empty := by
  rw [main_tenantServer]
  cases call with
  | register call =>
      simp only [TenantCall.main]
      exact ensures_register call
  | store row =>
      simp only [TenantCall.main, Program.ensures_ret, Program.ensures_insert]
      intro i hi
      refine ⟨?_, trivial⟩
      intro l old new hrow
      by_cases hl : l = i
      · subst hl
        rw [Function.update_self] at hrow
        cases hrow
        exact .stored row
      · rw [Function.update_of_ne hl] at hrow
        cases hrow
  | changeState organizationId state activatedAt =>
      exact ensures_changeState organizationId state activatedAt
  | createInvitation invitation =>
      simp only [TenantCall.main, createInvitationProgram]
      split
      · exact TenantCall.writes_error _ WriteSet.onlyLocks_empty _
      · exact ensures_insertInvitation invitation _ _
  | acceptInvitation tokenDigest userSubject now generated =>
      simp only [TenantCall.main]
      exact ensures_acceptInvitation
  | revokeActiveMembership membershipId =>
      simp only [TenantCall.main]
      exact ensures_revokeActiveMembership membershipId

/-! ### What the committed rows say about the transactions -/

/-- The transaction has accepted the invitation with this digest. -/
def Accepted (db : TenantDatabase codec) (t : ℕ) (tokenDigest : HexDigest)
    (membership : OrganizationMembership) : Prop :=
  ∃ userSubject now generated snapshot, db.transactions t =
    some ⟨.acceptInvitation tokenDigest userSubject now generated, .committed (.ok (some membership)),
      snapshot⟩

/-- The transaction has created an invitation with this digest that is consumed already. -/
def CreatedConsumed (db : TenantDatabase codec) (t : ℕ) (tokenDigest : HexDigest) : Prop :=
  ∃ invitation a snapshot, db.transactions t =
    some ⟨.createInvitation invitation, .committed a, snapshot⟩ ∧
      invitation.tokenDigest = tokenDigest ∧ invitation.consumedAt ≠ none

/-- The invitation with this digest is there, and consumed. -/
def Consumed (db : TenantDatabase codec) (tokenDigest : HexDigest) : Prop :=
  ∃ i invitation, (db.slots i).committed = some (.invitation invitation) ∧
    invitation.tokenDigest = tokenDigest ∧ invitation.consumedAt ≠ none

/-- The membership in a row comes from the invitation with this digest. -/
def ComesFrom (db : TenantDatabase codec) (k : ℕ) (tokenDigest : HexDigest) : Prop :=
  ∃ row t membership, (db.slots k).committed = some (.membership row) ∧
    Accepted db t tokenDigest membership ∧ membership.membershipId = row.membershipId

/-- What is known of the committed rows and of the transactions that have committed. -/
structure TenantHistory (db : TenantDatabase codec) : Prop where
  consumed : ∀ t tokenDigest membership, Accepted db t tokenDigest membership →
    Consumed db tokenDigest
  once : ∀ t t' tokenDigest membership membership', Accepted db t tokenDigest membership →
    Accepted db t' tokenDigest membership' → t = t'
  member : ∀ k row, (db.slots k).committed = some (.membership row) →
    ∃ t tokenDigest membership, Accepted db t tokenDigest membership ∧
      membership.membershipId = row.membershipId
  used : ∀ i invitation, (db.slots i).committed = some (.invitation invitation) →
    invitation.consumedAt ≠ none → (∃ t, CreatedConsumed db t invitation.tokenDigest) ∨
      ∃ t membership, Accepted db t invitation.tokenDigest membership
  organization : ∀ i invitation, (db.slots i).committed = some (.invitation invitation) →
    invitation.organizationId ≠ ""
  account : ∀ i contact, (db.slots i).committed = some (.registration (.contact contact)) →
    Sendable contact.userSubject ∧ ∃ j account,
      (db.slots j).committed = some (.registration (.account account)) ∧
        account.subject = contact.userSubject

namespace TenantHistory

variable {db db' : TenantDatabase codec} {t : ℕ} {call : TenantCall codec} {a : TenantResult}
  {snapshot : ℕ}

/-- Nothing is committed. -/
theorem same (h : TenantHistory db) (hrows : ∀ i, (db'.slots i).committed = (db.slots i).committed)
    (htransactions : ∀ t call a snapshot,
      db'.transactions t = some ⟨call, .committed a, snapshot⟩ ↔
        db.transactions t = some ⟨call, .committed a, snapshot⟩) : TenantHistory db' := by
  have haccepted : ∀ t tokenDigest membership, Accepted db' t tokenDigest membership ↔
      Accepted db t tokenDigest membership := by
    intro t tokenDigest membership
    unfold Accepted
    simp only [htransactions]
  have hcreated : ∀ t tokenDigest, CreatedConsumed db' t tokenDigest ↔
      CreatedConsumed db t tokenDigest := by
    intro t tokenDigest
    unfold CreatedConsumed
    simp only [htransactions]
  have hconsumed : ∀ tokenDigest, Consumed db' tokenDigest ↔ Consumed db tokenDigest := by
    intro tokenDigest
    unfold Consumed
    simp only [hrows]
  constructor
  · intro t tokenDigest membership
    rw [haccepted, hconsumed]
    exact h.consumed t tokenDigest membership
  · intro t t' tokenDigest membership membership'
    rw [haccepted, haccepted]
    exact h.once t t' tokenDigest membership membership'
  · intro k row
    simp only [hrows, haccepted]
    exact h.member k row
  · intro i invitation
    simp only [hrows, haccepted, hcreated]
    exact h.used i invitation
  · intro i invitation
    simp only [hrows]
    exact h.organization i invitation
  · intro i contact
    simp only [hrows]
    exact h.account i contact

/-- A transaction that has accepted an invitation has done so before, or commits now. -/
theorem accepted_commit_iff {t' : ℕ} {tokenDigest : HexDigest} {membership : OrganizationMembership}
    (here : db.transactions t = some ⟨call, .ready (.ret a), snapshot⟩) :
    Accepted (db.commit t call a snapshot) t' tokenDigest membership ↔
      (t' = t ∧ a = .ok (some membership) ∧ ∃ userSubject now generated,
        call = .acceptInvitation tokenDigest userSubject now generated) ∨
        Accepted db t' tokenDigest membership := by
  unfold Accepted
  by_cases ht : t' = t
  · subst ht
    rw [Database.transactions_commit_self]
    constructor
    · rintro ⟨userSubject, now, generated, snapshot', h⟩
      cases h
      exact Or.inl ⟨rfl, rfl, userSubject, now, generated, rfl⟩
    · rintro (⟨-, rfl, userSubject, now, generated, rfl⟩ | ⟨userSubject, now, generated, snapshot', h⟩)
      · exact ⟨userSubject, now, generated, snapshot, rfl⟩
      · rw [here] at h
        cases h
  · rw [Database.transactions_commit_of_ne _ _ ht]
    constructor
    · exact Or.inr
    · rintro (⟨heq, -⟩ | h)
      · exact absurd heq ht
      · exact h

theorem createdConsumed_commit {t' : ℕ} {tokenDigest : HexDigest}
    (here : db.transactions t = some ⟨call, .ready (.ret a), snapshot⟩)
    (h : CreatedConsumed db t' tokenDigest) :
    CreatedConsumed (db.commit t call a snapshot) t' tokenDigest := by
  obtain ⟨invitation, a', snapshot', h, hrest⟩ := h
  have ht : t' ≠ t := by
    rintro rfl
    rw [here] at h
    cases h
  exact ⟨invitation, a', snapshot', (Database.transactions_commit_of_ne _ _ ht ..).trans h, hrest⟩

/-- An invitation that is consumed stays consumed when a transaction commits. -/
theorem consumed_commit (hassured : Server.Assured TenantRow.Evolves TenantCall.Commits db)
    {tokenDigest : HexDigest} (h : Consumed db tokenDigest) :
    Consumed (db.commit t call a snapshot) tokenDigest := by
  obtain ⟨i, invitation, hrow, hdigest, hconsumed⟩ := h
  obtain ⟨row', hrow', hevolves⟩ :=
    hassured.evolves_commit TenantRow.Evolves.refl t call a snapshot i _ hrow
  obtain ⟨invitation', rfl, -, hdigest', -, hconsumed'⟩ := hevolves.invitation
  exact ⟨i, invitation', hrow', hdigest'.symm.trans hdigest, hconsumed' hconsumed⟩

/-- An invitation that an acceptance has consumed was not consumed before. -/
theorem not_consumed_of_acceptance (hdistinct : (tenantServer codec hashtext).Distinct db)
    {tokenDigest : HexDigest} {now : ℕ} {membership : OrganizationMembership}
    (h : Acceptance (db.writeSet t) tokenDigest now membership) : ¬ Consumed db tokenDigest := by
  rintro ⟨j, other, hj, hdigest', hconsumed⟩
  obtain ⟨i, invitation, hi, hdigest, hnone, -⟩ := h.consumed
  have hold := (Database.writeSet_eq_some_iff.1 hi).2
  have hij := hdistinct.committed i j _ _ hold hj
    ⟨.invitation (.tokenDigest tokenDigest), by simp [tenantServer, tenantSchema, hdigest],
      by simp [tenantServer, tenantSchema, hdigest']⟩
  subst hij
  rw [hold] at hj
  cases hj
  exact hconsumed hnone

/-- What an acceptance has done that is about to commit. -/
theorem acceptance_of_ready (hassured : Server.Assured TenantRow.Evolves TenantCall.Commits db)
    {tokenDigest : HexDigest} {userSubject : String} {now : ℕ} {generated : GeneratedMembership}
    {membership : OrganizationMembership}
    (here : db.transactions t = some ⟨call, .ready (.ret a), snapshot⟩)
    (hcall : call = .acceptInvitation tokenDigest userSubject now generated)
    (ha : a = .ok (some membership)) :
    Acceptance (db.writeSet t) tokenDigest now membership := by
  obtain ⟨seen, -, hcommits⟩ := hassured.about_to_commit here
  have hwrites : call.Writes (db.writeSet t) a := hcommits
  subst hcall ha
  obtain ⟨membership', hsome, hacceptance⟩ := hwrites.done
  cases hsome
  exact hacceptance

/-- **A transaction commits.** -/
theorem commit (h : TenantHistory db)
    (hassured : Server.Assured TenantRow.Evolves TenantCall.Commits db)
    (hdistinct : (tenantServer codec hashtext).Distinct db)
    (here : db.transactions t = some ⟨call, .ready (.ret a), snapshot⟩) :
    TenantHistory (db.commit t call a snapshot) := by
  obtain ⟨seen, -, hcommits⟩ := hassured.about_to_commit here
  have hwrites : call.Writes (db.writeSet t) a := hcommits
  have hacceptance : ∀ {tokenDigest userSubject now generated membership},
      call = .acceptInvitation tokenDigest userSubject now generated → a = .ok (some membership) →
      Acceptance (db.writeSet t) tokenDigest now membership :=
    acceptance_of_ready hassured here
  -- its invitation was not consumed before, so that no other transaction has accepted it
  have hfirst : ∀ {tokenDigest userSubject now generated membership t' membership'},
      call = .acceptInvitation tokenDigest userSubject now generated → a = .ok (some membership) →
      ¬ Accepted db t' tokenDigest membership' := fun hcall ha haccepted =>
    not_consumed_of_acceptance hdistinct (hacceptance hcall ha) (h.consumed _ _ _ haccepted)
  constructor
  · intro t' tokenDigest membership haccepted
    rcases (accepted_commit_iff here).1 haccepted with
      ⟨rfl, ha, userSubject, now, generated, hcall⟩ | hold
    · obtain ⟨i, invitation, hi, hdigest, -⟩ := (hacceptance hcall ha).consumed
      refine ⟨i, _, Database.committed_of_writeSet call a snapshot hi, hdigest, fun hnone => ?_⟩
      cases hnone
    · exact consumed_commit hassured (h.consumed t' tokenDigest membership hold)
  · intro t₁ t₂ tokenDigest membership₁ membership₂ h₁ h₂
    rcases (accepted_commit_iff here).1 h₁ with ⟨ht₁, ha, userSubject, now, generated, hcall⟩ | hold₁
    · rcases (accepted_commit_iff here).1 h₂ with ⟨ht₂, -⟩ | hold₂
      · exact ht₁.trans ht₂.symm
      · exact absurd hold₂ (hfirst hcall ha)
    · rcases (accepted_commit_iff here).1 h₂ with
        ⟨ht₂, ha, userSubject, now, generated, hcall⟩ | hold₂
      · exact absurd hold₁ (hfirst hcall ha)
      · exact h.once t₁ t₂ tokenDigest membership₁ membership₂ hold₁ hold₂
  · intro k row hrow
    have hbefore : ∀ row', (db.slots k).committed = some (.membership row') →
        row'.membershipId = row.membershipId → ∃ t' tokenDigest membership,
          Accepted (db.commit t call a snapshot) t' tokenDigest membership ∧
            membership.membershipId = row.membershipId := by
      intro row' hrow' hid
      obtain ⟨t', tokenDigest, membership, haccepted, hmembership⟩ := h.member k row' hrow'
      exact ⟨t', tokenDigest, membership, (accepted_commit_iff here).2 (Or.inr haccepted),
        hmembership.trans hid⟩
    rcases Database.committed_commit_cases t call a snapshot hrow with ⟨old, hwrite, hold⟩ | hold
    · generalize hnew : TenantRow.membership row = new at hwrite
      cases hwrites.rows k old new hwrite with
      | locked => exact hbefore row (by rw [hold, hnew]) rfl
      | account => cases hnew
      | contact => cases hnew
      | stored => cases hnew
      | changed => cases hnew
      | invited => cases hnew
      | joined tokenDigest userSubject now generated membership =>
          cases hnew
          exact ⟨t, tokenDigest, membership,
            (accepted_commit_iff here).2 (Or.inl ⟨rfl, rfl, userSubject, now, generated, rfl⟩), rfl⟩
      | consumed => cases hnew
      | revoked membershipId row' =>
          cases hnew
          exact hbefore row' hold rfl
    · exact hbefore row hold rfl
  · intro i invitation hrow hconsumed
    have hbefore : ∀ invitation', (db.slots i).committed = some (.invitation invitation') →
        invitation'.consumedAt ≠ none → invitation'.tokenDigest = invitation.tokenDigest →
        (∃ t', CreatedConsumed (db.commit t call a snapshot) t' invitation.tokenDigest) ∨
          ∃ t' membership, Accepted (db.commit t call a snapshot) t' invitation.tokenDigest
            membership := by
      intro invitation' hrow' hconsumed' hdigest
      rw [← hdigest]
      rcases h.used i invitation' hrow' hconsumed' with ⟨t', hcreated⟩ | ⟨t', membership, haccepted⟩
      · exact Or.inl ⟨t', createdConsumed_commit here hcreated⟩
      · exact Or.inr ⟨t', membership, (accepted_commit_iff here).2 (Or.inr haccepted)⟩
    rcases Database.committed_commit_cases t call a snapshot hrow with ⟨old, hwrite, hold⟩ | hold
    · generalize hnew : TenantRow.invitation invitation = new at hwrite
      cases hwrites.rows i old new hwrite with
      | locked => exact hbefore invitation (by rw [hold, hnew]) hconsumed rfl
      | account => cases hnew
      | contact => cases hnew
      | stored => cases hnew
      | changed => cases hnew
      | invited created localPart domain =>
          cases hnew
          exact Or.inl ⟨t, created, _, snapshot, Database.transactions_commit_self .., rfl, hconsumed⟩
      | joined => cases hnew
      | consumed tokenDigest userSubject now generated membership row =>
          cases hnew
          -- the row that is consumed is the one of the invitation that is accepted
          obtain ⟨j, accepted, hj, hdigest, -, hothers⟩ := (hacceptance rfl rfl).consumed
          rcases hothers i row _ hwrite with hsame | hid
          · refine hbefore row hold ?_ rfl
            rw [hsame]
            exact hconsumed
          · have hij := hdistinct.committed i j _ _ hold (Database.writeSet_eq_some_iff.1 hj).2
              ⟨.invitation (.invitationId accepted.invitationId),
                by simp [tenantServer, tenantSchema, hid], by simp [tenantServer, tenantSchema]⟩
            subst hij
            rw [(Database.writeSet_eq_some_iff.1 hj).2] at hold
            cases hold
            refine Or.inr ⟨t, membership, (accepted_commit_iff here).2 (Or.inl ⟨rfl, rfl,
              userSubject, now, generated, ?_⟩)⟩
            rw [hdigest]
      | revoked => cases hnew
    · exact hbefore invitation hold hconsumed rfl
  · intro i invitation hrow
    rcases Database.committed_commit_cases t call a snapshot hrow with ⟨old, hwrite, hold⟩ | hold
    · generalize hnew : TenantRow.invitation invitation = new at hwrite
      cases hwrites.rows i old new hwrite with
      | locked => exact h.organization i invitation (by rw [hold, hnew])
      | account => cases hnew
      | contact => cases hnew
      | stored => cases hnew
      | changed => cases hnew
      | invited created localPart domain =>
          cases hnew
          exact created.organizationId_ne
      | joined => cases hnew
      | consumed tokenDigest userSubject now generated membership row =>
          cases hnew
          exact h.organization i row hold
      | revoked => cases hnew
    · exact h.organization i invitation hold
  · intro i contact hrow
    have hbefore : (db.slots i).committed = some (.registration (.contact contact)) →
        Sendable contact.userSubject ∧ ∃ j account,
          ((db.commit t call a snapshot).slots j).committed =
              some (.registration (.account account)) ∧
            account.subject = contact.userSubject := by
      intro hold
      obtain ⟨hsend, j, account, haccount, hsubject⟩ := h.account i contact hold
      obtain ⟨row', hrow', hevolves⟩ :=
        hassured.evolves_commit TenantRow.Evolves.refl t call a snapshot j _ haccount
      cases row' with
      | registration row' =>
          obtain rfl : AccountRow.account account = row' := hevolves
          exact ⟨hsend, j, account, hrow', hsubject⟩
      | organization row' => exact hevolves.elim
      | membership row' => exact hevolves.elim
      | invitation row' => exact hevolves.elim
    rcases Database.committed_commit_cases t call a snapshot hrow with ⟨old, hwrite, hold⟩ | hold
    · generalize hnew : TenantRow.registration (.contact contact) = new at hwrite
      cases hwrites.rows i old new hwrite with
      | locked => exact hbefore (by rw [hold, hnew])
      | account => cases hnew
      | contact call hsend =>
          cases hnew
          obtain ⟨j, hj⟩ := hwrites.done i _ hwrite
          exact ⟨hsend, j, _, Database.committed_of_writeSet _ _ snapshot hj, rfl⟩
      | stored => cases hnew
      | changed => cases hnew
      | invited => cases hnew
      | joined => cases hnew
      | consumed => cases hnew
      | revoked => cases hnew
    · exact hbefore hold

end TenantHistory

section
variable (hashtext) (steps : List (ReadCommitted.Step (TenantCall codec)))

theorem wellFormed_tenants : ((tenantServer codec hashtext).after steps).WellFormed :=
  Server.wellFormed_after steps

theorem distinct_tenants :
    (tenantServer codec hashtext).Distinct ((tenantServer codec hashtext).after steps) :=
  Server.distinct_after (givesUpKeys_tenantServer hashtext) steps

theorem assured_tenants :
    Server.Assured TenantRow.Evolves TenantCall.Commits
      ((tenantServer codec hashtext).after steps) :=
  Server.assured_after TenantRow.Evolves.refl TenantRow.Evolves.trans ensures_tenantServer steps

/-- **What the committed rows say about the transactions holds over every interleaving.** -/
theorem tenantHistory_after : TenantHistory ((tenantServer codec hashtext).after steps) := by
  induction steps using List.reverseRecOn with
  | nil =>
      constructor
      · rintro t tokenDigest membership ⟨userSubject, now, generated, snapshot, h⟩
        cases h
      · rintro t t' tokenDigest membership membership' ⟨userSubject, now, generated, snapshot, h⟩
        cases h
      · intro k row h
        cases h
      · intro i invitation h
        cases h
      · intro i invitation h
        cases h
      · intro i contact h
        cases h
  | append_singleton steps e ih =>
      rw [Server.after_concat]
      rcases Server.history_effect (wellFormed_tenants hashtext steps)
        ((tenantServer codec hashtext).step_effect _ e) with
        ⟨t, call, a, snapshot, rfl, here, hcommit⟩ | ⟨hrows, htransactions⟩
      · rw [hcommit]
        exact ih.commit (assured_tenants hashtext steps) (distinct_tenants hashtext steps) here
      · exact ih.same hrows htransactions

end

/-! ### Failures, revocations and repetitions -/

/-- How a transaction ends that fails: it is aborted, or what it raises is all that is left of it. -/
inductive TenantFailure : Phase ℤ TenantRow TenantResult → Prop
  | aborted : TenantFailure .aborted
  | raised (fault : CommandFault) : TenantFailure (.committed (.error fault))

section
variable (steps : List (ReadCommitted.Step (TenantCall codec)))

/-- **A transaction that fails leaves every committed row as it is.** -/
theorem committed_of_failure {e : ReadCommitted.Step (TenantCall codec)} {t : ℕ}
    {call : TenantCall codec} {phase : Phase ℤ TenantRow TenantResult} {snapshot : ℕ}
    (hfailed : TenantFailure phase)
    (hnow : ((tenantServer codec hashtext).after (steps ++ [e])).transactions t =
      some ⟨call, phase, snapshot⟩)
    (hbefore : ((tenantServer codec hashtext).after steps).transactions t ≠
      some ⟨call, phase, snapshot⟩) (i : ℕ) :
    (((tenantServer codec hashtext).after (steps ++ [e])).slots i).committed =
      (((tenantServer codec hashtext).after steps).slots i).committed := by
  rw [Server.after_concat] at hnow ⊢
  rcases Server.history_effect (wellFormed_tenants hashtext steps)
      ((tenantServer codec hashtext).step_effect _ e) with
    ⟨t', call', a, snapshot', rfl, here, hcommit⟩ | ⟨hrows, -⟩
  · rw [hcommit] at hnow ⊢
    rcases Database.transactions_commit_cases hnow with ⟨rfl, hset⟩ | ⟨-, hold⟩
    · cases hset
      -- the transaction has raised: it has only locked rows
      cases hfailed with
      | raised fault =>
          obtain ⟨seen, -, hcommits⟩ := (assured_tenants hashtext steps).about_to_commit here
          have hwrites : call.Writes _ (.error fault) := hcommits
          rw [Database.committed_commit]
          rcases hwrite : Database.writeSet _ t i with _ | ⟨old, row⟩
          · rfl
          · have hold := (Database.writeSet_eq_some_iff.1 hwrite).2
            rw [hwrites.onlyLocks i old row hwrite] at hold
            exact hold.symm
    · exact absurd hold hbefore
  · exact hrows i

/-- **A user has at most one active membership in an organization.** -/
theorem one_active_membership {k k' : ℕ} {row row' : MembershipRow}
    (h : (((tenantServer codec hashtext).after steps).slots k).committed = some (.membership row))
    (h' : (((tenantServer codec hashtext).after steps).slots k').committed =
      some (.membership row'))
    (hactive : row.state = .active) (hactive' : row'.state = .active)
    (huser : row.userSubject = row'.userSubject)
    (horganization : row.organizationId = row'.organizationId) : k = k' := by
  refine (distinct_tenants hashtext steps).committed k k' _ _ h h'
    ⟨.membership (.active row.userSubject row.organizationId), ?_, ?_⟩
  · simp [tenantServer, tenantSchema, MembershipRow.keys, hactive]
  · simp [tenantServer, tenantSchema, MembershipRow.keys, hactive', huser, horganization]

/-- **An invitation makes one member at most.** -/
theorem one_membership_of_invitation {tokenDigest : HexDigest} {k k' : ℕ}
    (h : ComesFrom ((tenantServer codec hashtext).after steps) k tokenDigest)
    (h' : ComesFrom ((tenantServer codec hashtext).after steps) k' tokenDigest) : k = k' := by
  obtain ⟨row, t, membership, hrow, haccepted, hid⟩ := h
  obtain ⟨row', t', membership', hrow', haccepted', hid'⟩ := h'
  obtain rfl := (tenantHistory_after hashtext steps).once t t' _ _ _ haccepted haccepted'
  obtain ⟨userSubject, now, generated, snapshot, hnow⟩ := haccepted
  obtain ⟨userSubject', now', generated', snapshot', hnow'⟩ := haccepted'
  rw [hnow] at hnow'
  cases hnow'
  -- the two rows have the identifier of the one membership
  refine (distinct_tenants hashtext steps).committed k k' _ _ hrow hrow'
    ⟨.membership (.membershipId membership.membershipId), ?_, ?_⟩
  · simp [tenantServer, tenantSchema, MembershipRow.keys, hid]
  · simp [tenantServer, tenantSchema, MembershipRow.keys, hid']

/-- An invitation that is consumed stays consumed. -/
theorem consumed_after_append (post : List (ReadCommitted.Step (TenantCall codec)))
    {tokenDigest : HexDigest} (h : Consumed ((tenantServer codec hashtext).after steps) tokenDigest) :
    Consumed ((tenantServer codec hashtext).after (steps ++ post)) tokenDigest := by
  obtain ⟨i, invitation, hrow, hdigest, hconsumed⟩ := h
  obtain ⟨row', hrow', hevolves⟩ := Server.committed_after_append TenantRow.Evolves.refl
    TenantRow.Evolves.trans ensures_tenantServer steps post hrow
  obtain ⟨invitation', rfl, -, hdigest', -, hconsumed'⟩ := hevolves.invitation
  exact ⟨i, invitation', hrow', hdigest'.symm.trans hdigest, hconsumed' hconsumed⟩

/-- **An invitation that is consumed is never accepted again.** -/
theorem accepted_of_consumed (post : List (ReadCommitted.Step (TenantCall codec)))
    {tokenDigest : HexDigest} {t : ℕ} {membership : OrganizationMembership}
    (h : Consumed ((tenantServer codec hashtext).after steps) tokenDigest)
    (haccepted : Accepted ((tenantServer codec hashtext).after (steps ++ post)) t tokenDigest
      membership) :
    Accepted ((tenantServer codec hashtext).after steps) t tokenDigest membership := by
  induction post using List.reverseRecOn with
  | nil => rwa [List.append_nil] at haccepted
  | append_singleton post e ih =>
      refine ih ?_
      rw [← List.append_assoc, Server.after_concat] at haccepted
      rcases Server.history_effect (wellFormed_tenants hashtext (steps ++ post))
          ((tenantServer codec hashtext).step_effect _ e) with
        ⟨t', call, a, snapshot, rfl, here, hcommit⟩ | ⟨-, htransactions⟩
      · rw [hcommit] at haccepted
        rcases (TenantHistory.accepted_commit_iff here).1 haccepted with
          ⟨rfl, ha, userSubject, now, generated, hcall⟩ | hold
        · have hacceptance := TenantHistory.acceptance_of_ready (assured_tenants hashtext (steps ++ post))
            here hcall ha
          exact absurd (consumed_after_append steps post h)
            (TenantHistory.not_consumed_of_acceptance (distinct_tenants hashtext (steps ++ post))
              hacceptance)
        · exact hold
      · obtain ⟨userSubject, now, generated, snapshot, hnow⟩ := haccepted
        exact ⟨userSubject, now, generated, snapshot, (htransactions ..).1 hnow⟩

/-- **A revocation ends the active membership** of the user in the organization. -/
theorem no_active_of_revoked {r snapshot : ℕ} {membershipId : String}
    {result : Option OrganizationMembership}
    (here : ((tenantServer codec hashtext).after steps).transactions r =
      some ⟨.revokeActiveMembership membershipId, .ready (.ret (.ok result)), snapshot⟩) :
    ∃ k row, (((tenantServer codec hashtext).after steps).slots k).committed =
        some (.membership row) ∧ row.IsActive membershipId ∧
      ∀ k' row', (((tenantServer codec hashtext).after (steps ++ [.commit r])).slots k').committed =
          some (.membership row') →
        row'.userSubject = row.userSubject → row'.organizationId = row.organizationId →
        row'.state ≠ .active := by
  obtain ⟨seen, -, hcommits⟩ := (assured_tenants hashtext steps).about_to_commit here
  have hwrites : (.revokeActiveMembership membershipId : TenantCall codec).Writes _ (.ok result) :=
    hcommits
  obtain ⟨k, row, hwrite, hactive⟩ := hwrites.done
  have hk := (Database.writeSet_eq_some_iff.1 hwrite).2
  refine ⟨k, row, hk, hactive, ?_⟩
  intro k' row' hrow' huser horganization hstate
  rw [Server.after_concat, Server.step_commit here] at hrow'
  have hold : (((tenantServer codec hashtext).after steps).slots k').committed =
      some (.membership row') := by
    rcases Database.committed_commit_cases r _ _ snapshot hrow' with ⟨old, hwrite', hold⟩ | hold
    · generalize hnew : TenantRow.membership row' = new at hwrite'
      cases hwrites.rows k' old new hwrite' with
      | locked => exact hold
      | revoked =>
          cases hnew
          cases hstate
    · exact hold
  obtain rfl : k' = k := one_active_membership steps hold hk hstate hactive.2 huser horganization
  rw [Database.committed_of_writeSet _ _ snapshot hwrite] at hrow'
  cases hrow'
  cases hstate

end

/-! ### Acceptances succeed -/

/-- A valid invitation of a user to an organization of which the user is no active member, and which
no other transaction is at work on; the identifier of the membership is new. -/
structure Acceptable (db : TenantDatabase codec) (tokenDigest : HexDigest) (userSubject : String)
    (now : ℕ) (generated : GeneratedMembership) (invitation : InvitationRow) : Prop where
  invited : ∃ i, (db.slots i).committed = some (.invitation invitation) ∧ (db.slots i).pending = none
  digest : invitation.tokenDigest = tokenDigest
  usable : invitation.Usable now
  active : ∃ j organization, (db.slots j).committed = some (.organization organization) ∧
    (db.slots j).pending = none ∧ organization.organizationId = invitation.organizationId ∧
      organization.state = .active
  recipient : ∃ k contact, (db.slots k).committed = some (.registration (.contact contact)) ∧
    contact.userSubject = userSubject ∧ contact.canonicalEmail = invitation.canonicalEmail
  noMember : ∀ l row, Server.Version (db.slots l) (.membership row) →
    row.membershipId ≠ generated.membershipId ∧
      (row.userSubject = userSubject → row.organizationId = invitation.organizationId →
        row.state ≠ .active)
  generatedText : Sendable generated.membershipId

section
variable {steps : List (ReadCommitted.Step (TenantCall codec))} {db db' : TenantDatabase codec}
  {t snapshot : ℕ} {call : TenantCall codec} {tokenDigest : HexDigest} {userSubject : String}
  {now : ℕ} {generated : GeneratedMembership} {invitation : InvitationRow}

/-- A user who is a contact of somebody, and an organization that has an invitation, make a
membership. -/
theorem invitedMembership_eq_ok (generated : GeneratedMembership) (now : ℕ)
    (huser : userSubject ≠ "") {organizationId : String} (horganization : organizationId ≠ "") :
    ∃ membership, invitedMembership generated userSubject organizationId now = .ok membership ∧
      membership.membershipId = generated.membershipId ∧ membership.userSubject = userSubject ∧
      membership.organizationId = organizationId ∧ membership.state = .active := by
  unfold invitedMembership
  rw [dif_pos huser, dif_pos horganization]
  exact ⟨_, rfl, rfl, rfl, rfl, rfl⟩

/-- The rows that a transaction sees, by what it sees of the database it began with. -/
theorem acceptance_locks (hwell : db.WellFormed)
    (hdistinct : (tenantServer codec hashtext).Distinct db)
    (h : Acceptable db tokenDigest userSubject now generated invitation)
    (hfresh : ∀ i row, (db.slots i).pending ≠ some (t, row))
    (here : db.transactions t =
      some ⟨call, .ready (acceptInvitationProgram tokenDigest userSubject now generated), snapshot⟩) :
    ∃ db' snapshot', (tenantServer codec hashtext).RunsTo t db db' ∧ Database.SameView t db db' ∧
      db'.transactions t =
        some ⟨call, .ready (recipientProgram invitation userSubject now generated), snapshot'⟩ := by
  have hcheck : ∀ row, (tenantServer codec hashtext).check row = true := fun row => rfl
  obtain ⟨i, hi, hifree⟩ := h.invited
  obtain ⟨j, organization, hj, hjfree, hid, hactive⟩ := h.active
  have hsize : ∀ {l row}, (db.slots l).committed = some row → l < db.size :=
    hwell.lt_size_of_committed
  have hseeni := Slot.seenBy_of_committed hi (hfresh i)
  have hseenj := Slot.seenBy_of_committed hj (hfresh j)
  have hunlocked : ∀ {l}, (db.slots l).pending = none → ¬ (db.slots l).LockedFor t := by
    rintro l hnone ⟨owner, row, hpending, -⟩
    rw [hnone] at hpending
    cases hpending
  -- the invitation is locked
  obtain ⟨db₁, snapshot₁, hrun₁, hview₁, here₁⟩ := Server.runsTo_lock here (hsize hi)
    (hunlocked hifree) hseeni (by simp [TenantRow.hasDigest, TenantRow.invitation?, h.digest])
    (by
      intro l other hother hdigest
      cases other with
      | registration row => cases hdigest
      | organization row => cases hdigest
      | membership row => cases hdigest
      | invitation row =>
          refine hdistinct.seen_unique hother hseeni
            ⟨.invitation (.tokenDigest tokenDigest), ?_, ?_⟩
          · have hrow : row.tokenDigest = tokenDigest := of_decide_eq_true hdigest
            simp [tenantServer, tenantSchema, hrow]
          · simp [tenantServer, tenantSchema, h.digest]) (hcheck _)
  have hnext : (match ([TenantRow.invitation invitation].findSome? (·.invitation?)).filter
        (·.Usable now) with
      | none => .ret (.error invitationNotUsable)
      | some invitation =>
          .update (·.isOrganization invitation.organizationId) id fun locked =>
            if organizationActive locked invitation.organizationId then
              recipientProgram invitation userSubject now generated
            else .ret (.error organizationInactive) : TenantProgram) =
      .update (·.isOrganization invitation.organizationId) id fun locked =>
        if organizationActive locked invitation.organizationId then
          recipientProgram invitation userSubject now generated
        else .ret (.error organizationInactive) := by
    have hfilter : ([TenantRow.invitation invitation].findSome? (·.invitation?)).filter
        (fun row => decide (row.Usable now)) = some invitation := by
      simp [TenantRow.invitation?, h.usable]
    rw [hfilter]
  rw [hnext] at here₁
  -- the organization is locked
  obtain ⟨db₂, snapshot₂, hrun₂, hview₂, here₂⟩ := Server.runsTo_lock here₁
    (by
      rw [hview₁.size]
      exact hsize hj)
    (fun hlocked => by
      have hsame := hview₁.locked j hlocked
      rw [hsame] at hlocked
      exact hunlocked hjfree hlocked)
    ((hview₁.seen j).trans hseenj)
    (by simp [TenantRow.isOrganization, TenantRow.organization?, hid])
    (by
      intro l other hother horganization
      rw [hview₁.seen] at hother
      cases other with
      | registration row => cases horganization
      | membership row => cases horganization
      | invitation row => cases horganization
      | organization row =>
          refine hdistinct.seen_unique hother hseenj
            ⟨.organization invitation.organizationId, ?_, ?_⟩
          · have hrow : row.organizationId = invitation.organizationId :=
              of_decide_eq_true horganization
            simp [tenantServer, tenantSchema, hrow]
          · simp [tenantServer, tenantSchema, hid]) (hcheck _)
  refine ⟨db₂, snapshot₂, hrun₁.trans hrun₂, hview₁.trans hview₂, ?_⟩
  have hlocked : organizationActive [.organization organization] invitation.organizationId = true := by
    simp [organizationActive, TenantRow.organization?, hid, hactive]
  rw [if_pos hlocked] at here₂
  exact here₂

/-- A row that the transaction sees is a version of the database it began with. -/
theorem version_of_seenBy {l : ℕ} {row : TenantRow} (h : (db.slots l).seenBy t = some row) :
    Server.Version (db.slots l) row := by
  rcases Slot.seenBy_eq_some h with hpending | ⟨hcommitted, -⟩
  · exact Or.inr ⟨t, hpending⟩
  · exact Or.inl hcommitted

/-- A membership of an acceptance shares no key with any row that is there. -/
theorem not_clash_of_noMember
    (h : Acceptable db tokenDigest userSubject now generated invitation)
    {membership : OrganizationMembership} (hid : membership.membershipId = generated.membershipId)
    (huser : membership.userSubject = userSubject)
    (horganization : membership.organizationId = invitation.organizationId) {l : ℕ}
    {row : TenantRow} (hrow : Server.Version (db.slots l) row) :
    ¬ (tenantServer codec hashtext).Clash (.membership membership.row) row := by
  rintro ⟨key, hkey, hkeyrow⟩
  have hown : key = .membership (.membershipId membership.membershipId) ∨
      key = .membership (.active membership.userSubject membership.organizationId) := by
    have hmem : key ∈ membership.row.keys.map TenantKey.membership := hkey
    unfold MembershipRow.keys at hmem
    split at hmem
    · simpa [OrganizationMembership.row] using hmem
    · exact Or.inl (by simpa [OrganizationMembership.row] using hmem)
  cases row with
  | registration row => rcases hown with rfl | rfl <;> simp [tenantServer, tenantSchema] at hkeyrow
  | organization row => rcases hown with rfl | rfl <;> simp [tenantServer, tenantSchema] at hkeyrow
  | invitation row => rcases hown with rfl | rfl <;> simp [tenantServer, tenantSchema] at hkeyrow
  | membership row =>
      obtain ⟨hnew, hnone⟩ := h.noMember l row hrow
      have hmem : key ∈ row.keys.map TenantKey.membership := hkeyrow
      unfold MembershipRow.keys at hmem
      rcases hown with rfl | rfl
      · have hsame : membership.membershipId = row.membershipId := by
          split at hmem
          · simpa using hmem
          · simpa using hmem
        exact hnew (hsame.symm.trans hid)
      · split at hmem
        · rename_i hactive
          have hsame : membership.userSubject = row.userSubject ∧
              membership.organizationId = row.organizationId := by simpa using hmem
          exact hnone (hsame.1.symm.trans huser) (hsame.2.symm.trans horganization) hactive
        · simp at hmem

/-- The contact of the user is found, so that there is a membership to insert. -/
theorem acceptance_selects (hwell : db.WellFormed) (hhistory : TenantHistory db)
    (h : Acceptable db tokenDigest userSubject now generated invitation)
    (hfresh : ∀ i row, (db.slots i).pending ≠ some (t, row)) (hview : Database.SameView t db db')
    (here : db'.transactions t =
      some ⟨call, .ready (recipientProgram invitation userSubject now generated), snapshot⟩) :
    ∃ db'' membership, (tenantServer codec hashtext).RunsTo t db' db'' ∧
      Database.SameView t db db'' ∧ db''.transactions t =
        some ⟨call, .ready (consumeProgram invitation now membership), snapshot⟩ ∧
      membership.membershipId = generated.membershipId ∧ membership.userSubject = userSubject ∧
      membership.organizationId = invitation.organizationId ∧ membership.state = .active ∧
      ∃ account, .registration (.account account) ∈ db''.visible t ∧
        account.subject = userSubject := by
  obtain ⟨i, hi, -⟩ := h.invited
  obtain ⟨k, contact, hk, rfl, hemail⟩ := h.recipient
  obtain ⟨hsend, l, account, hl, hsubject⟩ := hhistory.account k contact hk
  have hvisible : ∀ {l row}, (db.slots l).committed = some row → row ∈ db.visible t := by
    intro l row hrow
    exact Database.mem_visible.2
      ⟨l, hwell.lt_size_of_committed hrow, Slot.seenBy_of_committed hrow (hfresh l)⟩
  have huser : contact.userSubject ≠ "" := by
    intro hempty
    have hlength := account.subject_length
    rw [hsubject, hempty] at hlength
    exact absurd hlength (by decide)
  obtain ⟨membership, hmembership, hid, hmuser, hmorganization, hmactive⟩ :=
    invitedMembership_eq_ok generated now huser (hhistory.organization i invitation hi)
  unfold recipientProgram at here
  rw [if_pos hsend] at here
  have hselect : (tenantServer codec hashtext).RunsTo t db' _ := Server.runsTo_select here
  have hfound : (db'.visible t).any
      (·.isContact contact.userSubject invitation.canonicalEmail) = true := by
    refine List.any_eq_true.2 ⟨_, hview.mem_visible_iff.2 (hvisible hk), ?_⟩
    simp [TenantRow.isContact, hemail]
  have htext : Sendable membership.membershipId := by
    rw [hid]
    exact h.generatedText
  simp only [hfound, if_true, hmembership, if_pos htext] at hselect
  have hview' : Database.SameView t db (db'.setTransaction t
      ⟨call, .ready (consumeProgram invitation now membership), snapshot⟩) :=
    hview.trans (.of_slots rfl rfl)
  exact ⟨_, membership, hselect, hview', Database.transactions_setTransaction_self .., hid, hmuser,
    hmorganization, hmactive, account, hview'.mem_visible_iff.2 (hvisible hl), hsubject⟩

/-- The membership is inserted, the invitation is consumed, and the transaction commits. -/
theorem acceptance_commits (hwell : db.WellFormed)
    (hdistinct : (tenantServer codec hashtext).Distinct db)
    (h : Acceptable db tokenDigest userSubject now generated invitation)
    (hfresh : ∀ i row, (db.slots i).pending ≠ some (t, row)) (hview : Database.SameView t db db')
    {membership : OrganizationMembership}
    (here : db'.transactions t = some ⟨call, .ready (consumeProgram invitation now membership),
      snapshot⟩)
    (hid : membership.membershipId = generated.membershipId)
    (huser : membership.userSubject = userSubject)
    (horganization : membership.organizationId = invitation.organizationId)
    (haccount : ∃ account, .registration (.account account) ∈ db'.visible t ∧
      account.subject = userSubject) :
    ∃ db'' snapshot', (tenantServer codec hashtext).RunsTo t db' db'' ∧
      db''.transactions t = some ⟨call, .committed (.ok (some membership)), snapshot'⟩ := by
  have hcheck : ∀ row, (tenantServer codec hashtext).check row = true := fun row => rfl
  obtain ⟨i, hi, hifree⟩ := h.invited
  obtain ⟨j, organization, hj, -, hjid, -⟩ := h.active
  have hsize : ∀ {l row}, (db.slots l).committed = some row → l < db.size :=
    hwell.lt_size_of_committed
  have hclash : ∀ {l row}, Server.Version (db.slots l) row →
      ¬ (tenantServer codec hashtext).Clash (.membership membership.row) row :=
    fun hrow => not_clash_of_noMember h hid huser horganization hrow
  have hwaits : ¬ (tenantServer codec hashtext).Waits db' t (.membership membership.row) := by
    rintro ⟨l, -, hlocked, hany⟩
    rw [hview.locked l hlocked] at hany
    rcases hany with hany | hany
    · rcases hrow : (db.slots l).committed with _ | row
      · rw [hrow] at hany
        exact hany
      · rw [hrow] at hany
        exact hclash (Or.inl hrow) hany
    · rcases hrow : (db.slots l).pending with _ | ⟨owner, row⟩
      · rw [hrow] at hany
        exact hany
      · rw [hrow] at hany
        exact hclash (Or.inr ⟨owner, hrow⟩) hany
  have haccepts : (tenantServer codec hashtext).Accepts db' t (.membership membership.row) := by
    refine ⟨hcheck _, ?_, ?_⟩
    · rintro key hkey ⟨row, hrow, hkeyrow⟩
      obtain ⟨l, -, hseen⟩ := Database.mem_visible.1 (hview.mem_visible_iff.1 hrow)
      exact hclash (version_of_seenBy hseen) ⟨key, hkey, hkeyrow⟩
    · intro key hkey
      right
      have hreferences : key = .registration (.subject userSubject) ∨
          key = .organization invitation.organizationId := by
        simpa [tenantServer, tenantSchema, OrganizationMembership.row, huser, horganization]
          using hkey
      rcases hreferences with rfl | rfl
      · obtain ⟨account, hvisible, hsubject⟩ := haccount
        refine ⟨_, hvisible, ?_⟩
        simp [tenantServer, tenantSchema, accountSchema, hsubject]
      · refine ⟨.organization organization, hview.mem_visible_iff.2 (Database.mem_visible.2
          ⟨j, hsize hj, Slot.seenBy_of_committed hj (hfresh j)⟩), ?_⟩
        simp [tenantServer, tenantSchema, hjid]
  have hinsert := Server.runsTo_insert here hwaits haccepts
  generalize hafter : (db'.append t (.membership membership.row)).setTransaction t _ = db₁ at hinsert
  have hslots : db₁.slots = (db'.append t (.membership membership.row)).slots := by
    rw [← hafter]
    rfl
  have here₁ : db₁.transactions t = some ⟨call, .ready (.update
      (·.isInvitation invitation.invitationId) (·.consume now) fun _ =>
        .ret (.ok (some membership))), snapshot⟩ := by
    rw [← hafter]
    exact Database.transactions_setTransaction_self ..
  -- the invitation is consumed: the row that is new is no invitation
  have hother : ∀ l, l ≠ db.size → (db₁.slots l).seenBy t = (db.slots l).seenBy t := by
    intro l hl
    rw [← hview.size] at hl
    rw [hslots, Database.slots_append_of_ne _ _ hl, hview.seen]
  have hseen : (db₁.slots i).seenBy t = some (.invitation invitation) := by
    rw [hother i (hsize hi).ne]
    exact Slot.seenBy_of_committed hi (hfresh i)
  have hlt : i < db₁.size := by
    have hold := hsize hi
    rw [← hview.size] at hold
    rw [← hafter]
    exact Nat.lt_succ_of_lt hold
  have hfree : ¬ (db₁.slots i).LockedFor t := by
    rw [hslots, Database.slots_append_of_ne _ _ (by rw [hview.size]; exact (hsize hi).ne)]
    intro hlocked
    have hsame := hview.locked i hlocked
    rw [hsame] at hlocked
    obtain ⟨owner, row, hpending, -⟩ := hlocked
    rw [hifree] at hpending
    cases hpending
  have honly : ∀ l other, (db₁.slots l).seenBy t = some other →
      other.isInvitation invitation.invitationId = true → l = i := by
    intro l other hl hmatch
    by_cases hlsize : l = db.size
    · rw [hslots, hlsize, ← hview.size, Database.slots_append_self,
        Slot.seenBy_of_pending rfl] at hl
      cases hl
      cases hmatch
    · rw [hother l hlsize] at hl
      cases other with
      | registration row => cases hmatch
      | organization row => cases hmatch
      | membership row => cases hmatch
      | invitation row =>
          have hrow : row.invitationId = invitation.invitationId := of_decide_eq_true hmatch
          refine hdistinct.seen_unique hl (Slot.seenBy_of_committed hi (hfresh i))
            ⟨.invitation (.invitationId invitation.invitationId), ?_, ?_⟩
          · simp [tenantServer, tenantSchema, hrow]
          · simp [tenantServer, tenantSchema]
  have hconsume := Server.runsTo_update here₁ hlt hfree hseen (decide_eq_true rfl) honly (hcheck _)
  exact ⟨_, _, (hinsert.trans hconsume).trans (Server.runsTo_commit
    (Database.transactions_setTransaction_self ..)), Database.transactions_commit_self ..⟩

variable (steps) in
/-- **An acceptance of a valid invitation succeeds**: run by itself, it commits, and the user is an
active member. -/
theorem acceptance_succeeds
    (hnone : ((tenantServer codec hashtext).after steps).transactions t = none)
    (h : Acceptable ((tenantServer codec hashtext).after steps) tokenDigest userSubject now generated
      invitation) :
    ∃ post, (∀ e ∈ post, e.Of t) ∧ ∃ membership,
      Accepted ((tenantServer codec hashtext).after (steps ++ post)) t tokenDigest membership ∧
        membership.userSubject = userSubject ∧
        membership.organizationId = invitation.organizationId ∧ membership.state = .active := by
  -- the transaction begins, and no row changes
  generalize hsteps : steps ++ [.begin t (.acceptInvitation tokenDigest userSubject now generated)] =
    begun
  have hafter : (tenantServer codec hashtext).after begun =
      ((tenantServer codec hashtext).after steps).setTransaction t
        ⟨.acceptInvitation tokenDigest userSubject now generated,
          .ready (acceptInvitationProgram tokenDigest userSubject now generated), 0⟩ := by
    rw [← hsteps, Server.after_concat]
    simp only [Server.step, hnone]
    rfl
  have hbegun : Acceptable ((tenantServer codec hashtext).after begun) tokenDigest userSubject now
      generated invitation := by
    rw [hafter]
    exact ⟨h.invited, h.digest, h.usable, h.active, h.recipient, h.noMember, h.generatedText⟩
  have here : ((tenantServer codec hashtext).after begun).transactions t =
      some ⟨.acceptInvitation tokenDigest userSubject now generated,
        .ready (acceptInvitationProgram tokenDigest userSubject now generated), 0⟩ := by
    rw [hafter]
    exact Database.transactions_setTransaction_self ..
  have hfresh : ∀ i row, (((tenantServer codec hashtext).after begun).slots i).pending ≠
      some (t, row) := by
    intro i
    rw [hafter]
    refine Database.writeSet_eq_none_iff.1 ?_
    exact congrFun ((wellFormed_tenants hashtext steps).writeSet_of_fresh hnone) i
  have hwell := wellFormed_tenants hashtext begun
  have hdistinct := distinct_tenants hashtext begun
  -- it runs to its end
  obtain ⟨db₁, snapshot₁, hrun₁, hview₁, here₁⟩ :=
    acceptance_locks hwell hdistinct hbegun hfresh here
  obtain ⟨db₂, membership, hrun₂, hview₂, here₂, hid, huser, horganization, hactive, haccount⟩ :=
    acceptance_selects hwell (tenantHistory_after hashtext begun) hbegun hfresh hview₁ here₁
  obtain ⟨db₃, snapshot₃, hrun₃, here₃⟩ :=
    acceptance_commits hwell hdistinct hbegun hfresh hview₂ here₂ hid huser horganization haccount
  obtain ⟨post, hof, rfl⟩ := ((hrun₁.trans hrun₂).trans hrun₃).after
  refine ⟨.begin t (.acceptInvitation tokenDigest userSubject now generated) :: post, ?_, membership,
    ?_, huser, horganization, hactive⟩
  · intro e he
    rcases List.mem_cons.1 he with rfl | he
    · exact rfl
    · exact hof e he
  · refine ⟨userSubject, now, generated, snapshot₃, ?_⟩
    rw [← hsteps, List.append_assoc] at here₃
    exact here₃

end

/-- **Invitations and memberships are safe whatever is interleaved.**  At every moment of every
interleaving: every membership comes from the acceptance of an invitation, and no two come from one
invitation; a user has one active membership in an organization at most; a transaction that fails
leaves every committed row as it is, and an invitation is consumed only by an acceptance that
succeeds, unless it was created so; an invitation that is consumed is not accepted again; a
revocation leaves no active membership of the user in the organization; and a valid invitation of a
user who has none is accepted. -/
theorem invitations_safe (codec : IdnaCodec) (hashtext : String → ℤ)
    (steps : List (ReadCommitted.Step (TenantCall codec))) :
    let db := (tenantServer codec hashtext).after steps
    (∀ k row, (db.slots k).committed = some (.membership row) →
      ∃ tokenDigest, ComesFrom db k tokenDigest ∧ Consumed db tokenDigest) ∧
    (∀ tokenDigest k k', ComesFrom db k tokenDigest → ComesFrom db k' tokenDigest → k = k') ∧
    (∀ tokenDigest t t' membership membership', Accepted db t tokenDigest membership →
      Accepted db t' tokenDigest membership' → t = t') ∧
    (∀ k k' row row', (db.slots k).committed = some (.membership row) →
      (db.slots k').committed = some (.membership row') → row.state = .active →
      row'.state = .active → row.userSubject = row'.userSubject →
      row.organizationId = row'.organizationId → k = k') ∧
    (∀ e t call phase snapshot, TenantFailure phase →
      ((tenantServer codec hashtext).after (steps ++ [e])).transactions t =
        some ⟨call, phase, snapshot⟩ →
      db.transactions t ≠ some ⟨call, phase, snapshot⟩ →
      ∀ i, (((tenantServer codec hashtext).after (steps ++ [e])).slots i).committed =
        (db.slots i).committed) ∧
    (∀ i invitation, (db.slots i).committed = some (.invitation invitation) →
      invitation.consumedAt ≠ none → (∃ t, CreatedConsumed db t invitation.tokenDigest) ∨
        ∃ t membership, Accepted db t invitation.tokenDigest membership) ∧
    (∀ post tokenDigest t membership, Consumed db tokenDigest →
      Accepted ((tenantServer codec hashtext).after (steps ++ post)) t tokenDigest membership →
      Accepted db t tokenDigest membership) ∧
    (∀ r membershipId result snapshot, db.transactions r =
        some ⟨.revokeActiveMembership membershipId, .ready (.ret (.ok result)), snapshot⟩ →
      ∃ k row, (db.slots k).committed = some (.membership row) ∧ row.IsActive membershipId ∧
        ∀ k' row', (((tenantServer codec hashtext).after (steps ++ [.commit r])).slots
            k').committed = some (.membership row') →
          row'.userSubject = row.userSubject → row'.organizationId = row.organizationId →
          row'.state ≠ .active) ∧
    ∀ t tokenDigest userSubject now generated invitation, db.transactions t = none →
      Acceptable db tokenDigest userSubject now generated invitation →
      ∃ post, (∀ e ∈ post, e.Of t) ∧ ∃ membership,
        Accepted ((tenantServer codec hashtext).after (steps ++ post)) t tokenDigest membership ∧
          membership.userSubject = userSubject ∧
          membership.organizationId = invitation.organizationId ∧ membership.state = .active := by
  intro db
  have hhistory := tenantHistory_after hashtext steps
  refine ⟨?_, ?_, ?_, ?_, ?_, hhistory.used, ?_, ?_, ?_⟩
  · intro k row hrow
    obtain ⟨t, tokenDigest, membership, haccepted, hid⟩ := hhistory.member k row hrow
    exact ⟨tokenDigest, ⟨row, t, membership, hrow, haccepted, hid⟩,
      hhistory.consumed t tokenDigest membership haccepted⟩
  · intro tokenDigest k k' h h'
    exact one_membership_of_invitation steps h h'
  · intro tokenDigest t t' membership membership' h h'
    exact hhistory.once t t' tokenDigest membership membership' h h'
  · intro k k' row row' h h' hactive hactive' huser horganization
    exact one_active_membership steps h h' hactive hactive' huser horganization
  · intro e t call phase snapshot hfailed hnow hbefore i
    exact committed_of_failure steps hfailed hnow hbefore i
  · intro post tokenDigest t membership h haccepted
    exact accepted_of_consumed steps post h haccepted
  · intro r membershipId result snapshot here
    exact no_active_of_revoked steps here
  · intro t tokenDigest userSubject now generated invitation hnone h
    exact acceptance_succeeds steps hnone h

end PlatformOps
