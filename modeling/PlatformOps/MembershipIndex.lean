/-
**The memberships in memory and the index of the active ones.**

The store in memory keeps every membership that is saved under its identifier, and beside them the
identifier of the active membership of a user in an organization.  A save enters an active
membership into this index, and never takes one out: a membership that is saved again as revoked,
or for another organization, leaves its old entry behind, and the user cannot become a member there
again.  So the index tracks the active memberships exactly as long as no active membership is
replaced.

Main definitions:

* `InMemoryOrganizationMembershipStore`, `InMemoryOrganizationMembershipStore.save` — the store;
* `InMemoryOrganizationMembershipStore.TracksActive` — what the index should be, and what is
  accepted then;
* `InMemoryOrganizationMembershipStore.KeepsActive` — a save that replaces no active membership.

Main results:

* `InMemoryOrganizationMembershipStore.Indexed.tracksActive` — what is accepted over an index that
  is right, as under the unique index of the database;
* `InMemoryOrganizationMembershipStore.indexed_or_stale` — **over every run the index is right, or
  has a stale entry for good**;
* `membership_index_tracks_iff` — **the index tracks the active memberships exactly after the runs
  that replace none**;
* `revoked_membership_blocks` — a membership is saved as revoked, and no other one is accepted.
-/

import PlatformOps.KeyIndex
import PlatformOps.OrganizationMembership

set_option relaxedAutoImplicit false
set_option autoImplicit false

namespace PlatformOps

/-! ### The store -/

/-- `InMemoryOrganizationMembershipStore`: the memberships by identifier, and the identifiers of the
active ones by user and organization. -/
structure InMemoryOrganizationMembershipStore where
  memberships : Dict String OrganizationMembership
  activeByUserOrganization : Dict (String × String) String

/-- `DuplicateActiveOrganizationMembership`. -/
def duplicateActiveMembership : CommandFault :=
  .valueError "DuplicateActiveOrganizationMembership" "active membership already exists"

/-- The user and the organization of a membership. -/
def OrganizationMembership.key (membership : OrganizationMembership) : String × String :=
  (membership.userSubject, membership.organizationId)

/-- The key of an active membership. -/
def OrganizationMembership.activeKey (membership : OrganizationMembership) :
    Option (String × String) :=
  if membership.state = .active then some membership.key else none

theorem OrganizationMembership.activeKey_eq_some_iff {membership : OrganizationMembership}
    {k : String × String} :
    membership.activeKey = some k ↔ membership.state = .active ∧ membership.key = k := by
  unfold activeKey
  split
  · rename_i hactive
    simp [hactive]
  · rename_i hinactive
    simp [hinactive]

namespace InMemoryOrganizationMembershipStore

def empty : InMemoryOrganizationMembershipStore := ⟨.empty, .empty⟩

/-- `save`, statement by statement. -/
def save (membership : OrganizationMembership) :
    Action InMemoryOrganizationMembershipStore CommandFault Unit := do
  let taken ← .read fun s => s.activeByUserOrganization.get? membership.key
  .guard (¬ (membership.state = .active ∧ taken ≠ none)) duplicateActiveMembership
  .modify fun s =>
    { s with memberships := s.memberships.set membership.membershipId membership }
  if membership.state = .active then
    .modify fun s =>
      { s with
        activeByUserOrganization :=
          s.activeByUserOrganization.set membership.key membership.membershipId }
  else pure ()

/-- The store after some saves, accepted or refused. -/
def after (saves : List OrganizationMembership) : InMemoryOrganizationMembershipStore :=
  saves.foldl (fun s membership => (save membership s).2) empty

/-- An active membership of the user in the organization is stored. -/
def HasActive (s : InMemoryOrganizationMembershipStore) (userSubject organizationId : String) :
    Prop :=
  ∃ stored ∈ s.memberships.values, stored.state = .active ∧ stored.userSubject = userSubject ∧
    stored.organizationId = organizationId

/-- **The index tracks the active memberships**: it maps a user and an organization exactly to the
identifier of the active membership that is stored; so an active membership is accepted exactly if
there is none, as the unique index over the rows of the memberships admits it. -/
structure TracksActive (s : InMemoryOrganizationMembershipStore) : Prop where
  index : ∀ userSubject organizationId membershipId,
    s.activeByUserOrganization.get? (userSubject, organizationId) = some membershipId ↔
      ∃ stored ∈ s.memberships.values, stored.state = .active ∧
        stored.userSubject = userSubject ∧ stored.organizationId = organizationId ∧
          stored.membershipId = membershipId
  accepts : ∀ membership : OrganizationMembership, membership.state = .active →
    ((save membership s).1 = .ok () ↔
      ¬ s.HasActive membership.userSubject membership.organizationId)
  postgres : ∀ table : KeyedTable MembershipRow.keys,
    (∀ row, row ∈ table.rows ↔ ∃ stored ∈ s.memberships.values, row = stored.row) →
      ∀ membership : OrganizationMembership, membership.state = .active →
        s.memberships.get? membership.membershipId = none →
          ((save membership s).1 = .ok () ↔ table.Admits membership.row)

/-- **The save replaces no active membership**: if one is stored under the identifier, then the save
is one of an active membership whose user and organization have one, which is refused. -/
def KeepsActive (s : InMemoryOrganizationMembershipStore) (membership : OrganizationMembership) :
    Prop :=
  ∀ stored, s.memberships.get? membership.membershipId = some stored → stored.state = .active →
    membership.state = .active ∧ s.HasActive membership.userSubject membership.organizationId

/-! ### What a save does -/

variable {s : InMemoryOrganizationMembershipStore} {membership : OrganizationMembership}

/-- The store with a membership, and its key if it is active. -/
def store (s : InMemoryOrganizationMembershipStore) (membership : OrganizationMembership) :
    InMemoryOrganizationMembershipStore :=
  ⟨s.memberships.set membership.membershipId membership,
    s.activeByUserOrganization.putKey membership.membershipId membership.activeKey⟩

/-- **A save stores the membership**, unless it is active and its key is taken. -/
theorem save_eq (s : InMemoryOrganizationMembershipStore) (membership : OrganizationMembership) :
    save membership s =
      if membership.state = .active ∧ s.activeByUserOrganization.get? membership.key ≠ none then
        (.error duplicateActiveMembership, s)
      else (.ok (), s.store membership) := by
  unfold save
  rw [Action.read_bind_apply, Action.guard_bind_apply]
  by_cases htaken : membership.state = .active ∧
      s.activeByUserOrganization.get? membership.key ≠ none
  · rw [if_neg (not_not.2 htaken), if_pos htaken]
  · rw [if_pos htaken, if_neg htaken, Action.modify_bind_apply]
    unfold store OrganizationMembership.activeKey
    split
    · rfl
    · rfl

theorem save_of_refused (hactive : membership.state = .active)
    (htaken : s.activeByUserOrganization.get? membership.key ≠ none) :
    save membership s = (.error duplicateActiveMembership, s) := by
  rw [save_eq, if_pos ⟨hactive, htaken⟩]

theorem save_of_accepted
    (h : ¬ (membership.state = .active ∧
      s.activeByUserOrganization.get? membership.key ≠ none)) :
    save membership s = (.ok (), s.store membership) := by
  rw [save_eq, if_neg h]

theorem save_isOk_iff (hactive : membership.state = .active) :
    (save membership s).1 = .ok () ↔ s.activeByUserOrganization.get? membership.key = none := by
  by_cases htaken : s.activeByUserOrganization.get? membership.key = none
  · rw [save_of_accepted fun h => h.2 htaken]
    exact iff_of_true rfl htaken
  · rw [save_of_refused hactive htaken]
    exact iff_of_false (fun h => by cases h) htaken

theorem after_concat (saves : List OrganizationMembership) (membership : OrganizationMembership) :
    after (saves ++ [membership]) = (save membership (after saves)).2 := by
  unfold after
  rw [List.foldl_concat]

/-! ### The index while it is right -/

/-- Every membership is stored under its identifier. -/
def Keyed (s : InMemoryOrganizationMembershipStore) : Prop :=
  ∀ membershipId membership, s.memberships.get? membershipId = some membership →
    membership.membershipId = membershipId

/-- The index is one of the active memberships. -/
structure Indexed (s : InMemoryOrganizationMembershipStore) : Prop where
  keyed : s.Keyed
  indexes : s.activeByUserOrganization.Indexes s.memberships OrganizationMembership.activeKey

/-- An entry of the index is stale. -/
def Stale (s : InMemoryOrganizationMembershipStore) : Prop :=
  ∃ k membershipId, s.activeByUserOrganization.Stale s.memberships
    OrganizationMembership.activeKey k membershipId

theorem indexed_empty : empty.Indexed where
  keyed membershipId membership h := by cases h
  indexes := Dict.indexes_empty

theorem Keyed.mem_values_iff (h : s.Keyed) : membership ∈ s.memberships.values ↔
    s.memberships.get? membership.membershipId = some membership := by
  rw [Dict.mem_values_iff]
  constructor
  · rintro ⟨membershipId, hget⟩
    rw [h membershipId membership hget]
    exact hget
  · exact fun hget => ⟨_, hget⟩

theorem Keyed.save (h : s.Keyed) : (save membership s).2.Keyed := by
  rw [save_eq]
  split
  · exact h
  · intro membershipId stored hget
    rcases Dict.get?_set_eq_some_iff.1 hget with ⟨rfl, rfl⟩ | ⟨-, hold⟩
    · rfl
    · exact h membershipId stored hold

namespace Indexed

theorem get?_iff (h : s.Indexed) {userSubject organizationId membershipId : String} :
    s.activeByUserOrganization.get? (userSubject, organizationId) = some membershipId ↔
      ∃ stored ∈ s.memberships.values, stored.state = .active ∧
        stored.userSubject = userSubject ∧ stored.organizationId = organizationId ∧
          stored.membershipId = membershipId := by
  rw [h.indexes]
  constructor
  · rintro ⟨stored, hget, hkey⟩
    obtain ⟨hactive, hpair⟩ := OrganizationMembership.activeKey_eq_some_iff.1 hkey
    obtain ⟨huser, horganization⟩ := Prod.mk.inj hpair
    have hid := h.keyed membershipId stored hget
    exact ⟨stored, (Dict.mem_values_iff _).2 ⟨membershipId, hget⟩, hactive, huser, horganization,
      hid⟩
  · rintro ⟨stored, hstored, hactive, rfl, rfl, rfl⟩
    exact ⟨stored, h.keyed.mem_values_iff.1 hstored,
      OrganizationMembership.activeKey_eq_some_iff.2 ⟨hactive, rfl⟩⟩

/-- A key is free exactly if no active membership has it. -/
theorem get?_eq_none_iff (h : s.Indexed) {userSubject organizationId : String} :
    s.activeByUserOrganization.get? (userSubject, organizationId) = none ↔
      ¬ s.HasActive userSubject organizationId := by
  constructor
  · rintro hnone ⟨stored, hstored, hactive, huser, horganization⟩
    have hget := h.get?_iff.2 ⟨stored, hstored, hactive, huser, horganization, rfl⟩
    rw [hnone] at hget
    cases hget
  · intro hnot
    cases hget : s.activeByUserOrganization.get? (userSubject, organizationId) with
    | none => rfl
    | some membershipId =>
        obtain ⟨stored, hstored, hactive, huser, horganization, -⟩ := h.get?_iff.1 hget
        exact absurd ⟨stored, hstored, hactive, huser, horganization⟩ hnot

/-- **The unique index of the database** admits a new active membership exactly if there is none. -/
theorem admits_iff {table : KeyedTable MembershipRow.keys}
    (htable : ∀ row, row ∈ table.rows ↔ ∃ stored ∈ s.memberships.values, row = stored.row)
    (h : s.Indexed) (hactive : membership.state = .active)
    (hnew : s.memberships.get? membership.membershipId = none) :
    table.Admits membership.row ↔
      ¬ s.HasActive membership.userSubject membership.organizationId := by
  have hkeys : membership.row.keys = [.membershipId membership.membershipId,
      .active membership.userSubject membership.organizationId] := by
    unfold MembershipRow.keys OrganizationMembership.row
    rw [if_pos hactive]
  unfold KeyedTable.Admits
  rw [hkeys]
  constructor
  · rintro hadmits ⟨stored, hstored, hstate, huser, horganization⟩
    refine hadmits stored.row ((htable _).2 ⟨stored, hstored, rfl⟩)
      (.active membership.userSubject membership.organizationId) ?_ (by simp)
    unfold MembershipRow.keys OrganizationMembership.row
    simp [hstate, huser, horganization]
  · intro hnot row hrow k hk hmem
    obtain ⟨stored, hstored, rfl⟩ := (htable row).1 hrow
    rcases List.mem_cons.1 hk with rfl | hk
    · -- the identifier is new
      have hid : stored.membershipId = membership.membershipId := by
        simpa [OrganizationMembership.row] using hmem
      have hget := h.keyed.mem_values_iff.1 hstored
      rw [hid, hnew] at hget
      cases hget
    · split at hk
      · rename_i hstate
        obtain rfl := List.mem_singleton.1 hk
        have hpair : stored.userSubject = membership.userSubject ∧
            stored.organizationId = membership.organizationId := by
          simpa [OrganizationMembership.row] using hmem
        exact hnot ⟨stored, hstored, hstate, hpair.1, hpair.2⟩
      · exact absurd hk List.not_mem_nil

/-- **What is accepted while the index is right.** -/
theorem tracksActive (h : s.Indexed) : s.TracksActive where
  index _ _ _ := h.get?_iff
  accepts _ hactive := (save_isOk_iff hactive).trans h.get?_eq_none_iff
  postgres _ htable _ hactive hnew :=
    ((save_isOk_iff hactive).trans h.get?_eq_none_iff).trans
      (admits_iff htable h hactive hnew).symm

/-- **A save that replaces no active membership keeps the index right.** -/
theorem save (h : s.Indexed) (hkeeps : s.KeepsActive membership) :
    (save membership s).2.Indexed := by
  refine ⟨h.keyed.save, ?_⟩
  rw [save_eq]
  split
  · exact h.indexes
  · rename_i haccepted
    refine (h.indexes.put_iff ?_).2 ?_
    · intro k hk j hj
      obtain ⟨hactive, rfl⟩ := OrganizationMembership.activeKey_eq_some_iff.1 hk
      refine absurd ⟨hactive, fun hnone => ?_⟩ haccepted
      rw [hnone] at hj
      cases hj
    · intro old hold k hk
      have hactive := (OrganizationMembership.activeKey_eq_some_iff.1 hk).1
      obtain ⟨hstate, hhas⟩ := hkeeps old hold hactive
      exact absurd ⟨hstate, fun hnone => h.get?_eq_none_iff.1 hnone hhas⟩ haccepted

/-- **A save that replaces an active membership leaves its entry behind.** -/
theorem stale_of_not_keeps (h : s.Indexed) (hnot : ¬ s.KeepsActive membership) :
    (InMemoryOrganizationMembershipStore.save membership s).2.Stale := by
  unfold KeepsActive at hnot
  push Not at hnot
  obtain ⟨old, hold, hactive, hfree⟩ := hnot
  rw [save_of_accepted fun htaken =>
    htaken.2 (h.get?_eq_none_iff.2 (hfree htaken.1))]
  refine ⟨old.key, membership.membershipId, ?_⟩
  refine h.indexes.stale_of_put hold
    (OrganizationMembership.activeKey_eq_some_iff.2 ⟨hactive, rfl⟩) fun hk => ?_
  -- the key is the one of the membership that is replaced
  obtain ⟨hstate, hkey⟩ := OrganizationMembership.activeKey_eq_some_iff.1 hk
  obtain ⟨huser, horganization⟩ := Prod.mk.inj hkey
  exact hfree hstate ⟨old, (Dict.mem_values_iff _).2 ⟨_, hold⟩, hactive, huser.symm,
    horganization.symm⟩

end Indexed

/-- **A stale entry stays**: its key is taken, so that no active membership with it is accepted. -/
theorem Stale.save (h : s.Stale) : (save membership s).2.Stale := by
  obtain ⟨k, membershipId, hstale⟩ := h
  rw [save_eq]
  split
  · exact ⟨k, membershipId, hstale⟩
  · rename_i haccepted
    refine ⟨k, membershipId, hstale.put fun hk => ?_⟩
    obtain ⟨hactive, rfl⟩ := OrganizationMembership.activeKey_eq_some_iff.1 hk
    refine haccepted ⟨hactive, fun hnone => ?_⟩
    rw [hstale.1] at hnone
    cases hnone

/-- Over a stale entry the index does not track the active memberships. -/
theorem Stale.not_tracksActive (h : s.Stale) (hkeyed : s.Keyed) : ¬ s.TracksActive := by
  rintro htracks
  obtain ⟨⟨userSubject, organizationId⟩, membershipId, hget, hstale⟩ := h
  obtain ⟨stored, hstored, hactive, rfl, rfl, rfl⟩ :=
    (htracks.index userSubject organizationId membershipId).1 hget
  exact hstale stored (hkeyed.mem_values_iff.1 hstored)
    (OrganizationMembership.activeKey_eq_some_iff.2 ⟨hactive, rfl⟩)

/-! ### Whole runs -/

theorem keyed_after (saves : List OrganizationMembership) : (after saves).Keyed := by
  induction saves using List.reverseRecOn with
  | nil => exact indexed_empty.keyed
  | append_singleton saves membership ih =>
      rw [after_concat]
      exact ih.save

/-- No save of the run replaces an active membership. -/
def KeepsActiveAlong (saves : List OrganizationMembership) : Prop :=
  ∀ pre membership, pre ++ [membership] <+: saves → (after pre).KeepsActive membership

theorem keepsActiveAlong_concat_iff {saves : List OrganizationMembership} :
    KeepsActiveAlong (saves ++ [membership]) ↔
      KeepsActiveAlong saves ∧ (after saves).KeepsActive membership := by
  unfold KeepsActiveAlong
  constructor
  · intro h
    exact ⟨fun pre m hpre => h pre m (hpre.trans (List.prefix_append _ _)),
      h saves membership (List.prefix_refl _)⟩
  · rintro ⟨h, hlast⟩ pre m hpre
    rcases List.prefix_concat_iff.1 hpre with heq | hpre
    · obtain ⟨rfl, hm⟩ := List.append_inj' heq rfl
      cases hm
      exact hlast
    · exact h pre m hpre

/-- **Over every run the index is right, or has a stale entry for good.** -/
theorem indexed_or_stale (saves : List OrganizationMembership) :
    KeepsActiveAlong saves ∧ (after saves).Indexed ∨
      ¬ KeepsActiveAlong saves ∧ (after saves).Stale := by
  induction saves using List.reverseRecOn with
  | nil =>
      refine Or.inl ⟨fun pre membership hpre => ?_, indexed_empty⟩
      simp at hpre
  | append_singleton saves membership ih =>
      rw [keepsActiveAlong_concat_iff, after_concat]
      rcases ih with ⟨halong, hindexed⟩ | ⟨hnot, hstale⟩
      · by_cases hkeeps : (after saves).KeepsActive membership
        · exact Or.inl ⟨⟨halong, hkeeps⟩, hindexed.save hkeeps⟩
        · exact Or.inr ⟨fun h => hkeeps h.2, hindexed.stale_of_not_keeps hkeeps⟩
      · exact Or.inr ⟨fun h => hnot h.1, hstale.save⟩

end InMemoryOrganizationMembershipStore

open InMemoryOrganizationMembershipStore in
/-- **The index tracks the active memberships exactly after the runs** in which no save replaces an
active membership. -/
theorem membership_index_tracks_iff (saves : List OrganizationMembership) :
    (after saves).TracksActive ↔
      ∀ pre membership, pre ++ [membership] <+: saves → (after pre).KeepsActive membership := by
  rcases indexed_or_stale saves with ⟨halong, hindexed⟩ | ⟨hnot, hstale⟩
  · exact iff_of_true hindexed.tracksActive halong
  · exact iff_of_false (hstale.not_tracksActive (keyed_after saves)) hnot

/-- A membership of Carol. -/
def carolMembership (membershipId : String) (state : OrganizationMembershipState)
    (membershipId_length : 8 ≤ membershipId.length) : OrganizationMembership where
  membershipId := membershipId
  userSubject := "usr_carol"
  organizationId := "org_initech"
  source := .invitation
  roleRefs := []
  state := state
  version := 1
  createdAt := 0
  membershipId_length := membershipId_length
  userSubject_ne := by decide
  organizationId_ne := by decide
  version_pos := Nat.one_pos

/-- Carol is a member, and her membership is saved again as revoked. -/
def carolRevoked : List OrganizationMembership :=
  [carolMembership "member_1" .active (by decide),
    carolMembership "member_1" .revoked (by decide)]

/-- **A membership is saved as revoked**: its entry stays, and another membership of the user in the
organization is refused although none is active. -/
theorem revoked_membership_blocks :
    ¬ (InMemoryOrganizationMembershipStore.after carolRevoked).TracksActive ∧
      ¬ (InMemoryOrganizationMembershipStore.after carolRevoked).HasActive "usr_carol"
        "org_initech" ∧
      (InMemoryOrganizationMembershipStore.save (carolMembership "member_2" .active (by decide))
        (.after carolRevoked)).1 = .error duplicateActiveMembership := by
  have hvalues : (InMemoryOrganizationMembershipStore.after carolRevoked).memberships.values =
      [carolMembership "member_1" .revoked (by decide)] := by
    decide
  have hnot : ¬ (InMemoryOrganizationMembershipStore.after carolRevoked).HasActive "usr_carol"
      "org_initech" := by
    rintro ⟨stored, hstored, hactive, -⟩
    rw [hvalues] at hstored
    cases List.mem_singleton.1 hstored
    cases hactive
  refine ⟨fun h => ?_, hnot, by decide⟩
  obtain ⟨stored, hstored, hactive, huser, horganization, -⟩ :=
    (h.index "usr_carol" "org_initech" "member_1").1 (by decide)
  exact hnot ⟨stored, hstored, hactive, huser, horganization⟩

end PlatformOps
