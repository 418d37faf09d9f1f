/-
**The two registries of reviewed scopes.**

The registry in memory keeps every scope as it was registered.  The registry in the database keeps
one record of what the scopes share, and a scope that exists keeps the records it has.  So the two
agree as long as every scope comes with the shared records as they are: a record that is registered
again as suspended stops every scope below it in the database, and none of the other scopes in
memory.

Main definitions:

* `SharesRecords` — a registration that brings the shared records as they are;
* `Registrable` — such a registration, of a scope that the database can store;
* `Refines` — the tables hold the scopes of the registry in memory;
* `RegistriesAgree` — the two registries accept the same calls and resolve the same scopes.

Main results:

* `Refines.registerReviewed` — a registration keeps the tables and the registry in memory together;
* `Refines.resolveActive_eq` — what is resolved in both;
* `registries_agree` — **the registries agree as long as the shared records are brought as they
  are**;
* `suspended_project_disagree` — a project is suspended with one scope, and the other one is resolved
  in memory only.
-/

import PlatformOps.CanonicalPaths
import PlatformOps.KeyIndex

set_option relaxedAutoImplicit false
set_option autoImplicit false

namespace PlatformOps

/-- The state of the record of a scope on a level. -/
def ResourceScope.recordState (scope : ResourceScope) : HierarchyLevel → ResourceScopeState
  | .organization => scope.organization.state
  | .businessUnit => scope.businessUnit.state
  | .team => scope.team.state
  | .project => scope.project.state
  | .environment => scope.environment.state

/-- The level above a table, and the level of a table. -/
def RecordLevel.toLevel : RecordLevel → HierarchyLevel
  | businessUnit => .businessUnit
  | team => .team
  | project => .project
  | environment => .environment

theorem ResourceScope.recordId_toLevel (scope : ResourceScope) (level : RecordLevel) :
    scope.recordId level.toLevel = (scope.record level).recordId := by
  cases level <;> rfl

/-- The parent of a record is the record of the level above. -/
theorem ResourceScope.parentId_record (scope : ResourceScope) (level : RecordLevel) :
    (scope.record level).parentId = scope.recordId level.toLevel.parent := by
  cases level with
  | businessUnit => exact scope.businessUnit_of_organization
  | team => exact scope.team_of_businessUnit
  | project => exact scope.project_of_team
  | environment => exact scope.environment_of_project

theorem ResourceScope.recordState_toLevel (scope : ResourceScope) (level : RecordLevel) :
    scope.recordState level.toLevel = (scope.record level).state := by
  cases level <;> rfl

theorem HierarchyLevel.organization_or_toLevel (level : HierarchyLevel) :
    level = .organization ∨ ∃ l : RecordLevel, level = l.toLevel := by
  cases level with
  | organization => exact Or.inl rfl
  | businessUnit => exact Or.inr ⟨.businessUnit, rfl⟩
  | team => exact Or.inr ⟨.team, rfl⟩
  | project => exact Or.inr ⟨.project, rfl⟩
  | environment => exact Or.inr ⟨.environment, rfl⟩

/-- The records of an active scope are active. -/
theorem ResourceScope.recordState_of_active {scope : ResourceScope}
    (h : scope.isCompleteAndActive = true) (level : HierarchyLevel) :
    scope.recordState level = .active := by
  simp only [isCompleteAndActive, Bool.and_eq_true, List.all_cons, List.all_nil,
    decide_eq_true_eq] at h
  obtain ⟨-, horganization, hunit, hteam, hproject, henvironment, -⟩ := h
  cases level <;> assumption

/-! ### Registrations of shared records -/

/-- A scope brings the records it shares with others as they are, under slugs of their own, and if
it was registered before, the records it had. -/
structure SharesRecords (m : InMemoryReviewedResourceScopeRegistry) (scope : ResourceScope) :
    Prop where
  shared : ∀ t ∈ m.byScopeId.values, t.scopeId ≠ scope.scopeId → ∀ level,
    (t.record level).recordId = (scope.record level).recordId →
      level ≠ .environment ∧ t.record level = scope.record level
  slugs : ∀ t ∈ m.byScopeId.values, t.scopeId ≠ scope.scopeId → ∀ level,
    (t.record level).parentId = (scope.record level).parentId →
      (t.record level).slug = (scope.record level).slug →
        (t.record level).recordId = (scope.record level).recordId
  itself : ∀ t ∈ m.byScopeId.values, t.scopeId = scope.scopeId →
    t.recordId = scope.recordId ∧ t.organization.slug = scope.organization.slug

/-- The organization is active, here and in the database, and the scope can be stored. -/
structure Registrable (organizations : KeyedTable fun row : OrganizationRow => [row.organizationId])
    (m : InMemoryReviewedResourceScopeRegistry) (scope : ResourceScope) : Prop where
  shares : SharesRecords m scope
  organization : scope.organization.state = .active
  active : ∃ row, organizations.find? scope.organization.organizationId = some row ∧
    row.state = .active
  sendable : ∀ text ∈ scope.texts, Sendable text
  fits : scope.version ≤ maxInteger

/-! ### The registry in memory -/

namespace InMemoryReviewedResourceScopeRegistry

/-- A path is taken by the scope that has it. -/
def PathsTaken (m : InMemoryReviewedResourceScopeRegistry) : Prop :=
  ∀ path i, m.scopeIdByPath.get? path = some i ↔
    ∃ s, m.byScopeId.get? i = some s ∧ s.canonicalPath = path

theorem mem_values_iff {m : InMemoryReviewedResourceScopeRegistry} {s : ResourceScope} :
    s ∈ m.byScopeId.values ↔ m.byScopeId.get? s.scopeId = some s := by
  rw [Dict.mem_values_iff]
  constructor
  · rintro ⟨i, hi⟩
    rw [m.keyed i s hi]
    exact hi
  · exact fun h => ⟨_, h⟩

theorem mem_values_store {m : InMemoryReviewedResourceScopeRegistry} {scope s : ResourceScope} :
    s ∈ (m.store scope).byScopeId.values ↔
      s = scope ∨ s ∈ m.byScopeId.values ∧ s.scopeId ≠ scope.scopeId := by
  rw [mem_values_iff, get?_byScopeId_store, mem_values_iff]
  split
  · rename_i hid
    constructor
    · intro h
      exact Or.inl (Option.some.inj h).symm
    · rintro (rfl | ⟨-, hne⟩)
      · rfl
      · exact absurd hid hne
  · rename_i hid
    constructor
    · exact fun h => Or.inr ⟨h, hid⟩
    · rintro (rfl | ⟨h, -⟩)
      · exact absurd rfl hid
      · exact h

theorem pathsTaken_iff_indexes {m : InMemoryReviewedResourceScopeRegistry} : m.PathsTaken ↔
    m.scopeIdByPath.Indexes m.byScopeId fun scope => some scope.canonicalPath := by
  unfold PathsTaken Dict.Indexes
  simp only [Option.some.injEq]

/-- A registration gives the old path up, and takes the new one. -/
theorem scopeIdByPath_store (m : InMemoryReviewedResourceScopeRegistry) (scope : ResourceScope) :
    (m.store scope).scopeIdByPath =
      (m.scopeIdByPath.dropKey ((m.byScopeId.get? scope.scopeId).bind fun previous =>
        some previous.canonicalPath)).putKey scope.scopeId (some scope.canonicalPath) := by
  unfold InMemoryReviewedResourceScopeRegistry.store
  cases m.byScopeId.get? scope.scopeId with
  | none => rfl
  | some previous => rfl

/-- **Every scope has its path** after a registration that is accepted. -/
theorem PathsTaken.store {m : InMemoryReviewedResourceScopeRegistry} (h : m.PathsTaken)
    {scope : ResourceScope}
    (hfree : ∀ i ∈ m.scopeIdByPath.get? scope.canonicalPath, i = scope.scopeId) :
    (m.store scope).PathsTaken := by
  rw [pathsTaken_iff_indexes] at h ⊢
  rw [scopeIdByPath_store]
  refine h.move fun path hpath i hi => ?_
  cases hpath
  exact hfree i hi

end InMemoryReviewedResourceScopeRegistry

/-! ### The tables hold the scopes -/

/-- The tables hold the scopes of the registry in memory, and nothing else. -/
structure Refines (r : PostgresReviewedResourceScopeRegistry)
    (m : InMemoryReviewedResourceScopeRegistry) : Prop where
  paths : m.PathsTaken
  scopes : ∀ i, r.scope? i = (m.byScopeId.get? i).map ResourceScope.row
  records : ∀ s ∈ m.byScopeId.values, ∀ level,
    (r.table level).record? (s.record level).recordId = some (s.record level)
  recorded : ∀ level, ∀ a ∈ (r.table level).rows, ∃ s ∈ m.byScopeId.values, s.record level = a
  active : ∀ s ∈ m.byScopeId.values, s.organization.state = .active ∧
    ∃ row, r.organizations.find? s.organization.organizationId = some row ∧ row.state = .active

theorem refines_empty (organizations : KeyedTable fun row : OrganizationRow => [row.organizationId]) :
    Refines (.empty organizations) .empty := by
  have hvalues : InMemoryReviewedResourceScopeRegistry.empty.byScopeId.values = [] := rfl
  refine ⟨?_, fun i => rfl, ?_, ?_, ?_⟩
  · intro path i
    simp [InMemoryReviewedResourceScopeRegistry.empty]
  · simp [hvalues]
  · intro level a ha
    cases level <;> exact absurd ha List.not_mem_nil
  · simp [hvalues]

namespace Refines

variable {r r' : PostgresReviewedResourceScopeRegistry}
  {m : InMemoryReviewedResourceScopeRegistry} {scope : ResourceScope}

/-- The rows of the scopes are those of the registry in memory. -/
theorem mem_rows (h : Refines r m) {row : ScopeRow} (hrow : row ∈ r.scopes.rows) :
    ∃ t ∈ m.byScopeId.values, t.row = row := by
  have hfind : r.scope? row.scopeId = some row :=
    PostgresReviewedResourceScopeRegistry.scope?_eq_some_iff.2 ⟨hrow, rfl⟩
  rw [h.scopes] at hfind
  obtain ⟨t, ht, htrow⟩ := Option.map_eq_some_iff.1 hfind
  exact ⟨t, Dict.mem_values_iff _ |>.2 ⟨_, ht⟩, htrow⟩

/-! ### What is resolved -/

/-- A scope is joined from its own row and its own records. -/
theorem records?_eq (h : Refines r m) {s : ResourceScope} (hs : s ∈ m.byScopeId.values) :
    ∃ organization, organization.state = .active ∧ r.records? s.scopeId =
      some ⟨s.row, organization, s.businessUnit.row, s.team.row, s.project.row,
        s.environment.row⟩ := by
  obtain ⟨-, organization, hfind, hactive⟩ := h.active s hs
  refine ⟨organization, hactive, ?_⟩
  refine PostgresReviewedResourceScopeRegistry.records?_eq_some_iff_record.2 ⟨?_, hfind, ?_⟩
  · rw [h.scopes, InMemoryReviewedResourceScopeRegistry.mem_values_iff.1 hs]
    rfl
  · intro level
    have hrecord := h.records s hs level
    cases level <;> exact hrecord

/-- The scope of its own records. -/
theorem resolved_eq {s : ResourceScope} (hactive : s.organization.state = .active)
    {organization : OrganizationRow} (horganization : organization.state = .active) :
    ScopeRecords.resolved ⟨s.row, organization, s.businessUnit.row, s.team.row, s.project.row,
      s.environment.row⟩ = s := by
  obtain ⟨i, ⟨oid, oslug, ostate, ho⟩, ⟨bid, boid, bslug, bstate, hb⟩, ⟨tid, tbid, tslug, tstate, ht⟩,
    ⟨pid, ptid, pslug, pstate, hp⟩, ⟨eid, epid, eslug, estate, he⟩, state, version, hi, hv, h₁, h₂, h₃,
    h₄⟩ := s
  cases hactive
  cases h₁
  cases h₂
  cases h₃
  cases h₄
  simp [ScopeRecords.resolved, ResourceScope.row, BusinessUnit.row, Team.row,
    PlatformOpsProject.row, Environment.row, ScopeRecords.organizationState, horganization]

/-- The records of a scope are active exactly if the scope is. -/
theorem allActive_iff {s : ResourceScope} (hactive : s.organization.state = .active)
    {organization : OrganizationRow} (horganization : organization.state = .active) :
    ScopeRecords.AllActive ⟨s.row, organization, s.businessUnit.row, s.team.row, s.project.row,
      s.environment.row⟩ ↔ s.isCompleteAndActive = true := by
  simp [ScopeRecords.AllActive, ResourceScope.isCompleteAndActive, ResourceScope.row,
    BusinessUnit.row, Team.row, PlatformOpsProject.row, Environment.row, hactive, horganization]

/-- **The same scopes are resolved.** -/
theorem resolvedScope_eq (h : Refines r m) (i : String) : r.resolvedScope i = m.resolveActive i := by
  unfold InMemoryReviewedResourceScopeRegistry.resolveActive
  cases hfind : m.byScopeId.get? i with
  | none =>
      have hnone : r.records? i = none := by
        unfold PostgresReviewedResourceScopeRegistry.records?
        rw [h.scopes, hfind]
        rfl
      unfold PostgresReviewedResourceScopeRegistry.resolvedScope
      rw [hnone]
      rfl
  | some s =>
      obtain rfl := m.keyed i s hfind
      have hs := InMemoryReviewedResourceScopeRegistry.mem_values_iff.2 hfind
      obtain ⟨organization, horganization, hrecords⟩ := h.records?_eq hs
      have hactive := (h.active s hs).1
      unfold PostgresReviewedResourceScopeRegistry.resolvedScope
      rw [hrecords]
      by_cases hcomplete : s.isCompleteAndActive = true
      · simp [Option.filter, hcomplete, (allActive_iff hactive horganization).2 hcomplete,
          resolved_eq hactive horganization]
      · have hnot := mt (allActive_iff hactive horganization).1 hcomplete
        simp [Option.filter, hcomplete, hnot]

/-- **What is resolved** for an identifier that can be sent. -/
theorem resolveActive_eq (h : Refines r m) {i : String} (hsend : Sendable i) :
    r.resolveActive i = .ok (m.resolveActive i) :=
  PostgresReviewedResourceScopeRegistry.resolveActive_eq_ok_iff.2 ⟨hsend, h.resolvedScope_eq i⟩

/-! ### What is accepted -/

/-- A path that another scope has is refused in the database as well. -/
theorem not_admits (h : Refines r m) {i : String}
    (hpath : m.scopeIdByPath.get? scope.canonicalPath = some i) (hne : i ≠ scope.scopeId) :
    ¬ r.Admits scope := by
  intro hadmits
  obtain ⟨s, hs, hspath⟩ := (h.paths _ i).1 hpath
  obtain rfl := m.keyed i s hs
  have hrow : r.scope? s.scopeId = some s.row := by
    rw [h.scopes, hs]
    rfl
  have hmem := (PostgresReviewedResourceScopeRegistry.scope?_eq_some_iff.1 hrow).1
  exact (hadmits.scope s.row hmem hne).1 hspath

/-- A record that is there is stored again as it is registered. -/
theorem stored_eq (h : Refines r m) (hshares : SharesRecords m scope) (level : RecordLevel) :
    (r.table level).stored (scope.record level) = scope.record level := by
  have hparent : (r.table level).parentOf (scope.record level) = (scope.record level).parentId := by
    unfold HierarchyTable.parentOf
    cases hfind : (r.table level).record? (scope.record level).recordId with
    | none => rfl
    | some a =>
        obtain ⟨hmem, hid⟩ := HierarchyTable.record?_eq_some_iff.1 hfind
        obtain ⟨t, ht, rfl⟩ := h.recorded level a hmem
        by_cases hsame : t.scopeId = scope.scopeId
        · have hids := (hshares.itself t ht hsame).1
          change (t.record level).parentId = _
          rw [t.parentId_record, scope.parentId_record, hids]
        · exact congrArg HierarchyRow.parentId (hshares.shared t ht hsame level hid).2
  unfold HierarchyTable.stored
  rw [hparent]

/-- No other record has the slug below the parent. -/
theorem admits_record (h : Refines r m) (hshares : SharesRecords m scope) (level : RecordLevel) :
    (r.table level).Admits (scope.record level) := by
  have hparent := congrArg HierarchyRow.parentId (h.stored_eq hshares level)
  intro a ha hne
  obtain ⟨t, ht, rfl⟩ := h.recorded level a ha
  rintro ⟨hsameParent, hslug⟩
  by_cases hsame : t.scopeId = scope.scopeId
  · refine hne ?_
    rw [← t.recordId_toLevel, ← scope.recordId_toLevel, (hshares.itself t ht hsame).1]
  · exact hne (hshares.slugs t ht hsame level (hsameParent.trans hparent) hslug)

/-- A scope that is there is stored again as it is registered. -/
theorem storedScope_eq (h : Refines r m) (hshares : SharesRecords m scope) :
    r.storedScope scope.row = scope.row := by
  unfold PostgresReviewedResourceScopeRegistry.storedScope
  cases hfind : r.scope? scope.row.scopeId with
  | none => rfl
  | some old =>
      obtain ⟨hmem, hid⟩ := PostgresReviewedResourceScopeRegistry.scope?_eq_some_iff.1 hfind
      obtain ⟨t, ht, rfl⟩ := h.mem_rows hmem
      obtain ⟨hids, hslug⟩ := hshares.itself t ht hid
      have hlevel := congrFun hids
      have horganization := hlevel .organization
      have hunit := hlevel .businessUnit
      have hteam := hlevel .team
      have hproject := hlevel .project
      have henvironment := hlevel .environment
      simp only [ResourceScope.recordId] at horganization hunit hteam hproject henvironment
      simp only [ResourceScope.row] at hid ⊢
      simp [hid, horganization, hslug, hunit, hteam, hproject, henvironment]

/-- **A registration that brings the shared records as they are is accepted in the database**, if its
path is free. -/
theorem admits (h : Refines r m) (hregistrable : Registrable r.organizations m scope)
    (hfree : ∀ i ∈ m.scopeIdByPath.get? scope.canonicalPath, i = scope.scopeId) :
    r.Admits scope := by
  obtain ⟨hshares, -, ⟨organization, hfind, -⟩, hsendable, hfits⟩ := hregistrable
  refine PostgresReviewedResourceScopeRegistry.admits_of_tables ?_ hsendable hfits
    (h.admits_record hshares) ?_
  · rw [hfind]
    exact Option.some_ne_none _
  · intro a ha hne
    obtain ⟨t, ht, rfl⟩ := h.mem_rows ha
    rw [h.storedScope_eq hshares]
    have hfound := InMemoryReviewedResourceScopeRegistry.mem_values_iff.1 ht
    constructor
    · intro hpath
      exact hne (hfree t.scopeId ((h.paths _ _).2 ⟨t, hfound, hpath⟩))
    · intro henvironment
      exact (hshares.shared t ht hne .environment henvironment).1 rfl

/-- **The same registrations are accepted.** -/
theorem admits_iff (h : Refines r m)
    (hrule : (∀ i ∈ m.scopeIdByPath.get? scope.canonicalPath, i = scope.scopeId) →
      Registrable r.organizations m scope) :
    r.Admits scope ↔ ∀ i ∈ m.scopeIdByPath.get? scope.canonicalPath, i = scope.scopeId := by
  constructor
  · intro hadmits i hi
    by_contra hne
    exact h.not_admits hi hne hadmits
  · exact fun hfree => h.admits (hrule hfree) hfree

/-- **A registration keeps the tables and the registry in memory together.** -/
theorem registerReviewed (h : Refines r m) (hregistrable : Registrable r.organizations m scope)
    (hfree : ∀ i ∈ m.scopeIdByPath.get? scope.canonicalPath, i = scope.scopeId)
    (hregister : r.registerReviewed scope = .ok r') : Refines r' (m.store scope) := by
  obtain ⟨hshares, hstate, hactive, -, -⟩ := hregistrable
  obtain ⟨-, -, -, hregistered⟩ :=
    PostgresReviewedResourceScopeRegistry.registerReviewed_eq_ok_iff.1 hregister
  have hrecord : ∀ level recordId, (r'.table level).record? recordId =
      if recordId = (scope.record level).recordId then some (scope.record level)
      else (r.table level).record? recordId := by
    intro level recordId
    rw [hregistered.record? level recordId, h.stored_eq hshares level]
  refine ⟨h.paths.store hfree, ?_, ?_, ?_, ?_⟩
  · intro i
    rw [PostgresReviewedResourceScopeRegistry.scope?_upsertScope hregistered.scopes,
      InMemoryReviewedResourceScopeRegistry.get?_byScopeId_store, h.storedScope_eq hshares, h.scopes]
    change (if i = scope.scopeId then _ else _) = _
    split
    · rfl
    · rfl
  · intro s hs level
    rw [hrecord]
    rcases InMemoryReviewedResourceScopeRegistry.mem_values_store.1 hs with rfl | ⟨ht, hne⟩
    · exact if_pos rfl
    · split
      · rename_i hid
        rw [(hshares.shared s ht hne level hid).2]
      · exact h.records s ht level
  · intro level a ha
    have hfind := HierarchyTable.record?_eq_some_iff.2 ⟨ha, rfl⟩
    rw [hrecord] at hfind
    split at hfind
    · exact ⟨scope, InMemoryReviewedResourceScopeRegistry.mem_values_store.2 (Or.inl rfl),
        Option.some.inj hfind⟩
    · rename_i hid
      obtain ⟨t, ht, rfl⟩ := h.recorded level a (HierarchyTable.record?_eq_some_iff.1 hfind).1
      refine ⟨t, InMemoryReviewedResourceScopeRegistry.mem_values_store.2 (Or.inr ⟨ht, ?_⟩), rfl⟩
      intro hsame
      refine hid ?_
      rw [← t.recordId_toLevel, ← scope.recordId_toLevel, (hshares.itself t ht hsame).1]
  · intro s hs
    rw [hregistered.organizations]
    rcases InMemoryReviewedResourceScopeRegistry.mem_values_store.1 hs with rfl | ⟨ht, -⟩
    · exact ⟨hstate, hactive⟩
    · exact h.active s ht

end Refines

/-! ### Runs of both registries -/

section Runs

variable (organizations : KeyedTable fun row : OrganizationRow => [row.organizationId])

/-- The registry in memory after some calls. -/
def memoryAfter (calls : List ResourceScope) : InMemoryReviewedResourceScopeRegistry :=
  (InMemoryReviewedResourceScopeRegistry.scopeRegistry.run .empty calls).1

/-- The registry in the database after some calls. -/
def postgresAfter (calls : List ResourceScope) : PostgresReviewedResourceScopeRegistry :=
  (PostgresReviewedResourceScopeRegistry.scopeRegistry.run (.empty organizations) calls).1

/-- The two registries accept the same calls, and resolve the same scopes; and once a record is
registered as not active, no scope below it is resolved in either. -/
structure RegistriesAgree (calls : List ResourceScope) : Prop where
  accepts : ∀ pre scope, pre ++ [scope] <+: calls →
    ((∃ m, (memoryAfter pre).registerReviewed scope = .ok m) ↔
      ∃ r, (postgresAfter organizations pre).registerReviewed scope = .ok r)
  resolves : ∀ pre, pre <+: calls → ∀ i, Sendable i →
    (postgresAfter organizations pre).resolveActive i = .ok ((memoryAfter pre).resolveActive i)
  stops : ∀ pre scope m level, pre ++ [scope] <+: calls →
    (memoryAfter pre).registerReviewed scope = .ok m → scope.recordState level ≠ .active →
      ∀ i s, (m.resolveActive i = some s ∨
          (postgresAfter organizations (pre ++ [scope])).resolveActive i = .ok (some s)) →
        s.recordId level ≠ scope.recordId level

/-- A scope whose record is shared with one that was just registered has it in that state. -/
theorem Refines.recordState_eq {r : PostgresReviewedResourceScopeRegistry}
    {m : InMemoryReviewedResourceScopeRegistry} (h : Refines r m) {s t : ResourceScope}
    (hs : s ∈ m.byScopeId.values) (ht : t ∈ m.byScopeId.values) {level : RecordLevel}
    (hid : s.recordId level.toLevel = t.recordId level.toLevel) :
    s.recordState level.toLevel = t.recordState level.toLevel := by
  rw [s.recordId_toLevel, t.recordId_toLevel] at hid
  have hrecord := h.records s hs level
  rw [hid, h.records t ht level] at hrecord
  rw [s.recordState_toLevel, t.recordState_toLevel, Option.some.inj hrecord]

/-- **Both registries stop** resolving what is below a record that is not active. -/
theorem Refines.resolveActive_ne {r : PostgresReviewedResourceScopeRegistry}
    {m : InMemoryReviewedResourceScopeRegistry} (h : Refines r m) {scope : ResourceScope}
    (hscope : scope ∈ m.byScopeId.values) {level : HierarchyLevel}
    (hstate : scope.recordState level ≠ .active) {i : String} {s : ResourceScope}
    (hs : m.resolveActive i = some s) : s.recordId level ≠ scope.recordId level := by
  intro hid
  obtain ⟨hfind, hactive⟩ := Option.filter_eq_some_iff.1 hs
  have hmem := Dict.mem_values_iff _ |>.2 ⟨i, hfind⟩
  rcases level.organization_or_toLevel with rfl | ⟨l, rfl⟩
  · exact hstate (h.active scope hscope).1
  · refine hstate ?_
    rw [← h.recordState_eq hmem hscope hid]
    exact ResourceScope.recordState_of_active hactive _

variable {organizations}

/-- One call of both registries. -/
theorem after_concat {calls pre : List ResourceScope} {scope : ResourceScope}
    (h : InMemoryReviewedResourceScopeRegistry.scopeRegistry.Along (Registrable organizations) .empty
      calls)
    (hpre : pre ++ [scope] <+: calls) (hrefines : Refines (postgresAfter organizations pre)
      (memoryAfter pre)) (horganizations : (postgresAfter organizations pre).organizations =
      organizations) :
    (∃ r, (memoryAfter pre).registerReviewed scope = .ok ((memoryAfter pre).store scope) ∧
        (postgresAfter organizations pre).registerReviewed scope = .ok r ∧
        memoryAfter (pre ++ [scope]) = (memoryAfter pre).store scope ∧
        postgresAfter organizations (pre ++ [scope]) = r ∧
        Refines r ((memoryAfter pre).store scope) ∧ r.organizations = organizations) ∨
      (¬ ∃ m, (memoryAfter pre).registerReviewed scope = .ok m) ∧
        (¬ ∃ r, (postgresAfter organizations pre).registerReviewed scope = .ok r) ∧
        memoryAfter (pre ++ [scope]) = memoryAfter pre ∧
        postgresAfter organizations (pre ++ [scope]) = postgresAfter organizations pre := by
  obtain ⟨post, hcalls⟩ := hpre
  have hrule := (InMemoryReviewedResourceScopeRegistry.scopeRegistry.along_iff .empty calls).1 h pre
    scope post (by rw [← hcalls]; simp)
  have hmemory : memoryAfter (pre ++ [scope]) = _ :=
    congrArg Prod.fst (ScopeRegistry.run_concat pre scope)
  have hpostgres : postgresAfter organizations (pre ++ [scope]) = _ :=
    congrArg Prod.fst (ScopeRegistry.run_concat pre scope)
  have hiff := hrefines.admits_iff (by rw [horganizations]; exact hrule)
  rcases InMemoryReviewedResourceScopeRegistry.scopeRegistry.call_cases
    (InMemoryReviewedResourceScopeRegistry.scopeRegistry.run .empty pre) scope with
    ⟨m, hm, hcall⟩ | ⟨hnot, hcall⟩
  · obtain ⟨hfree, rfl⟩ := InMemoryReviewedResourceScopeRegistry.registerReviewed_eq_ok_iff.1 hm
    obtain ⟨r, hr⟩ := PostgresReviewedResourceScopeRegistry.admits_iff.1 (hiff.2 hfree)
    have hregistrable := hrule hfree
    refine Or.inl ⟨r, hm, hr, ?_, ?_, ?_, ?_⟩
    · rw [hmemory, hcall]
      rfl
    · rw [hpostgres, PostgresReviewedResourceScopeRegistry.scopeRegistry.call_of_ok hr]
    · exact hrefines.registerReviewed (by rw [horganizations]; exact hregistrable) hfree hr
    · obtain ⟨-, -, -, hregistered⟩ :=
        PostgresReviewedResourceScopeRegistry.registerReviewed_eq_ok_iff.1 hr
      exact hregistered.organizations.trans horganizations
  · have hrefused : ¬ (postgresAfter organizations pre).Admits scope := mt hiff.1 hnot
    refine Or.inr ⟨?_, ?_, ?_, ?_⟩
    · exact fun hm => hnot ((ScopeRegistry.admits_iff _ _ _).2 hm)
    · exact fun hr => hrefused (PostgresReviewedResourceScopeRegistry.admits_iff.2 hr)
    · rw [hmemory, hcall]
      rfl
    · rw [hpostgres]
      have hsame := (PostgresReviewedResourceScopeRegistry.scopeRegistry.call_eq_self_iff
        (PostgresReviewedResourceScopeRegistry.scopeRegistry.run (.empty organizations) pre)
        scope).2 hrefused
      rw [hsame]
      rfl

/-- **The tables hold the scopes of the registry in memory** after every run of such calls. -/
theorem refines_after {calls : List ResourceScope}
    (h : InMemoryReviewedResourceScopeRegistry.scopeRegistry.Along (Registrable organizations) .empty
      calls) (pre : List ResourceScope) (hpre : pre <+: calls) :
    Refines (postgresAfter organizations pre) (memoryAfter pre) ∧
      (postgresAfter organizations pre).organizations = organizations := by
  induction pre using List.reverseRecOn with
  | nil => exact ⟨refines_empty organizations, rfl⟩
  | append_singleton pre scope ih =>
      obtain ⟨hrefines, horganizations⟩ := ih ((List.prefix_append _ _).trans hpre)
      rcases after_concat h hpre hrefines horganizations with
        ⟨r, -, -, hm, hr, hafter, hafterOrganizations⟩ | ⟨-, -, hm, hr⟩
      · rw [hm, hr]
        exact ⟨hafter, hafterOrganizations⟩
      · rw [hm, hr]
        exact ⟨hrefines, horganizations⟩

end Runs

/-- **The registries agree** in every run whose accepted calls bring the shared records as they
are. -/
theorem registries_agree
    (organizations : KeyedTable fun row : OrganizationRow => [row.organizationId])
    (calls : List ResourceScope)
    (h : InMemoryReviewedResourceScopeRegistry.scopeRegistry.Along (Registrable organizations) .empty
      calls) : RegistriesAgree organizations calls := by
  have hsteps := fun pre scope (hpre : pre ++ [scope] <+: calls) =>
    have hbefore := refines_after h pre ((List.prefix_append _ _).trans hpre)
    after_concat h hpre hbefore.1 hbefore.2
  refine ⟨?_, ?_, ?_⟩
  · intro pre scope hpre
    rcases hsteps pre scope hpre with ⟨r, hm, hr, -⟩ | ⟨hm, hr, -⟩
    · exact iff_of_true ⟨_, hm⟩ ⟨r, hr⟩
    · exact iff_of_false hm hr
  · intro pre hpre i hsend
    exact (refines_after h pre hpre).1.resolveActive_eq hsend
  · intro pre scope m level hpre hregister hstate i s hs
    rcases hsteps pre scope hpre with ⟨r, -, -, hm, hr, hrefines, -⟩ | ⟨hm, -⟩
    · obtain ⟨-, rfl⟩ := InMemoryReviewedResourceScopeRegistry.registerReviewed_eq_ok_iff.1 hregister
      have hscope : scope ∈ ((memoryAfter pre).store scope).byScopeId.values :=
        InMemoryReviewedResourceScopeRegistry.mem_values_store.2 (Or.inl rfl)
      refine hrefines.resolveActive_ne hscope hstate (i := i) ?_
      rcases hs with hs | hs
      · exact hs
      · rw [hr] at hs
        obtain ⟨-, hresolved⟩ := PostgresReviewedResourceScopeRegistry.resolveActive_eq_ok_iff.1 hs
        rw [← hrefines.resolvedScope_eq, hresolved]
    · exact absurd ⟨m, hregister⟩ hm

theorem registries_agree_siblings :
    RegistriesAgree activeOrganizations [checkoutScope, siblingScope "checkout" .active] := by
  have hactive : ∃ row : OrganizationRow, activeOrganizations.find? "org_acme" = some row ∧
      row.state = .active := ⟨⟨"org_acme", "Acme", .active, 0, some 1, by simp⟩, by decide, rfl⟩
  have hregistered : ∀ t ∈ (InMemoryReviewedResourceScopeRegistry.scopeRegistry.call
      (.empty, []) checkoutScope).1.byScopeId.values, t = checkoutScope := by
    decide
  refine registries_agree activeOrganizations _ ⟨fun _ => ?_, fun _ => ?_, trivial⟩
  · refine ⟨⟨?_, ?_, ?_⟩, rfl, hactive, by decide, by decide⟩
    · exact fun t ht => absurd ht List.not_mem_nil
    · exact fun t ht => absurd ht List.not_mem_nil
    · exact fun t ht => absurd ht List.not_mem_nil
  · refine ⟨⟨?_, ?_, ?_⟩, rfl, hactive, by decide, by decide⟩
    · intro t ht _ level
      rw [hregistered t ht]
      cases level <;> decide
    · intro t ht _ level
      rw [hregistered t ht]
      cases level <;> decide
    · intro t ht hsame
      rw [hregistered t ht] at hsame
      exact absurd hsame (by decide)

/-- **A project is suspended** with the test scope, and the production scope is resolved in memory
only. -/
theorem suspended_project_disagree :
    ¬ RegistriesAgree activeOrganizations [checkoutScope, siblingScope "checkout" .suspended] := by
  intro h
  have hsame := h.resolves _ (List.prefix_refl _) "scope_checkout_prod" (by decide)
  have hmemory : (memoryAfter [checkoutScope, siblingScope "checkout" .suspended]).resolveActive
      "scope_checkout_prod" = some checkoutScope := by
    decide
  have hpostgres : (postgresAfter activeOrganizations
      [checkoutScope, siblingScope "checkout" .suspended]).resolveActive "scope_checkout_prod" =
        .ok none := by
    decide +kernel
  rw [hmemory, hpostgres] at hsame
  cases hsame

end PlatformOps
