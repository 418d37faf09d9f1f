/-
**Resource Scopes in the database.**

The registry in the database keeps the records of the hierarchy in one table for each level, which
the scopes share.  A registration upserts the records of its scope, level by level, and the scope,
in one transaction: what exists gets a new slug and a new state, and keeps its parent.  A scope is
resolved by joining its row with the records it refers to, and its path is computed again from their
slugs.

Main definitions:

* `HierarchyTable`, `HierarchyTable.upsertRecord` — a table of one level;
* `PostgresReviewedResourceScopeRegistry` — the tables;
* `PostgresReviewedResourceScopeRegistry.registerReviewed`, `resolveActive` — the registry.

Main results:

* `PostgresReviewedResourceScopeRegistry.registerReviewed_eq_ok_iff` — **a registration is accepted
  exactly if its organization exists, its values can be stored and no constraint is violated**;
* `HierarchyTable.record?_upsertRecord`, `scope?_upsertScope` — what is stored afterwards.
-/

import PlatformOps.OnboardingTables
import PlatformOps.ResourceScope

set_option relaxedAutoImplicit false
set_option autoImplicit false

namespace PlatformOps

/-! ### The tables -/

/-- A row of a table of one level; the identifiers of the level have a least length. -/
structure HierarchyRow (minLength : ℕ) where
  recordId : String
  parentId : String
  slug : String
  state : ResourceScopeState
  recordId_length : minLength ≤ recordId.length
  deriving DecidableEq

/-- The unique keys of a table of one level. -/
inductive HierarchyKey
  | recordId (recordId : String)
  | slug (parentId slug : String)
  deriving DecidableEq

/-- The keys of a record: its identifier, and its slug below its parent. -/
def HierarchyRow.keys {n : ℕ} (row : HierarchyRow n) : List HierarchyKey :=
  [.recordId row.recordId, .slug row.parentId row.slug]

/-- `resource_scope_business_units`, `resource_scope_teams`, `resource_scope_projects` and
`resource_scope_environments`. -/
abbrev HierarchyTable (n : ℕ) := KeyedTable (@HierarchyRow.keys n)

/-- A row of `resource_scopes`. -/
@[ext] structure ScopeRow where
  scopeId : String
  organizationId : String
  organizationSlug : String
  businessUnitId : String
  teamId : String
  projectId : String
  environmentId : String
  canonicalPath : String
  state : ResourceScopeState
  version : ℕ
  scopeId_length : 8 ≤ scopeId.length
  organizationId_length : 5 ≤ organizationId.length
  version_pos : 1 ≤ version

instance : DecidableEq ScopeRow := fun _ _ =>
  decidable_of_iff _ ScopeRow.ext_iff.symm

/-- The unique keys of the scopes. -/
inductive ScopeKey
  | scopeId (scopeId : String)
  | canonicalPath (canonicalPath : String)
  | environmentId (environmentId : String)
  deriving DecidableEq

/-- The keys of a scope. -/
def ScopeRow.keys (row : ScopeRow) : List ScopeKey :=
  [.scopeId row.scopeId, .canonicalPath row.canonicalPath, .environmentId row.environmentId]

namespace HierarchyTable

variable {n : ℕ} {t t' : HierarchyTable n} {row : HierarchyRow n}

/-- The record with an identifier. -/
def record? (t : HierarchyTable n) (recordId : String) : Option (HierarchyRow n) :=
  t.find? (.recordId recordId)

/-- `INSERT … ON CONFLICT … DO UPDATE SET slug, state`. -/
def upsertRecord (t : HierarchyTable n) (row : HierarchyRow n) : Option (HierarchyTable n) :=
  t.upsert (.recordId row.recordId) row fun old => { old with slug := row.slug, state := row.state }

/-- The parent a record has, or gets if it is new. -/
def parentOf (t : HierarchyTable n) (row : HierarchyRow n) : String :=
  ((t.record? row.recordId).map (·.parentId)).getD row.parentId

/-- The record as it is stored: below the parent it has. -/
def stored (t : HierarchyTable n) (row : HierarchyRow n) : HierarchyRow n :=
  { row with parentId := t.parentOf row }

theorem mem_keys_recordId {a : HierarchyRow n} {recordId : String} :
    HierarchyKey.recordId recordId ∈ a.keys ↔ a.recordId = recordId := by
  simp [HierarchyRow.keys, eq_comm]

theorem record?_eq_some_iff {recordId : String} {a : HierarchyRow n} :
    t.record? recordId = some a ↔ a ∈ t.rows ∧ a.recordId = recordId := by
  unfold record?
  rw [KeyedTable.find?_eq_some_iff, mem_keys_recordId]

theorem merged_eq_stored : t.merged (.recordId row.recordId) row
    (fun old => { old with slug := row.slug, state := row.state }) = t.stored row := by
  unfold stored parentOf
  cases hfind : t.record? row.recordId with
  | none => exact KeyedTable.merged_of_none hfind
  | some old =>
      rw [KeyedTable.merged_of_find? hfind]
      have hid := (record?_eq_some_iff.1 hfind).2
      cases old
      cases row
      simp_all

/-- No other record has the slug below the parent. -/
def Admits (t : HierarchyTable n) (row : HierarchyRow n) : Prop :=
  ∀ a ∈ t.rows, a.recordId ≠ row.recordId → ¬ (a.parentId = t.parentOf row ∧ a.slug = row.slug)

instance (t : HierarchyTable n) (row : HierarchyRow n) : Decidable (t.Admits row) :=
  inferInstanceAs (Decidable (∀ a ∈ t.rows, _))

/-- **A record is accepted** unless its slug is taken below its parent. -/
theorem isSome_upsertRecord_iff : (t.upsertRecord row).isSome = true ↔ t.Admits row := by
  unfold upsertRecord Admits
  rw [KeyedTable.isSome_upsert_iff, merged_eq_stored]
  refine forall₂_congr fun a ha => ?_
  rw [mem_keys_recordId]
  refine imp_congr_right fun hne => ?_
  constructor
  · rintro h ⟨hparent, hslug⟩
    exact h (.slug a.parentId a.slug) (by simp [HierarchyRow.keys])
      (by simp [HierarchyRow.keys, stored, hparent, hslug])
  · intro h k hk hstored
    have hcases : k = .recordId a.recordId ∨ k = .slug a.parentId a.slug := by
      simpa [HierarchyRow.keys] using hk
    rcases hcases with rfl | rfl
    · exact hne (by simpa [HierarchyRow.keys, stored] using hstored)
    · exact h (by simpa [HierarchyRow.keys, stored] using hstored)

/-- **What is stored once a record is accepted.** -/
theorem record?_upsertRecord (h : t.upsertRecord row = some t') (recordId : String) :
    t'.record? recordId =
      if recordId = row.recordId then some (t.stored row) else t.record? recordId := by
  have hrows : ∀ a, a ∈ t'.rows ↔ a = t.stored row ∨ a ∈ t.rows ∧ a.recordId ≠ row.recordId := by
    intro a
    have hmem := KeyedTable.mem_rows_upsert h (a := a)
    rw [merged_eq_stored, mem_keys_recordId] at hmem
    exact hmem
  ext a
  by_cases hid : recordId = row.recordId
  · subst hid
    rw [if_pos rfl, record?_eq_some_iff, hrows]
    constructor
    · rintro ⟨rfl | ⟨-, hne⟩, hrow⟩
      · rfl
      · exact absurd hrow hne
    · intro ha
      cases ha
      exact ⟨Or.inl rfl, rfl⟩
  · rw [if_neg hid, record?_eq_some_iff, hrows, record?_eq_some_iff]
    constructor
    · rintro ⟨rfl | ⟨hmem, -⟩, hrow⟩
      · exact absurd hrow.symm hid
      · exact ⟨hmem, hrow⟩
    · rintro ⟨hmem, hrow⟩
      exact ⟨Or.inr ⟨hmem, fun heq => hid (hrow.symm.trans heq)⟩, hrow⟩

end HierarchyTable

/-! ### The registry -/

/-- The records of the hierarchy, and the scopes.  The organizations are those of the onboarding. -/
structure PostgresReviewedResourceScopeRegistry where
  organizations : KeyedTable fun row : OrganizationRow => [row.organizationId]
  businessUnits : HierarchyTable 4
  teams : HierarchyTable 5
  projects : HierarchyTable 8
  environments : HierarchyTable 4
  scopes : KeyedTable ScopeRow.keys

/-- The largest value of a column of type `INTEGER`. -/
def maxInteger : ℕ := 2147483647

/-- The row of a business unit. -/
def BusinessUnit.row (unit : BusinessUnit) : HierarchyRow 4 :=
  ⟨unit.businessUnitId, unit.organizationId, unit.slug, unit.state, unit.businessUnitId_length⟩

/-- The row of a team. -/
def Team.row (team : Team) : HierarchyRow 5 :=
  ⟨team.teamId, team.businessUnitId, team.slug, team.state, team.teamId_length⟩

/-- The row of a project. -/
def PlatformOpsProject.row (project : PlatformOpsProject) : HierarchyRow 8 :=
  ⟨project.projectId, project.teamId, project.slug, project.state, project.projectId_length⟩

/-- The row of an environment. -/
def Environment.row (environment : Environment) : HierarchyRow 4 :=
  ⟨environment.environmentId, environment.projectId, environment.slug, environment.state,
    environment.environmentId_length⟩

/-- The row of a scope. -/
def ResourceScope.row (scope : ResourceScope) : ScopeRow :=
  ⟨scope.scopeId, scope.organization.organizationId, scope.organization.slug,
    scope.businessUnit.businessUnitId, scope.team.teamId, scope.project.projectId,
    scope.environment.environmentId, scope.canonicalPath, scope.state, scope.version,
    scope.scopeId_length, scope.organization.organizationId_length, scope.version_pos⟩

/-- The texts of a row. -/
def HierarchyRow.texts {n : ℕ} (row : HierarchyRow n) : List String :=
  [row.recordId, row.parentId, row.slug]

/-- The texts of a scope. -/
def ScopeRow.texts (row : ScopeRow) : List String :=
  [row.scopeId, row.organizationId, row.organizationSlug, row.businessUnitId, row.teamId,
    row.projectId, row.environmentId, row.canonicalPath]

/-- `DuplicateCanonicalResourceScope`: a unique key is taken. -/
def duplicateCanonicalScope : CommandFault :=
  .valueError "DuplicateCanonicalResourceScope" duplicateCanonicalResourceScope

/-- What is raised if a version does not fit into its column. -/
def integerOutOfRange : CommandFault :=
  .databaseError "NumericValueOutOfRange" "integer out of range"

/-- Raise unless a condition holds. -/
def requireThat (condition : Prop) [Decidable condition] (fault : CommandFault) :
    Except CommandFault Unit :=
  if condition then .ok () else .error fault

/-- Raise unless texts can be sent. -/
def requireSendable (texts : List String) : Except CommandFault Unit :=
  requireThat (∀ text ∈ texts, Sendable text) unsendable

/-- The table after an upsert, or a violation of one of its constraints. -/
def requireUnique {α : Type} (result : Option α) : Except CommandFault α :=
  match result with
  | some a => .ok a
  | none => .error duplicateCanonicalScope

namespace PostgresReviewedResourceScopeRegistry

/-- The registry without scopes. -/
def empty (organizations : KeyedTable fun row : OrganizationRow => [row.organizationId]) :
    PostgresReviewedResourceScopeRegistry :=
  ⟨organizations, .empty, .empty, .empty, .empty, .empty⟩

/-- The scope with an identifier. -/
def scope? (r : PostgresReviewedResourceScopeRegistry) (scopeId : String) : Option ScopeRow :=
  r.scopes.find? (.scopeId scopeId)

/-- `INSERT INTO resource_scopes … ON CONFLICT (scope_id) DO UPDATE SET canonical_path, state,
version`. -/
def upsertScope (r : PostgresReviewedResourceScopeRegistry) (row : ScopeRow) :
    Option (KeyedTable ScopeRow.keys) :=
  r.scopes.upsert (.scopeId row.scopeId) row fun old =>
    { old with
      canonicalPath := row.canonicalPath
      state := row.state
      version := row.version
      version_pos := row.version_pos }

/-- `register_reviewed`. -/
def registerReviewed (r : PostgresReviewedResourceScopeRegistry) (scope : ResourceScope) :
    Except CommandFault PostgresReviewedResourceScopeRegistry := do
  requireSendable [scope.organization.organizationId]
  requireThat (r.organizations.find? scope.organization.organizationId ≠ none)
    (.valueError "ValueError" "Resource Scope organization must already exist")
  requireSendable scope.businessUnit.row.texts
  let businessUnits ← requireUnique (r.businessUnits.upsertRecord scope.businessUnit.row)
  requireSendable scope.team.row.texts
  let teams ← requireUnique (r.teams.upsertRecord scope.team.row)
  requireSendable scope.project.row.texts
  let projects ← requireUnique (r.projects.upsertRecord scope.project.row)
  requireSendable scope.environment.row.texts
  let environments ← requireUnique (r.environments.upsertRecord scope.environment.row)
  requireSendable scope.row.texts
  requireThat (scope.version ≤ maxInteger) integerOutOfRange
  let scopes ← requireUnique (r.upsertScope scope.row)
  .ok ⟨r.organizations, businessUnits, teams, projects, environments, scopes⟩

end PostgresReviewedResourceScopeRegistry

/-- The rows a scope is joined from. -/
structure ScopeRecords where
  scope : ScopeRow
  organization : OrganizationRow
  businessUnit : HierarchyRow 4
  team : HierarchyRow 5
  project : HierarchyRow 8
  environment : HierarchyRow 4
  deriving DecidableEq

namespace ScopeRecords

/-- All the rows are active. -/
def AllActive (records : ScopeRecords) : Prop :=
  records.scope.state = .active ∧ records.organization.state = .active ∧
    records.businessUnit.state = .active ∧ records.team.state = .active ∧
    records.project.state = .active ∧ records.environment.state = .active

instance (records : ScopeRecords) : Decidable records.AllActive :=
  inferInstanceAs (Decidable (_ ∧ _))

/-- The state of an organization as a state of the hierarchy: it is active where it is read. -/
def organizationState : OrganizationState → ResourceScopeState
  | .active => .active
  | .pending => .draft
  | .suspended => .suspended

/-- The scope of the rows.  The parents are those of the joined rows. -/
def resolved (records : ScopeRecords) : ResourceScope where
  scopeId := records.scope.scopeId
  organization := ⟨records.scope.organizationId, records.scope.organizationSlug,
    organizationState records.organization.state, records.scope.organizationId_length⟩
  businessUnit := ⟨records.businessUnit.recordId, records.scope.organizationId,
    records.businessUnit.slug, records.businessUnit.state, records.businessUnit.recordId_length⟩
  team := ⟨records.team.recordId, records.businessUnit.recordId, records.team.slug,
    records.team.state, records.team.recordId_length⟩
  project := ⟨records.project.recordId, records.team.recordId, records.project.slug,
    records.project.state, records.project.recordId_length⟩
  environment := ⟨records.environment.recordId, records.project.recordId, records.environment.slug,
    records.environment.state, records.environment.recordId_length⟩
  state := records.scope.state
  version := records.scope.version
  scopeId_length := records.scope.scopeId_length
  version_pos := records.scope.version_pos
  businessUnit_of_organization := rfl
  team_of_businessUnit := rfl
  project_of_team := rfl
  environment_of_project := rfl

end ScopeRecords

namespace PostgresReviewedResourceScopeRegistry

/-- The rows a scope is joined from, if they are all there. -/
def records? (r : PostgresReviewedResourceScopeRegistry) (scopeId : String) :
    Option ScopeRecords := do
  let scope ← r.scope? scopeId
  let organization ← r.organizations.find? scope.organizationId
  let businessUnit ← r.businessUnits.record? scope.businessUnitId
  let team ← r.teams.record? scope.teamId
  let project ← r.projects.record? scope.projectId
  let environment ← r.environments.record? scope.environmentId
  some ⟨scope, organization, businessUnit, team, project, environment⟩

/-- The scope of an identifier, if all its rows are there and active. -/
def resolvedScope (r : PostgresReviewedResourceScopeRegistry) (scopeId : String) :
    Option ResourceScope :=
  ((r.records? scopeId).filter fun records => records.AllActive).map ScopeRecords.resolved

/-- `resolve_active`. -/
def resolveActive (r : PostgresReviewedResourceScopeRegistry) (scopeId : String) :
    Except CommandFault (Option ResourceScope) := do
  requireSendable [scopeId]
  .ok (r.resolvedScope scopeId)

/-! ### When a registration is accepted -/

variable {r r' : PostgresReviewedResourceScopeRegistry} {scope : ResourceScope}

/-- A scope as it is stored: with the records it had first. -/
def storedScope (r : PostgresReviewedResourceScopeRegistry) (row : ScopeRow) : ScopeRow :=
  ((r.scope? row.scopeId).map fun old =>
    { old with
      canonicalPath := row.canonicalPath
      state := row.state
      version := row.version
      version_pos := row.version_pos }).getD row

/-- No other scope has the path, or the environment. -/
def AdmitsScope (r : PostgresReviewedResourceScopeRegistry) (row : ScopeRow) : Prop :=
  ∀ a ∈ r.scopes.rows, a.scopeId ≠ row.scopeId →
    a.canonicalPath ≠ row.canonicalPath ∧ a.environmentId ≠ (r.storedScope row).environmentId

instance (r : PostgresReviewedResourceScopeRegistry) (row : ScopeRow) :
    Decidable (r.AdmitsScope row) :=
  inferInstanceAs (Decidable (∀ a ∈ r.scopes.rows, _))

theorem mem_keys_scopeId {a : ScopeRow} {scopeId : String} :
    ScopeKey.scopeId scopeId ∈ a.keys ↔ a.scopeId = scopeId := by
  simp [ScopeRow.keys, eq_comm]

theorem scope?_eq_some_iff {scopeId : String} {a : ScopeRow} :
    r.scope? scopeId = some a ↔ a ∈ r.scopes.rows ∧ a.scopeId = scopeId := by
  unfold scope?
  rw [KeyedTable.find?_eq_some_iff, mem_keys_scopeId]

theorem scopeId_storedScope {row : ScopeRow} : (r.storedScope row).scopeId = row.scopeId := by
  unfold storedScope
  cases hfind : r.scope? row.scopeId with
  | none => rfl
  | some old => exact (scope?_eq_some_iff.1 hfind).2

theorem canonicalPath_storedScope {row : ScopeRow} :
    (r.storedScope row).canonicalPath = row.canonicalPath := by
  unfold storedScope
  cases r.scope? row.scopeId with
  | none => rfl
  | some old => rfl

/-- **A scope is accepted** unless its path or its environment is taken. -/
theorem isSome_upsertScope_iff {row : ScopeRow} :
    (r.upsertScope row).isSome = true ↔ r.AdmitsScope row := by
  unfold upsertScope AdmitsScope
  rw [KeyedTable.isSome_upsert_iff]
  have hmerged : r.scopes.merged (.scopeId row.scopeId) row (fun old =>
      { old with
        canonicalPath := row.canonicalPath
        state := row.state
        version := row.version
        version_pos := row.version_pos }) = r.storedScope row := rfl
  rw [hmerged]
  refine forall₂_congr fun a ha => ?_
  rw [mem_keys_scopeId]
  refine imp_congr_right fun hne => ?_
  constructor
  · intro h
    constructor
    · intro hpath
      exact h (.canonicalPath a.canonicalPath) (by simp [ScopeRow.keys])
        (by simp [ScopeRow.keys, canonicalPath_storedScope, hpath])
    · intro henvironment
      exact h (.environmentId a.environmentId) (by simp [ScopeRow.keys])
        (by simp [ScopeRow.keys, henvironment])
  · rintro ⟨hpath, henvironment⟩ k hk hstored
    have hcases : k = .scopeId a.scopeId ∨ k = .canonicalPath a.canonicalPath ∨
        k = .environmentId a.environmentId := by
      simpa [ScopeRow.keys] using hk
    rcases hcases with rfl | rfl | rfl
    · exact hne (by simpa [ScopeRow.keys, scopeId_storedScope] using hstored)
    · exact hpath (by simpa [ScopeRow.keys, canonicalPath_storedScope] using hstored)
    · exact henvironment (by simpa [ScopeRow.keys] using hstored)

/-- **What is stored once a scope is accepted.** -/
theorem scope?_upsertScope {row : ScopeRow} (h : r.upsertScope row = some r'.scopes)
    (scopeId : String) :
    r'.scope? scopeId = if scopeId = row.scopeId then some (r.storedScope row) else r.scope? scopeId := by
  have hrows : ∀ a, a ∈ r'.scopes.rows ↔
      a = r.storedScope row ∨ a ∈ r.scopes.rows ∧ a.scopeId ≠ row.scopeId := by
    intro a
    have hmem := KeyedTable.mem_rows_upsert h (a := a)
    rw [mem_keys_scopeId] at hmem
    exact hmem
  ext a
  by_cases hid : scopeId = row.scopeId
  · subst hid
    rw [if_pos rfl, scope?_eq_some_iff, hrows]
    constructor
    · rintro ⟨rfl | ⟨-, hne⟩, hrow⟩
      · rfl
      · exact absurd hrow hne
    · intro ha
      cases ha
      exact ⟨Or.inl rfl, scopeId_storedScope⟩
  · rw [if_neg hid, scope?_eq_some_iff, hrows, scope?_eq_some_iff]
    constructor
    · rintro ⟨rfl | ⟨hmem, -⟩, hrow⟩
      · exact absurd (hrow.symm.trans scopeId_storedScope) hid
      · exact ⟨hmem, hrow⟩
    · rintro ⟨hmem, hrow⟩
      exact ⟨Or.inr ⟨hmem, fun heq => hid (hrow.symm.trans heq)⟩, hrow⟩

end PostgresReviewedResourceScopeRegistry

/-- All the texts of a scope that are stored. -/
def ResourceScope.texts (scope : ResourceScope) : List String :=
  [scope.organization.organizationId] ++ scope.businessUnit.row.texts ++ scope.team.row.texts ++
    scope.project.row.texts ++ scope.environment.row.texts ++ scope.row.texts

namespace PostgresReviewedResourceScopeRegistry

variable {r r' : PostgresReviewedResourceScopeRegistry} {scope : ResourceScope}

/-- The organization exists, the values can be stored, and no key is taken. -/
structure Admits (r : PostgresReviewedResourceScopeRegistry) (scope : ResourceScope) : Prop where
  organization : r.organizations.find? scope.organization.organizationId ≠ none
  sendable : ∀ text ∈ scope.texts, Sendable text
  fits : scope.version ≤ maxInteger
  businessUnit : r.businessUnits.Admits scope.businessUnit.row
  team : r.teams.Admits scope.team.row
  project : r.projects.Admits scope.project.row
  environment : r.environments.Admits scope.environment.row
  scope : r.AdmitsScope scope.row

/-- The tables after a registration. -/
structure Registered (r r' : PostgresReviewedResourceScopeRegistry) (scope : ResourceScope) : Prop where
  organizations : r'.organizations = r.organizations
  businessUnits : r.businessUnits.upsertRecord scope.businessUnit.row = some r'.businessUnits
  teams : r.teams.upsertRecord scope.team.row = some r'.teams
  projects : r.projects.upsertRecord scope.project.row = some r'.projects
  environments : r.environments.upsertRecord scope.environment.row = some r'.environments
  scopes : r.upsertScope scope.row = some r'.scopes

end PostgresReviewedResourceScopeRegistry

section
variable {condition : Prop} [Decidable condition] {fault : CommandFault}

theorem requireThat_eq_ok_iff {u : Unit} : requireThat condition fault = .ok u ↔ condition := by
  unfold requireThat
  split
  · rename_i h
    exact iff_of_true rfl h
  · rename_i h
    exact iff_of_false (fun heq => by cases heq) h

theorem requireUnique_eq_ok_iff {α : Type} {result : Option α} {a : α} :
    requireUnique result = .ok a ↔ result = some a := by
  unfold requireUnique
  cases result with
  | none => exact iff_of_false (fun heq => by cases heq) (fun heq => by cases heq)
  | some b => simp

end

namespace PostgresReviewedResourceScopeRegistry

variable {r r' : PostgresReviewedResourceScopeRegistry} {scope : ResourceScope}

/-- **What a registration does** that is accepted. -/
theorem registerReviewed_eq_ok_iff : r.registerReviewed scope = .ok r' ↔
    r.organizations.find? scope.organization.organizationId ≠ none ∧
      (∀ text ∈ scope.texts, Sendable text) ∧ scope.version ≤ maxInteger ∧
      r.Registered r' scope := by
  unfold registerReviewed requireSendable
  simp only [bind_eq_ok_iff, requireThat_eq_ok_iff, requireUnique_eq_ok_iff, exists_and_left,
    exists_const]
  constructor
  · rintro ⟨horg, hexists, hunit, units, hunits, hteam, teams, hteams, hproject, projects, hprojects,
      henvironment, environments, henvironments, hscope, hfits, scopes, hscopes, heq⟩
    cases heq
    refine ⟨hexists, ?_, hfits, rfl, hunits, hteams, hprojects, henvironments, hscopes⟩
    intro text htext
    simp only [ResourceScope.texts, List.mem_append] at htext
    rcases htext with ((((htext | htext) | htext) | htext) | htext) | htext
    · exact horg text htext
    · exact hunit text htext
    · exact hteam text htext
    · exact hproject text htext
    · exact henvironment text htext
    · exact hscope text htext
  · rintro ⟨hexists, hsend, hfits, hregistered⟩
    have hsublist : ∀ {texts : List String}, (∀ text ∈ texts, text ∈ scope.texts) →
        ∀ text ∈ texts, Sendable text := fun h text htext => hsend text (h text htext)
    have horganizations := hregistered.organizations
    refine ⟨hsublist ?_, hexists, hsublist ?_, _, hregistered.businessUnits, hsublist ?_, _,
      hregistered.teams, hsublist ?_, _, hregistered.projects, hsublist ?_, _,
      hregistered.environments, hsublist ?_, hfits, _, hregistered.scopes, ?_⟩
    · intro text htext
      simp [ResourceScope.texts, List.mem_singleton.1 htext]
    · intro text htext
      simp [ResourceScope.texts, htext]
    · intro text htext
      simp [ResourceScope.texts, htext]
    · intro text htext
      simp [ResourceScope.texts, htext]
    · intro text htext
      simp [ResourceScope.texts, htext]
    · intro text htext
      simp [ResourceScope.texts, htext]
    · rw [← horganizations]

/-- **A registration is accepted** exactly if its organization exists, its values can be stored and
no key is taken. -/
theorem admits_iff : r.Admits scope ↔ ∃ r', r.registerReviewed scope = .ok r' := by
  constructor
  · intro h
    obtain ⟨units, hunits⟩ := Option.isSome_iff_exists.1
      (HierarchyTable.isSome_upsertRecord_iff.2 h.businessUnit)
    obtain ⟨teams, hteams⟩ := Option.isSome_iff_exists.1
      (HierarchyTable.isSome_upsertRecord_iff.2 h.team)
    obtain ⟨projects, hprojects⟩ := Option.isSome_iff_exists.1
      (HierarchyTable.isSome_upsertRecord_iff.2 h.project)
    obtain ⟨environments, henvironments⟩ := Option.isSome_iff_exists.1
      (HierarchyTable.isSome_upsertRecord_iff.2 h.environment)
    obtain ⟨scopes, hscopes⟩ := Option.isSome_iff_exists.1 (isSome_upsertScope_iff.2 h.scope)
    exact ⟨⟨r.organizations, units, teams, projects, environments, scopes⟩,
      registerReviewed_eq_ok_iff.2 ⟨h.organization, h.sendable, h.fits, rfl, hunits, hteams,
        hprojects, henvironments, hscopes⟩⟩
  · rintro ⟨r', h⟩
    obtain ⟨hexists, hsend, hfits, hregistered⟩ := registerReviewed_eq_ok_iff.1 h
    have hsome : ∀ {α : Type} {x : Option α} {a : α}, x = some a → x.isSome = true := by
      intro α x a hx
      rw [hx]
      rfl
    exact ⟨hexists, hsend, hfits,
      HierarchyTable.isSome_upsertRecord_iff.1 (hsome hregistered.businessUnits),
      HierarchyTable.isSome_upsertRecord_iff.1 (hsome hregistered.teams),
      HierarchyTable.isSome_upsertRecord_iff.1 (hsome hregistered.projects),
      HierarchyTable.isSome_upsertRecord_iff.1 (hsome hregistered.environments),
      isSome_upsertScope_iff.1 (hsome hregistered.scopes)⟩

/-! ### What is resolved -/

theorem records?_eq_some_iff {scopeId : String} {records : ScopeRecords} :
    r.records? scopeId = some records ↔
      r.scope? scopeId = some records.scope ∧
      r.organizations.find? records.scope.organizationId = some records.organization ∧
      r.businessUnits.record? records.scope.businessUnitId = some records.businessUnit ∧
      r.teams.record? records.scope.teamId = some records.team ∧
      r.projects.record? records.scope.projectId = some records.project ∧
      r.environments.record? records.scope.environmentId = some records.environment := by
  unfold records?
  constructor
  · intro h
    obtain ⟨scope, hscope, h⟩ := Option.bind_eq_some_iff.1 h
    obtain ⟨organization, horganization, h⟩ := Option.bind_eq_some_iff.1 h
    obtain ⟨unit, hunit, h⟩ := Option.bind_eq_some_iff.1 h
    obtain ⟨team, hteam, h⟩ := Option.bind_eq_some_iff.1 h
    obtain ⟨project, hproject, h⟩ := Option.bind_eq_some_iff.1 h
    obtain ⟨environment, henvironment, h⟩ := Option.bind_eq_some_iff.1 h
    cases h
    exact ⟨hscope, horganization, hunit, hteam, hproject, henvironment⟩
  · rintro ⟨hscope, horganization, hunit, hteam, hproject, henvironment⟩
    simp only [hscope, horganization, hunit, hteam, hproject, henvironment, Option.bind_eq_bind,
      Option.bind_some]

theorem resolveActive_eq_ok_iff {scopeId : String} {result : Option ResourceScope} :
    r.resolveActive scopeId = .ok result ↔ Sendable scopeId ∧ r.resolvedScope scopeId = result := by
  unfold resolveActive requireSendable
  simp only [bind_eq_ok_iff, requireThat_eq_ok_iff, exists_and_left, exists_const]
  simp

theorem resolvedScope_eq_some_iff {scopeId : String} {s : ResourceScope} :
    r.resolvedScope scopeId = some s ↔
      ∃ records, r.records? scopeId = some records ∧ records.AllActive ∧ records.resolved = s := by
  unfold resolvedScope
  simp only [Option.map_eq_some_iff, Option.filter_eq_some_iff, decide_eq_true_eq, and_assoc]

/-- The scope that is resolved has the identifiers of its row. -/
theorem ids_of_records {scopeId : String} {records : ScopeRecords}
    (h : r.records? scopeId = some records) :
    records.scope.scopeId = scopeId ∧
      records.businessUnit.recordId = records.scope.businessUnitId ∧
      records.team.recordId = records.scope.teamId ∧
      records.project.recordId = records.scope.projectId ∧
      records.environment.recordId = records.scope.environmentId := by
  obtain ⟨hscope, -, hunit, hteam, hproject, henvironment⟩ := records?_eq_some_iff.1 h
  exact ⟨(scope?_eq_some_iff.1 hscope).2, (HierarchyTable.record?_eq_some_iff.1 hunit).2,
    (HierarchyTable.record?_eq_some_iff.1 hteam).2,
    (HierarchyTable.record?_eq_some_iff.1 hproject).2,
    (HierarchyTable.record?_eq_some_iff.1 henvironment).2⟩

end PostgresReviewedResourceScopeRegistry

/-! ### The levels with a table -/

/-- The levels whose records are registered with a scope. -/
inductive RecordLevel
  | businessUnit
  | team
  | project
  | environment
  deriving DecidableEq

theorem RecordLevel.forall_iff {p : RecordLevel → Prop} :
    (p .businessUnit ∧ p .team ∧ p .project ∧ p .environment) ↔ ∀ level, p level := by
  constructor
  · rintro ⟨hunit, hteam, hproject, henvironment⟩ level
    cases level <;> assumption
  · intro h
    exact ⟨h _, h _, h _, h _⟩

instance {p : RecordLevel → Prop} [DecidablePred p] : Decidable (∀ level, p level) :=
  decidable_of_iff _ RecordLevel.forall_iff

/-- The least length of an identifier. -/
def RecordLevel.minLength : RecordLevel → ℕ
  | businessUnit => 4
  | team => 5
  | project => 8
  | environment => 4

/-- The record of a scope. -/
def ResourceScope.record (scope : ResourceScope) :
    (level : RecordLevel) → HierarchyRow level.minLength
  | .businessUnit => scope.businessUnit.row
  | .team => scope.team.row
  | .project => scope.project.row
  | .environment => scope.environment.row

/-- The identifier of the record of a row. -/
def ScopeRow.recordId (row : ScopeRow) : RecordLevel → String
  | .businessUnit => row.businessUnitId
  | .team => row.teamId
  | .project => row.projectId
  | .environment => row.environmentId

/-- The joined record. -/
def ScopeRecords.record (records : ScopeRecords) :
    (level : RecordLevel) → HierarchyRow level.minLength
  | .businessUnit => records.businessUnit
  | .team => records.team
  | .project => records.project
  | .environment => records.environment

theorem ResourceScope.recordId_row (scope : ResourceScope) (level : RecordLevel) :
    scope.row.recordId level = (scope.record level).recordId := by
  cases level <;> rfl

namespace PostgresReviewedResourceScopeRegistry

variable {r r' : PostgresReviewedResourceScopeRegistry} {scope : ResourceScope}

/-- The table of a level. -/
def table (r : PostgresReviewedResourceScopeRegistry) :
    (level : RecordLevel) → HierarchyTable level.minLength
  | .businessUnit => r.businessUnits
  | .team => r.teams
  | .project => r.projects
  | .environment => r.environments

theorem Registered.table (h : r.Registered r' scope) (level : RecordLevel) :
    (r.table level).upsertRecord (scope.record level) = some (r'.table level) := by
  cases level with
  | businessUnit => exact h.businessUnits
  | team => exact h.teams
  | project => exact h.projects
  | environment => exact h.environments

/-- The record of a level after a registration. -/
theorem Registered.record? (h : r.Registered r' scope) (level : RecordLevel) (recordId : String) :
    (r'.table level).record? recordId =
      if recordId = (scope.record level).recordId then
        some ((r.table level).stored (scope.record level))
      else (r.table level).record? recordId :=
  HierarchyTable.record?_upsertRecord (h.table level) recordId

theorem admits_of_tables
    (horganization : r.organizations.find? scope.organization.organizationId ≠ none)
    (hsendable : ∀ text ∈ scope.texts, Sendable text) (hfits : scope.version ≤ maxInteger)
    (htables : ∀ level, (r.table level).Admits (scope.record level))
    (hscope : r.AdmitsScope scope.row) : r.Admits scope :=
  ⟨horganization, hsendable, hfits, htables .businessUnit, htables .team, htables .project,
    htables .environment, hscope⟩

/-- A scope is joined from its row, its organization and its records. -/
theorem records?_eq_some_iff_record {scopeId : String} {records : ScopeRecords} :
    r.records? scopeId = some records ↔
      r.scope? scopeId = some records.scope ∧
      r.organizations.find? records.scope.organizationId = some records.organization ∧
      ∀ level, (r.table level).record? (records.scope.recordId level) =
        some (records.record level) := by
  rw [records?_eq_some_iff]
  constructor
  · rintro ⟨hscope, horganization, hunit, hteam, hproject, henvironment⟩
    refine ⟨hscope, horganization, fun level => ?_⟩
    cases level with
    | businessUnit => exact hunit
    | team => exact hteam
    | project => exact hproject
    | environment => exact henvironment
  · rintro ⟨hscope, horganization, hrecord⟩
    exact ⟨hscope, horganization, hrecord .businessUnit, hrecord .team, hrecord .project,
      hrecord .environment⟩

end PostgresReviewedResourceScopeRegistry

end PlatformOps
