/-
**The canonical paths in the database.**

The path of a scope is stored with it, where it is unique, and computed again from the slugs of its
records when the scope is resolved.  The records are shared: a registration gives a record that
exists a new slug, and the paths of the other scopes below it stay as they were.  A scope that is
registered again gets a new path, and keeps the organization, the slug of the organization and the
records it was registered with first.

Main definitions:

* `canonicalPathOf` — the path of some slugs;
* `PostgresReviewedResourceScopeRegistry.ConsistentPaths` — what is resolved has the stored path, and
  no two scopes are resolved to one path;
* `PostgresReviewedResourceScopeRegistry.KeepsSlugs` — a registration that renames nothing another
  scope is below, and a scope registered again under the slugs of its own records.

Main results:

* `PostgresReviewedResourceScopeRegistry.PathsStored.registerReviewed` — what such a registration
  keeps;
* `canonical_paths_consistent` — **the paths stay consistent as long as the slugs are kept**;
* `renamed_project_inconsistent` — a sibling renames the project, and the stored path stays.
-/

import PlatformOps.ScopeHierarchy

set_option relaxedAutoImplicit false
set_option autoImplicit false

namespace PlatformOps

/-- The path of the slugs of the records. -/
def canonicalPathOf (organizationSlug : String) (slug : RecordLevel → String) : String :=
  "org:" ++ organizationSlug ++ ":bu:" ++ slug .businessUnit ++ ":team:" ++ slug .team
    ++ ":project:" ++ slug .project ++ ":env:" ++ slug .environment

theorem ResourceScope.canonicalPath_eq (scope : ResourceScope) : scope.canonicalPath =
    canonicalPathOf scope.organization.slug fun level => (scope.record level).slug := rfl

theorem ScopeRecords.canonicalPath_resolved (records : ScopeRecords) :
    records.resolved.canonicalPath =
      canonicalPathOf records.scope.organizationSlug fun level => (records.record level).slug := rfl

namespace PostgresReviewedResourceScopeRegistry

variable {r r' : PostgresReviewedResourceScopeRegistry} {scope : ResourceScope}

/-- What the paths should be. -/
structure ConsistentPaths (r : PostgresReviewedResourceScopeRegistry) : Prop where
  stored : ∀ scopeId s, r.resolveActive scopeId = .ok (some s) →
    ∃ row, r.scope? scopeId = some row ∧ s.canonicalPath = row.canonicalPath
  distinct : ∀ i j s t, i ≠ j → r.resolveActive i = .ok (some s) → r.resolveActive j = .ok (some t) →
    s.canonicalPath ≠ t.canonicalPath

/-- The records of a scope have slugs, and their path is stored. -/
def HasPath (r : PostgresReviewedResourceScopeRegistry) (row : ScopeRow) : Prop :=
  ∃ slug : RecordLevel → String,
    (∀ level, ((r.table level).record? (row.recordId level)).map (·.slug) = some (slug level)) ∧
      row.canonicalPath = canonicalPathOf row.organizationSlug slug

/-- Every scope is stored with the path of its records. -/
def PathsStored (r : PostgresReviewedResourceScopeRegistry) : Prop :=
  ∀ scopeId row, r.scope? scopeId = some row → r.HasPath row

/-- A registration keeps the slugs of the records that another scope has, and a scope that is
registered again comes with the slugs of the records it has. -/
structure KeepsSlugs (r : PostgresReviewedResourceScopeRegistry) (scope : ResourceScope) :
    Prop where
  others : ∀ row ∈ r.scopes.rows, row.scopeId ≠ scope.scopeId → ∀ level,
    row.recordId level = (scope.record level).recordId →
      ∀ a ∈ (r.table level).record? (row.recordId level), a.slug = (scope.record level).slug
  itself : ∀ row ∈ r.scopes.rows, row.scopeId = scope.scopeId →
    row.organizationSlug = scope.organization.slug ∧ ∀ level,
      row.recordId level ≠ (scope.record level).recordId →
        ∀ a ∈ (r.table level).record? (row.recordId level), a.slug = (scope.record level).slug

instance (r : PostgresReviewedResourceScopeRegistry) (scope : ResourceScope) :
    Decidable (r.KeepsSlugs scope) :=
  decidable_of_iff
    ((∀ row ∈ r.scopes.rows, row.scopeId ≠ scope.scopeId → ∀ level,
      row.recordId level = (scope.record level).recordId →
        ∀ a ∈ (r.table level).record? (row.recordId level), a.slug = (scope.record level).slug) ∧
      ∀ row ∈ r.scopes.rows, row.scopeId = scope.scopeId →
        row.organizationSlug = scope.organization.slug ∧ ∀ level,
          row.recordId level ≠ (scope.record level).recordId →
            ∀ a ∈ (r.table level).record? (row.recordId level), a.slug = (scope.record level).slug)
    ⟨fun h => ⟨h.1, h.2⟩, fun h => ⟨h.others, h.itself⟩⟩

/-! ### What is resolved -/

/-- **The stored path is resolved** if every scope is stored with the path of its records. -/
theorem PathsStored.consistentPaths (h : r.PathsStored) : r.ConsistentPaths := by
  have hstored : ∀ scopeId s, r.resolveActive scopeId = .ok (some s) →
      ∃ row, r.scope? scopeId = some row ∧ s.canonicalPath = row.canonicalPath := by
    intro scopeId s hresolve
    obtain ⟨records, hrecords, -, rfl⟩ :=
      resolvedScope_eq_some_iff.1 (resolveActive_eq_ok_iff.1 hresolve).2
    obtain ⟨hscope, -, hrecord⟩ := records?_eq_some_iff_record.1 hrecords
    obtain ⟨slug, hslug, hpath⟩ := h scopeId records.scope hscope
    refine ⟨records.scope, hscope, ?_⟩
    rw [ScopeRecords.canonicalPath_resolved, hpath]
    congr 1
    funext level
    have hlevel := hslug level
    rw [hrecord level] at hlevel
    exact Option.some.inj hlevel
  refine ⟨hstored, ?_⟩
  intro i j s t hne hs ht heq
  obtain ⟨row, hrow, hpath⟩ := hstored i s hs
  obtain ⟨row', hrow', hpath'⟩ := hstored j t ht
  obtain ⟨hmem, hid⟩ := scope?_eq_some_iff.1 hrow
  obtain ⟨hmem', hid'⟩ := scope?_eq_some_iff.1 hrow'
  -- the path is a key, so that the two rows are one
  have hsame : row = row' := by
    refine r.scopes.eq_of_mem_keys hmem hmem' (k := .canonicalPath row.canonicalPath) ?_ ?_
    · simp [ScopeRow.keys]
    · simp [ScopeRow.keys, ← hpath, ← hpath', heq]
  rw [hsame] at hid
  exact hne (hid.symm.trans hid')

/-! ### What a registration keeps -/

/-- The slug of a record after a registration: the one that is registered, or the one before. -/
theorem Registered.slug (h : r.Registered r' scope) (level : RecordLevel) (recordId : String) :
    ((r'.table level).record? recordId).map (·.slug) =
      if recordId = (scope.record level).recordId then some (scope.record level).slug
      else ((r.table level).record? recordId).map (·.slug) := by
  rw [h.record? level recordId]
  split
  · rfl
  · rfl

/-- The path of another scope is kept. -/
theorem Registered.hasPath_of_ne (h : r.Registered r' scope) (hkeeps : r.KeepsSlugs scope)
    {row : ScopeRow} (hrow : row ∈ r.scopes.rows) (hne : row.scopeId ≠ scope.scopeId)
    (hpath : r.HasPath row) : r'.HasPath row := by
  obtain ⟨slug, hslug, heq⟩ := hpath
  refine ⟨slug, fun level => ?_, heq⟩
  rw [h.slug]
  split
  · rename_i hid
    obtain ⟨a, ha, haslug⟩ := Option.map_eq_some_iff.1 (hslug level)
    rw [← haslug, hkeeps.others row hrow hne level hid a ha]
  · exact hslug level

/-- The scope is stored with the path of its records. -/
theorem Registered.hasPath_storedScope (h : r.Registered r' scope) (hkeeps : r.KeepsSlugs scope)
    (hpaths : r.PathsStored) : r'.HasPath (r.storedScope scope.row) := by
  refine ⟨fun level => (scope.record level).slug, ?_⟩
  unfold storedScope
  cases hfind : r.scope? scope.row.scopeId with
  | none =>
      refine ⟨fun level => ?_, scope.canonicalPath_eq⟩
      rw [h.slug]
      exact if_pos (scope.recordId_row level)
  | some old =>
      obtain ⟨hmem, hid⟩ := scope?_eq_some_iff.1 hfind
      obtain ⟨hslug, hrecords⟩ := hkeeps.itself old hmem hid
      refine ⟨fun level => ?_, ?_⟩
      · have hold : ∀ row : ScopeRow, row.recordId level = old.recordId level →
            ((r'.table level).record? (row.recordId level)).map (·.slug) =
              some (scope.record level).slug := by
          intro row hrow
          rw [hrow, h.slug]
          split
          · rfl
          · rename_i hne
            obtain ⟨slug, hslug, -⟩ := hpaths _ old hfind
            obtain ⟨a, ha, -⟩ := Option.map_eq_some_iff.1 (hslug level)
            rw [ha, ← hrecords level hne a ha]
            rfl
        refine hold _ ?_
        cases level <;> rfl
      · exact scope.canonicalPath_eq.trans (congrArg (canonicalPathOf · _) hslug.symm)

/-- **A registration that keeps the slugs keeps the paths.** -/
theorem PathsStored.registerReviewed (hpaths : r.PathsStored) (hkeeps : r.KeepsSlugs scope)
    (h : r.registerReviewed scope = .ok r') : r'.PathsStored := by
  obtain ⟨-, -, -, hregistered⟩ := registerReviewed_eq_ok_iff.1 h
  intro scopeId row hrow
  rw [scope?_upsertScope hregistered.scopes] at hrow
  split at hrow
  · cases hrow
    exact hregistered.hasPath_storedScope hkeeps hpaths
  · rename_i hne
    obtain ⟨hmem, hid⟩ := scope?_eq_some_iff.1 hrow
    refine hregistered.hasPath_of_ne hkeeps hmem ?_ (hpaths scopeId row hrow)
    rw [hid]
    exact hne

theorem pathsStored_empty
    (organizations : KeyedTable fun row : OrganizationRow => [row.organizationId]) :
    (empty organizations).PathsStored := by
  intro scopeId row hrow
  exact absurd (scope?_eq_some_iff.1 hrow).1 List.not_mem_nil

end PostgresReviewedResourceScopeRegistry

open PostgresReviewedResourceScopeRegistry

/-- **The paths stay consistent** in every run whose accepted registrations keep the slugs. -/
theorem canonical_paths_consistent
    (organizations : KeyedTable fun row : OrganizationRow => [row.organizationId])
    (calls : List ResourceScope)
    (h : scopeRegistry.Along KeepsSlugs (.empty organizations) calls) :
    ∀ pre, pre <+: calls → (scopeRegistry.run (.empty organizations) pre).1.ConsistentPaths := by
  intro pre hpre
  refine PathsStored.consistentPaths (h.invariant (pathsStored_empty organizations) ?_ pre hpre)
  intro r scope r' hpaths hkeeps hregister
  exact hpaths.registerReviewed hkeeps hregister

/-- A test scope next to `checkoutScope`, in the same project. -/
def siblingScope (projectSlug : String) (projectState : ResourceScopeState) : ResourceScope :=
  { checkoutScope with
    scopeId := "scope_checkout_test"
    project := { checkoutProject with slug := projectSlug, state := projectState }
    environment := strayScope.environment
    scopeId_length := by decide
    project_of_team := rfl
    environment_of_project := rfl }

theorem canonical_paths_consistent_siblings :
    (scopeRegistry.run (.empty activeOrganizations)
      [checkoutScope, siblingScope "checkout" .active]).1.ConsistentPaths := by
  refine canonical_paths_consistent activeOrganizations
    [checkoutScope, siblingScope "checkout" .active] ⟨fun _ => ?_, fun _ => ?_, trivial⟩ _
    (List.prefix_refl _)
  · decide
  · decide

/-- `checkoutScope` under another slug of its organization. -/
def renamedOrganization : ResourceScope :=
  { checkoutScope with
    organization := { checkoutScope.organization with slug := "acme-corp" }
    businessUnit_of_organization := rfl }

/-- A scope of another organization, under the slugs of `checkoutScope`. -/
def secondAcme : ResourceScope where
  scopeId := "scope_globex_prod"
  organization := { strayScope.organization with slug := "acme" }
  businessUnit := ⟨"bu_globex", "org_globex", "commerce", .active, by decide⟩
  team := ⟨"team_globex", "bu_globex", "payments", .active, by decide⟩
  project := ⟨"project_globex", "team_globex", "checkout", .active, by decide⟩
  environment := ⟨"env_globex", "project_globex", "prod", .active, by decide⟩
  state := .active
  version := 1
  scopeId_length := by decide
  version_pos := Nat.one_pos
  businessUnit_of_organization := rfl
  team_of_businessUnit := rfl
  project_of_team := rfl
  environment_of_project := rfl

/-- **A sibling renames the project**: the first scope is resolved with a path that is not stored.
And **two scopes are resolved to one path**, once the organization of the first one was renamed. -/
theorem renamed_project_inconsistent :
    ¬ (scopeRegistry.run (.empty activeOrganizations)
        [checkoutScope, siblingScope "checkout2" .active]).1.ConsistentPaths ∧
      ∃ s t, (scopeRegistry.run (.empty activeOrganizations)
          [checkoutScope, renamedOrganization, secondAcme]).1.resolveActive "scope_checkout_prod" =
            .ok (some s) ∧
        (scopeRegistry.run (.empty activeOrganizations)
          [checkoutScope, renamedOrganization, secondAcme]).1.resolveActive "scope_globex_prod" =
            .ok (some t) ∧
        s.canonicalPath = t.canonicalPath := by
  constructor
  · intro h
    obtain ⟨row, hrow, hpath⟩ := h.stored "scope_checkout_prod"
      { checkoutScope with
        project := ⟨"project_checkout", "team_payments", "checkout2", .active, by decide⟩
        project_of_team := rfl
        environment_of_project := rfl }
      (by decide)
    have hstored : (scopeRegistry.run (.empty activeOrganizations)
        [checkoutScope, siblingScope "checkout2" .active]).1.scope? "scope_checkout_prod" =
          some checkoutScope.row := by
      decide
    rw [hstored] at hrow
    cases hrow
    exact absurd hpath (by decide)
  · exact ⟨checkoutScope, secondAcme, by decide +kernel, by decide +kernel, by decide⟩

end PlatformOps
