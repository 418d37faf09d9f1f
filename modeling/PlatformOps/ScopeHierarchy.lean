/-
**The hierarchy of the registered scopes.**

Every scope brings its own hierarchy, so that the registered scopes make up a forest only if no
record is registered below two parents.  Neither registry compares the parents: the one in memory
keeps every scope as it is, and the one in the database leaves the parent of a record that exists as
it was, and stores the identifiers with the scope.  What is refused is a path, a slug below a parent
or an environment that another one has.  So a record may come below a second parent, and an
inherited role binding reach the scopes of two organizations.

Main definitions:

* `HierarchyLevel`, `ResourceScope.recordId` — the levels, and the record of a scope on each;
* `ResourceScope.Compatible`, `Forest` — no record has two parents;
* `ScopeRegistry` — a registry, and when it accepts a registration;
* `ScopeRegistry.run` — the registry after some calls, and the scopes it has accepted;
* `ScopeRegistry.KeepsForest` — what the registered hierarchy should be;
* `ScopeRegistry.Compliant` — no call that puts a record below a second parent passes the checks;
* `ScopeRegistry.KeepsParents` — no call puts a record below a second parent.

Main results:

* `Forest.organization_eq` — in a forest, a record belongs to one organization;
* `keepsForest_iff`, `registered_hierarchy_iff` — both registries keep a forest exactly in the
  compliant runs;
* `registered_hierarchy_of_keepsParents` — **both registries keep a forest in every state of a run
  whose calls put no accepted record below a second parent**.
-/

import PlatformOps.PostgresScopeRegistry
import PlatformOps.ScopeAccess

set_option relaxedAutoImplicit false
set_option autoImplicit false

namespace PlatformOps

/-! ### Forests -/

/-- The levels of the hierarchy. -/
inductive HierarchyLevel
  | organization
  | businessUnit
  | team
  | project
  | environment
  deriving DecidableEq

/-- The level above. -/
def HierarchyLevel.parent : HierarchyLevel → HierarchyLevel
  | organization => organization
  | businessUnit => organization
  | team => businessUnit
  | project => team
  | environment => project

/-- The record of a scope on a level. -/
def ResourceScope.recordId (scope : ResourceScope) : HierarchyLevel → String
  | .organization => scope.organization.organizationId
  | .businessUnit => scope.businessUnit.businessUnitId
  | .team => scope.team.teamId
  | .project => scope.project.projectId
  | .environment => scope.environment.environmentId

/-- A record of both scopes has one parent. -/
def ResourceScope.Compatible (a b : ResourceScope) : Prop :=
  ∀ level, a.recordId level = b.recordId level → a.recordId level.parent = b.recordId level.parent

/-- No record has two parents. -/
def Forest (scopes : List ResourceScope) : Prop := ∀ a ∈ scopes, ∀ b ∈ scopes, a.Compatible b

/-- A scope puts a record that is there below another parent. -/
def Conflicts (scopes : List ResourceScope) (scope : ResourceScope) : Prop :=
  ∃ a ∈ scopes, ¬ a.Compatible scope

namespace ResourceScope.Compatible

theorem refl (a : ResourceScope) : a.Compatible a := fun _ _ => rfl

theorem symm {a b : ResourceScope} (h : a.Compatible b) : b.Compatible a :=
  fun level heq => (h level heq.symm).symm

/-- Compatible scopes that have a record in common are of one organization. -/
theorem organization_eq {a b : ResourceScope} (h : a.Compatible b) {level : HierarchyLevel}
    (heq : a.recordId level = b.recordId level) :
    a.recordId .organization = b.recordId .organization := by
  cases level with
  | organization => exact heq
  | businessUnit => exact h .businessUnit heq
  | team => exact h .businessUnit (h .team heq)
  | project => exact h .businessUnit (h .team (h .project heq))
  | environment => exact h .businessUnit (h .team (h .project (h .environment heq)))

/-- Compatibility depends on the records only. -/
theorem congr {a a' b b' : ResourceScope} (h : a.Compatible b) (ha : a'.recordId = a.recordId)
    (hb : b'.recordId = b.recordId) : a'.Compatible b' := by
  intro level heq
  rw [ha, hb] at heq ⊢
  exact h level heq

end ResourceScope.Compatible

theorem forest_nil : Forest [] := fun _ ha => absurd ha List.not_mem_nil

/-- **A forest grows** by a scope that does not conflict with it. -/
theorem forest_concat_iff {scopes : List ResourceScope} {scope : ResourceScope} :
    Forest (scopes ++ [scope]) ↔ Forest scopes ∧ ¬ Conflicts scopes scope := by
  constructor
  · intro h
    constructor
    · intro a ha b hb
      exact h a (List.mem_append_left _ ha) b (List.mem_append_left _ hb)
    · rintro ⟨a, ha, hnot⟩
      exact hnot (h a (List.mem_append_left _ ha) scope (List.mem_append_right _ (by simp)))
  · rintro ⟨h, hnot⟩ a ha b hb
    have hnew : ∀ c ∈ scopes, c.Compatible scope := by
      intro c hc
      by_contra hconflict
      exact hnot ⟨c, hc, hconflict⟩
    rcases List.mem_append.1 ha with ha | ha
    · rcases List.mem_append.1 hb with hb | hb
      · exact h a ha b hb
      · rw [List.mem_singleton.1 hb]
        exact hnew a ha
    · rw [List.mem_singleton.1 ha]
      rcases List.mem_append.1 hb with hb | hb
      · exact (hnew b hb).symm
      · rw [List.mem_singleton.1 hb]
        exact .refl scope

/-! ### Inherited bindings -/

/-- The level of a target that is a record with descendants. -/
def ScopeBindingTargetKind.level? : ScopeBindingTargetKind → Option HierarchyLevel
  | .scope => none
  | .organization => some .organization
  | .businessUnit => some .businessUnit
  | .team => some .team
  | .project => some .project
  | .environment => none

/-- The target reaches the scope from one of its ancestors. -/
def Inherits (target : ScopeBindingTarget) (scope : ResourceScope) : Prop :=
  target.kind.level? ≠ none ∧ targetMatches target scope = true

theorem targetMatches_of_level {target : ScopeBindingTarget} {level : HierarchyLevel}
    (h : target.kind.level? = some level) (scope : ResourceScope) :
    targetMatches target scope =
      (target.inheritToDescendants && decide (scope.recordId level = target.resourceId)) := by
  unfold targetMatches
  cases hkind : target.kind with
  | scope => simp [hkind, ScopeBindingTargetKind.level?] at h
  | environment => simp [hkind, ScopeBindingTargetKind.level?] at h
  | organization =>
      obtain rfl : HierarchyLevel.organization = level := by
        simpa [hkind, ScopeBindingTargetKind.level?] using h
      rfl
  | businessUnit =>
      obtain rfl : HierarchyLevel.businessUnit = level := by
        simpa [hkind, ScopeBindingTargetKind.level?] using h
      rfl
  | team =>
      obtain rfl : HierarchyLevel.team = level := by
        simpa [hkind, ScopeBindingTargetKind.level?] using h
      rfl
  | project =>
      obtain rfl : HierarchyLevel.project = level := by
        simpa [hkind, ScopeBindingTargetKind.level?] using h
      rfl

/-- A target that reaches a scope from above is one of its ancestors. -/
theorem Inherits.recordId_eq {target : ScopeBindingTarget} {scope : ResourceScope}
    (h : Inherits target scope) :
    ∃ level, target.kind.level? = some level ∧ scope.recordId level = target.resourceId := by
  obtain ⟨hkind, hmatches⟩ := h
  obtain ⟨level, hlevel⟩ := Option.ne_none_iff_exists'.1 hkind
  rw [targetMatches_of_level hlevel] at hmatches
  exact ⟨level, hlevel, of_decide_eq_true (Bool.and_eq_true_iff.1 hmatches).2⟩

/-- A target reaches a scope by its records. -/
theorem Inherits.congr {target : ScopeBindingTarget} {a b : ResourceScope} (h : Inherits target a)
    (hids : a.recordId = b.recordId) : Inherits target b := by
  obtain ⟨hkind, hmatches⟩ := h
  obtain ⟨level, hlevel⟩ := Option.ne_none_iff_exists'.1 hkind
  refine ⟨hkind, ?_⟩
  rw [targetMatches_of_level hlevel] at hmatches ⊢
  rw [← hids]
  exact hmatches

/-- **In a forest, an inherited binding reaches one organization.** -/
theorem Forest.organization_eq {scopes : List ResourceScope} (h : Forest scopes)
    {target : ScopeBindingTarget} {a b : ResourceScope} (ha : a ∈ scopes) (hb : b ∈ scopes)
    (hreachesA : Inherits target a) (hreachesB : Inherits target b) :
    a.recordId .organization = b.recordId .organization := by
  obtain ⟨level, hlevel, hid⟩ := hreachesA.recordId_eq
  obtain ⟨level', hlevel', hid'⟩ := hreachesB.recordId_eq
  rw [hlevel] at hlevel'
  cases hlevel'
  exact (h a ha b hb).organization_eq (hid.trans hid'.symm)

/-! ### Registries and their runs -/

/-- A registry of reviewed scopes: what a registration does, when it is accepted, and what is
resolved. -/
structure ScopeRegistry (σ ε : Type) where
  registerReviewed : σ → ResourceScope → Except ε σ
  Admits : σ → ResourceScope → Prop
  resolved : σ → String → Option ResourceScope
  admits_iff : ∀ s scope, Admits s scope ↔ ∃ s', registerReviewed s scope = .ok s'

namespace ScopeRegistry

variable {σ ε : Type} (registry : ScopeRegistry σ ε) (start : σ)

/-- One call: a registration that is refused changes nothing. -/
def call (state : σ × List ResourceScope) (scope : ResourceScope) : σ × List ResourceScope :=
  match registry.registerReviewed state.1 scope with
  | .ok s => (s, state.2 ++ [scope])
  | .error _ => state

/-- The registry after some calls, and the scopes it has accepted. -/
def run (calls : List ResourceScope) : σ × List ResourceScope := calls.foldl registry.call (start, [])

/-- The registered hierarchy is a forest: no record has two parents, a registration that would give
it a second one is refused and changes nothing, and an inherited binding reaches one organization. -/
structure KeepsForest (calls : List ResourceScope) : Prop where
  forest : Forest (registry.run start calls).2
  refused : ∀ pre scope post, calls = pre ++ scope :: post →
    Conflicts (registry.run start pre).2 scope →
      registry.run start (pre ++ [scope]) = registry.run start pre
  inherited : ∀ target i j a b, registry.resolved (registry.run start calls).1 i = some a →
    registry.resolved (registry.run start calls).1 j = some b → Inherits target a →
    Inherits target b → a.recordId .organization = b.recordId .organization

/-- No call that puts a record below a second parent passes the checks of the registry. -/
def Compliant (calls : List ResourceScope) : Prop :=
  ∀ pre scope post, calls = pre ++ scope :: post → Conflicts (registry.run start pre).2 scope →
    ¬ registry.Admits (registry.run start pre).1 scope

/-- No call puts a record of a scope that was accepted before below a second parent. -/
def KeepsParents (calls : List ResourceScope) : Prop :=
  ∀ pre scope post, calls = pre ++ scope :: post → ¬ Conflicts (registry.run start pre).2 scope

/-- What is resolved has the records of a scope that was accepted. -/
def ResolvesAccepted : Prop :=
  ∀ calls i a, registry.resolved (registry.run start calls).1 i = some a →
    ∃ b ∈ (registry.run start calls).2, a.recordId = b.recordId

variable {registry start}

theorem run_concat (calls : List ResourceScope) (scope : ResourceScope) :
    registry.run start (calls ++ [scope]) = registry.call (registry.run start calls) scope := by
  unfold run
  rw [List.foldl_append]
  rfl

theorem call_of_ok (registry : ScopeRegistry σ ε) {state : σ × List ResourceScope}
    {scope : ResourceScope} {s : σ} (h : registry.registerReviewed state.1 scope = .ok s) :
    registry.call state scope = (s, state.2 ++ [scope]) := by
  unfold call
  rw [h]

/-- A call is accepted, or changes nothing. -/
theorem call_cases (registry : ScopeRegistry σ ε) (state : σ × List ResourceScope)
    (scope : ResourceScope) :
    (∃ s, registry.registerReviewed state.1 scope = .ok s ∧
        registry.call state scope = (s, state.2 ++ [scope])) ∨
      ¬ registry.Admits state.1 scope ∧ registry.call state scope = state := by
  cases h : registry.registerReviewed state.1 scope with
  | ok s => exact Or.inl ⟨s, rfl, registry.call_of_ok h⟩
  | error e =>
      refine Or.inr ⟨fun hadmits => ?_, by unfold call; rw [h]⟩
      obtain ⟨s, hs⟩ := (registry.admits_iff _ _).1 hadmits
      rw [h] at hs
      cases hs

theorem call_eq_self_iff (state : σ × List ResourceScope) (scope : ResourceScope) :
    registry.call state scope = state ↔ ¬ registry.Admits state.1 scope := by
  rcases registry.call_cases state scope with ⟨s, hs, hcall⟩ | ⟨hnot, hcall⟩
  · refine iff_of_false (fun heq => ?_) fun hnot => hnot ((registry.admits_iff _ _).2 ⟨s, hs⟩)
    rw [hcall] at heq
    have hlength := congrArg (fun p => p.2.length) heq
    simp at hlength
  · exact iff_of_true hcall hnot

/-- Compliant runs end in compliant runs. -/
theorem Compliant.of_concat {calls : List ResourceScope} {scope : ResourceScope}
    (h : registry.Compliant start (calls ++ [scope])) : registry.Compliant start calls := by
  intro pre scope' post hcalls
  exact h pre scope' (post ++ [scope]) (by rw [hcalls]; simp)

/-- **In a compliant run, the accepted scopes are a forest.** -/
theorem Compliant.forest {calls : List ResourceScope} (h : registry.Compliant start calls) :
    Forest (registry.run start calls).2 := by
  induction calls using List.reverseRecOn with
  | nil => exact forest_nil
  | append_singleton calls scope ih =>
      have hforest := ih h.of_concat
      rw [run_concat]
      rcases registry.call_cases (registry.run start calls) scope with
        ⟨s, hs, hcall⟩ | ⟨-, hcall⟩
      · rw [hcall]
        refine forest_concat_iff.2 ⟨hforest, fun hconflicts => ?_⟩
        exact h calls scope [] rfl hconflicts ((registry.admits_iff _ _).2 ⟨s, hs⟩)
      · rw [hcall]
        exact hforest

/-- **A registry that resolves what it has accepted keeps a forest exactly in the compliant
runs.** -/
theorem keepsForest_iff (hresolves : registry.ResolvesAccepted start) (calls : List ResourceScope) :
    registry.KeepsForest start calls ↔ registry.Compliant start calls := by
  constructor
  · intro h pre scope post hcalls hconflicts
    have hrefused := h.refused pre scope post hcalls hconflicts
    rw [run_concat] at hrefused
    exact (call_eq_self_iff _ _).1 hrefused
  · intro h
    refine ⟨h.forest, ?_, ?_⟩
    · intro pre scope post hcalls hconflicts
      rw [run_concat]
      exact (call_eq_self_iff _ _).2 (h pre scope post hcalls hconflicts)
    · intro target i j a b ha hb hreachesA hreachesB
      obtain ⟨a', ha', hidsA⟩ := hresolves calls i a ha
      obtain ⟨b', hb', hidsB⟩ := hresolves calls j b hb
      rw [hidsA, hidsB]
      exact h.forest.organization_eq ha' hb' (hreachesA.congr hidsA) (hreachesB.congr hidsB)

/-- What holds of the calls of a run holds of those made so far. -/
theorem KeepsParents.of_prefix {calls pre : List ResourceScope}
    (h : registry.KeepsParents start calls) (hpre : pre <+: calls) :
    registry.KeepsParents start pre := by
  obtain ⟨rest, rfl⟩ := hpre
  intro before scope post hpre
  exact h before scope (post ++ rest) (by rw [hpre]; simp)

/-- Only what was called for is accepted. -/
theorem accepted_subset (registry : ScopeRegistry σ ε) (start : σ) (calls : List ResourceScope) :
    (registry.run start calls).2 ⊆ calls := by
  induction calls using List.reverseRecOn with
  | nil => exact List.Subset.refl _
  | append_singleton calls scope ih =>
      rw [run_concat]
      rcases registry.call_cases (registry.run start calls) scope with ⟨s, -, hcall⟩ | ⟨-, hcall⟩
      · rw [hcall]
        exact List.append_subset.2
          ⟨List.subset_append_of_subset_left _ ih, List.subset_append_right _ _⟩
      · rw [hcall]
        exact List.subset_append_of_subset_left _ ih

/-- Calls that make up a forest keep the parents. -/
theorem keepsParents_of_forest (registry : ScopeRegistry σ ε) (start : σ)
    {calls : List ResourceScope} (h : Forest calls) : registry.KeepsParents start calls := by
  rintro pre scope post rfl ⟨a, ha, hnot⟩
  exact hnot (h a (List.mem_append_left _ (accepted_subset registry start pre ha)) scope (by simp))

/-- **Calls that keep the parents keep a forest.** -/
theorem KeepsParents.keepsForest (hresolves : registry.ResolvesAccepted start)
    {calls : List ResourceScope} (h : registry.KeepsParents start calls) :
    registry.KeepsForest start calls := by
  refine (keepsForest_iff hresolves calls).2 fun pre scope post hcalls hconflicts => ?_
  exact absurd hconflicts (h pre scope post hcalls)

/-- **What every registration keeps** holds after every run. -/
theorem run_induction (registry : ScopeRegistry σ ε) (start : σ)
    {motive : σ → List ResourceScope → Prop} (hstart : motive start [])
    (hstep : ∀ s accepted scope s', motive s accepted → registry.registerReviewed s scope = .ok s' →
      motive s' (accepted ++ [scope])) (calls : List ResourceScope) :
    motive (registry.run start calls).1 (registry.run start calls).2 := by
  induction calls using List.reverseRecOn with
  | nil => exact hstart
  | append_singleton calls scope ih =>
      rw [run_concat]
      rcases registry.call_cases (registry.run start calls) scope with
        ⟨s, hs, hcall⟩ | ⟨-, hcall⟩
      · rw [hcall]
        exact hstep _ _ scope s ih hs
      · rw [hcall]
        exact ih

/-! ### Runs under a rule -/

/-- Every call that is accepted meets a rule. -/
def Along (registry : ScopeRegistry σ ε) (rule : σ → ResourceScope → Prop) :
    σ → List ResourceScope → Prop
  | _, [] => True
  | s, scope :: calls =>
      (registry.Admits s scope → rule s scope) ∧
        Along registry rule (registry.call (s, []) scope).1 calls

/-- What is accepted does not matter for what follows. -/
theorem call_fst (registry : ScopeRegistry σ ε) (state : σ × List ResourceScope)
    (scope : ResourceScope) : (registry.call state scope).1 = (registry.call (state.1, []) scope).1 := by
  unfold call
  cases registry.registerReviewed state.1 scope <;> rfl

theorem along_iff (registry : ScopeRegistry σ ε) {rule : σ → ResourceScope → Prop} (start : σ)
    (calls : List ResourceScope) : registry.Along rule start calls ↔
      ∀ pre scope post, calls = pre ++ scope :: post →
        registry.Admits (registry.run start pre).1 scope → rule (registry.run start pre).1 scope := by
  have hfoldl : ∀ (pre : List ResourceScope) (state state' : σ × List ResourceScope),
      state.1 = state'.1 → (pre.foldl registry.call state).1 = (pre.foldl registry.call state').1 := by
    intro pre
    induction pre with
    | nil => exact fun _ _ h => h
    | cons scope pre ih =>
        intro state state' h
        exact ih _ _ (by rw [call_fst, call_fst registry state', h])
  induction calls generalizing start with
  | nil => simp [Along]
  | cons scope calls ih =>
      unfold Along
      refine Iff.trans (and_congr_right fun _ => ih _) ?_
      constructor
      · rintro ⟨hfirst, hrest⟩ pre scope' post heq
        cases pre with
        | nil =>
            obtain ⟨rfl, rfl⟩ := List.cons.inj heq
            exact hfirst
        | cons a pre =>
            obtain ⟨rfl, rfl⟩ := List.cons.inj heq
            have hrun : (registry.run start (scope :: pre)).1 =
                (registry.run (registry.call (start, []) scope).1 pre).1 := hfoldl pre _ _ rfl
            rw [hrun]
            exact hrest pre scope' post rfl
      · intro h
        refine ⟨h [] scope calls rfl, ?_⟩
        intro pre scope' post heq
        have hrun : (registry.run start (scope :: pre)).1 =
            (registry.run (registry.call (start, []) scope).1 pre).1 := hfoldl pre _ _ rfl
        rw [← hrun]
        exact h (scope :: pre) scope' post (by rw [heq]; rfl)

/-- **What every call that meets the rule keeps** holds in every state that is reached. -/
theorem Along.invariant {registry : ScopeRegistry σ ε} {rule : σ → ResourceScope → Prop} {start : σ}
    {calls : List ResourceScope} (h : registry.Along rule start calls) {invariant : σ → Prop}
    (hstart : invariant start)
    (hstep : ∀ s scope s', invariant s → rule s scope → registry.registerReviewed s scope = .ok s' →
      invariant s') :
    ∀ pre, pre <+: calls → invariant (registry.run start pre).1 := by
  intro pre
  induction pre using List.reverseRecOn with
  | nil => exact fun _ => hstart
  | append_singleton pre scope ih =>
      rintro ⟨post, hcalls⟩
      have hinvariant := ih ⟨scope :: post, by rw [← hcalls]; simp⟩
      rw [run_concat]
      rcases registry.call_cases (registry.run start pre) scope with ⟨s, hs, hcall⟩ | ⟨-, hcall⟩
      · rw [hcall]
        refine hstep _ scope s hinvariant ?_ hs
        exact (registry.along_iff start calls).1 h pre scope post (by rw [← hcalls]; simp)
          ((registry.admits_iff _ _).2 ⟨s, hs⟩)
      · rw [hcall]
        exact hinvariant

end ScopeRegistry

/-! ### The registry in memory -/

namespace InMemoryReviewedResourceScopeRegistry

/-- The registry in memory: only a path that another scope has is refused. -/
def scopeRegistry : ScopeRegistry InMemoryReviewedResourceScopeRegistry String where
  registerReviewed := registerReviewed
  Admits r scope := ∀ i ∈ r.scopeIdByPath.get? scope.canonicalPath, i = scope.scopeId
  resolved := resolveActive
  admits_iff r scope := by
    simp only [registerReviewed_eq_ok_iff, exists_and_left, exists_eq', and_true]

theorem get?_byScopeId_store {r : InMemoryReviewedResourceScopeRegistry} {scope : ResourceScope}
    (i : String) : (r.store scope).byScopeId.get? i =
      if i = scope.scopeId then some scope else r.byScopeId.get? i := by
  by_cases hi : i = scope.scopeId
  · rw [if_pos hi, hi]
    exact Dict.get?_set_self _ _ _
  · rw [if_neg hi]
    exact Dict.get?_set_of_ne _ _ hi

/-- Every scope that is kept was accepted. -/
theorem resolvesAccepted : scopeRegistry.ResolvesAccepted empty := by
  intro calls i a ha
  have hkept := scopeRegistry.run_induction empty
    (motive := fun r accepted => ∀ i s, r.byScopeId.get? i = some s → s ∈ accepted)
    (by simp [empty])
    (by
      intro r accepted scope r' hr hregister i s hs
      obtain ⟨-, rfl⟩ := registerReviewed_eq_ok_iff.1 hregister
      rw [get?_byScopeId_store] at hs
      split at hs
      · cases hs
        exact List.mem_append_right _ (by simp)
      · exact List.mem_append_left _ (hr i s hs))
    calls
  exact ⟨a, hkept i a (Option.filter_eq_some_iff.1 ha).1, rfl⟩

end InMemoryReviewedResourceScopeRegistry

/-! ### The registry in the database -/

/-- The records of a row. -/
def ScopeRow.recordIds (row : ScopeRow) : HierarchyLevel → String
  | .organization => row.organizationId
  | .businessUnit => row.businessUnitId
  | .team => row.teamId
  | .project => row.projectId
  | .environment => row.environmentId

theorem ResourceScope.recordIds_row (scope : ResourceScope) :
    scope.row.recordIds = scope.recordId := by
  funext level
  cases level <;> rfl

namespace PostgresReviewedResourceScopeRegistry

/-- The registry in the database. -/
def scopeRegistry : ScopeRegistry PostgresReviewedResourceScopeRegistry CommandFault where
  registerReviewed := registerReviewed
  Admits := Admits
  resolved := resolvedScope
  admits_iff _ _ := admits_iff

/-- A scope that is registered again keeps its records. -/
theorem recordIds_storedScope (r : PostgresReviewedResourceScopeRegistry) (row : ScopeRow) :
    (r.storedScope row).recordIds = row.recordIds ∨
      ∃ old, r.scope? row.scopeId = some old ∧ (r.storedScope row).recordIds = old.recordIds := by
  unfold storedScope
  cases hfind : r.scope? row.scopeId with
  | none => exact Or.inl rfl
  | some old =>
      refine Or.inr ⟨old, rfl, ?_⟩
      funext level
      cases level <;> rfl

/-- The scope that is resolved has the records of its row. -/
theorem recordId_resolved {r : PostgresReviewedResourceScopeRegistry} {scopeId : String}
    {records : ScopeRecords} (h : r.records? scopeId = some records) :
    records.resolved.recordId = records.scope.recordIds := by
  obtain ⟨-, hunit, hteam, hproject, henvironment⟩ := ids_of_records h
  funext level
  cases level with
  | organization => rfl
  | businessUnit => exact hunit
  | team => exact hteam
  | project => exact hproject
  | environment => exact henvironment

/-- Every row has the records of a scope that was accepted. -/
theorem resolvesAccepted (organizations : KeyedTable fun row : OrganizationRow => [row.organizationId]) :
    scopeRegistry.ResolvesAccepted (empty organizations) := by
  intro calls i a ha
  have hkept := scopeRegistry.run_induction (empty organizations)
    (motive := fun r accepted => ∀ i row, r.scope? i = some row →
      ∃ b ∈ accepted, row.recordIds = b.recordId)
    (by
      intro i row hrow
      exact absurd (scope?_eq_some_iff.1 hrow).1 List.not_mem_nil)
    (by
      intro r accepted scope r' hr hregister i row hrow
      obtain ⟨-, -, -, hregistered⟩ := registerReviewed_eq_ok_iff.1 hregister
      have hold : ∀ j old, r.scope? j = some old →
          ∃ b ∈ accepted ++ [scope], old.recordIds = b.recordId := by
        intro j old hj
        obtain ⟨b, hb, hids⟩ := hr j old hj
        exact ⟨b, List.mem_append_left _ hb, hids⟩
      rw [scope?_upsertScope hregistered.scopes] at hrow
      split at hrow
      · cases hrow
        rcases recordIds_storedScope r scope.row with hids | ⟨old, hfind, hids⟩
        · rw [hids, ResourceScope.recordIds_row]
          exact ⟨scope, List.mem_append_right _ (by simp), rfl⟩
        · rw [hids]
          exact hold _ old hfind
      · exact hold i row hrow)
    calls
  obtain ⟨records, hrecords, -, rfl⟩ := resolvedScope_eq_some_iff.1 ha
  obtain ⟨b, hb, hids⟩ := hkept i records.scope (records?_eq_some_iff.1 hrecords).1
  exact ⟨b, hb, (recordId_resolved hrecords).trans hids⟩

end PostgresReviewedResourceScopeRegistry

/-! ### Both registries -/

/-- **Both registries keep a forest exactly in the compliant runs.** -/
theorem registered_hierarchy_iff
    (organizations : KeyedTable fun row : OrganizationRow => [row.organizationId])
    (calls : List ResourceScope) :
    (InMemoryReviewedResourceScopeRegistry.scopeRegistry.KeepsForest .empty calls ↔
        InMemoryReviewedResourceScopeRegistry.scopeRegistry.Compliant .empty calls) ∧
      (PostgresReviewedResourceScopeRegistry.scopeRegistry.KeepsForest (.empty organizations) calls ↔
        PostgresReviewedResourceScopeRegistry.scopeRegistry.Compliant (.empty organizations)
          calls) :=
  ⟨ScopeRegistry.keepsForest_iff InMemoryReviewedResourceScopeRegistry.resolvesAccepted calls,
    ScopeRegistry.keepsForest_iff
      (PostgresReviewedResourceScopeRegistry.resolvesAccepted organizations) calls⟩

/-- **Both registries keep a forest in every state of a run whose calls put no accepted record below
a second parent.** -/
theorem registered_hierarchy_of_keepsParents
    (organizations : KeyedTable fun row : OrganizationRow => [row.organizationId])
    (calls : List ResourceScope) :
    (InMemoryReviewedResourceScopeRegistry.scopeRegistry.KeepsParents .empty calls →
        ∀ pre, pre <+: calls →
          InMemoryReviewedResourceScopeRegistry.scopeRegistry.KeepsForest .empty pre) ∧
      (PostgresReviewedResourceScopeRegistry.scopeRegistry.KeepsParents (.empty organizations)
          calls →
        ∀ pre, pre <+: calls →
          PostgresReviewedResourceScopeRegistry.scopeRegistry.KeepsForest (.empty organizations)
            pre) := by
  constructor
  · intro h pre hpre
    exact (h.of_prefix hpre).keepsForest InMemoryReviewedResourceScopeRegistry.resolvesAccepted
  · intro h pre hpre
    exact (h.of_prefix hpre).keepsForest
      (PostgresReviewedResourceScopeRegistry.resolvesAccepted organizations)

/-- The organizations of the two scopes below. -/
def activeOrganizations : KeyedTable fun row : OrganizationRow => [row.organizationId] where
  rows := [⟨"org_acme", "Acme", .active, 0, some 1, fun _ => nofun⟩,
    ⟨"org_globex", "Globex", .active, 0, some 1, fun _ => nofun⟩]
  distinct := by decide

/-- Another environment of the project. -/
def checkoutStagingScope : ResourceScope :=
  { checkoutScope with
    scopeId := "scope_checkout_staging"
    environment := ⟨"env_staging", "project_checkout", "staging", .active, by decide⟩
    scopeId_length := by decide
    environment_of_project := rfl }

/-- Two environments of one project make up a forest. -/
theorem checkout_hierarchy_kept :
    InMemoryReviewedResourceScopeRegistry.scopeRegistry.KeepsForest .empty
        [checkoutScope, checkoutStagingScope] ∧
      PostgresReviewedResourceScopeRegistry.scopeRegistry.KeepsForest (.empty activeOrganizations)
        [checkoutScope, checkoutStagingScope] := by
  have hforest : Forest [checkoutScope, checkoutStagingScope] := by
    intro a ha b hb level
    simp only [List.mem_cons, List.not_mem_nil, or_false] at ha hb
    rcases ha with rfl | rfl
    · rcases hb with rfl | rfl
      · exact fun _ => rfl
      · cases level <;> decide
    · rcases hb with rfl | rfl
      · cases level <;> decide
      · exact fun _ => rfl
  obtain ⟨hmemory, hpostgres⟩ := registered_hierarchy_of_keepsParents activeOrganizations
    [checkoutScope, checkoutStagingScope]
  exact ⟨hmemory (ScopeRegistry.keepsParents_of_forest _ _ hforest) _ List.prefix_rfl,
    hpostgres (ScopeRegistry.keepsParents_of_forest _ _ hforest) _ List.prefix_rfl⟩

/-- A scope of another organization, which claims a project that is there. -/
def strayScope : ResourceScope where
  scopeId := "scope_globex_test"
  organization := ⟨"org_globex", "globex", .active, by decide⟩
  businessUnit := ⟨"bu_research", "org_globex", "research", .active, by decide⟩
  team := ⟨"team_robots", "bu_research", "robots", .active, by decide⟩
  project := { checkoutProject with teamId := "team_robots" }
  environment := ⟨"env_test", "project_checkout", "test", .active, by decide⟩
  state := .active
  version := 1
  scopeId_length := by decide
  version_pos := Nat.one_pos
  businessUnit_of_organization := rfl
  team_of_businessUnit := rfl
  project_of_team := rfl
  environment_of_project := rfl

/-- A binding of the project reaches its descendants. -/
def checkoutTarget : ScopeBindingTarget := ⟨.project, "project_checkout", true, by decide⟩

/-- **A project gets a second parent**, in another organization, and a binding of the project
reaches the scopes of both. -/
theorem stray_project_accepted :
    ¬ InMemoryReviewedResourceScopeRegistry.scopeRegistry.KeepsForest .empty
        [checkoutScope, strayScope] ∧
      ¬ PostgresReviewedResourceScopeRegistry.scopeRegistry.KeepsForest (.empty activeOrganizations)
        [checkoutScope, strayScope] := by
  have htarget : ∀ scope : ResourceScope, scope.project.projectId = "project_checkout" →
      Inherits checkoutTarget scope := by
    intro scope hscope
    refine ⟨by decide, ?_⟩
    simp [targetMatches, checkoutTarget, hscope]
  constructor
  · intro h
    have horganization := h.inherited checkoutTarget "scope_checkout_prod" "scope_globex_test"
      checkoutScope strayScope (by decide) (by decide)
      (htarget _ rfl) (htarget _ rfl)
    exact absurd horganization (by decide)
  · intro h
    have horganization := h.inherited checkoutTarget "scope_checkout_prod" "scope_globex_test"
      checkoutScope strayScope (by decide) (by decide +kernel)
      (htarget _ rfl) (htarget _ rfl)
    exact absurd horganization (by decide)

end PlatformOps
