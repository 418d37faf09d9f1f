/-
**The two tables of the registry in memory.**

The registry keeps the scopes by identifier, and the identifiers by path.  A registration looks the
path up, and raises if it belongs to another scope; then it takes the old path of the scope out,
stores the scope, and enters the new path, one statement after another.  In between the tables do
not fit together; after every registration they are inverse to each other, and one that raises has
written nothing yet.

Main definitions:

* `InMemoryReviewedResourceScopeRegistry.register` — a registration, statement by statement;
* `InMemoryReviewedResourceScopeRegistry.registered` — the registry after some registrations;
* `InverseIndexes` — what the tables of a run should be.

Main results:

* `InMemoryReviewedResourceScopeRegistry.register_eq` — the statements store the scope, or raise and
  change nothing;
* `InMemoryReviewedResourceScopeRegistry.register_isOk_iff` — a path is refused exactly if another
  stored scope has it;
* `scope_indexes_inverse` — **over every run the tables are inverse**, a path that was given up can be
  taken, and a registration that is refused changes nothing.
-/

import PlatformOps.RegistryAgreement
import PlatformOps.Action

set_option relaxedAutoImplicit false
set_option autoImplicit false

namespace PlatformOps

namespace InMemoryReviewedResourceScopeRegistry

/-! ### A registration -/

/-- Take a path out of the index. -/
def popPath (path : String) (r : InMemoryReviewedResourceScopeRegistry) :
    InMemoryReviewedResourceScopeRegistry :=
  { r with scopeIdByPath := r.scopeIdByPath.erase path }

/-- Store a scope under its identifier. -/
def putScope (scope : ResourceScope) (r : InMemoryReviewedResourceScopeRegistry) :
    InMemoryReviewedResourceScopeRegistry where
  byScopeId := r.byScopeId.set scope.scopeId scope
  scopeIdByPath := r.scopeIdByPath
  keyed := (r.store scope).keyed

/-- Enter the path of a scope into the index. -/
def putPath (scope : ResourceScope) (r : InMemoryReviewedResourceScopeRegistry) :
    InMemoryReviewedResourceScopeRegistry :=
  { r with scopeIdByPath := r.scopeIdByPath.set scope.canonicalPath scope.scopeId }

/-- `register_reviewed`, statement by statement. -/
def register (scope : ResourceScope) :
    Action InMemoryReviewedResourceScopeRegistry String Unit := do
  let existingId ← .read fun r => r.scopeIdByPath.get? scope.canonicalPath
  .guard (existingId = none ∨ existingId = some scope.scopeId) duplicateCanonicalResourceScope
  let previous ← .read fun r => r.byScopeId.get? scope.scopeId
  match previous with
  | some previous => .modify (popPath previous.canonicalPath)
  | none => pure ()
  .modify (putScope scope)
  .modify (putPath scope)

/-- The registry after some registrations, accepted or refused. -/
def registered (calls : List ResourceScope) : InMemoryReviewedResourceScopeRegistry :=
  calls.foldl (fun r scope => (register scope r).2) empty

end InMemoryReviewedResourceScopeRegistry

open InMemoryReviewedResourceScopeRegistry

/-- **The tables after a run are inverse**: a path maps to an identifier exactly if the scope under
the identifier has the path.  A registration is refused exactly if another scope has the path, and
then changes nothing; and the path that a scope gives up can be taken by any scope. -/
structure InverseIndexes (calls : List ResourceScope) : Prop where
  inverse : ∀ path scopeId, (registered calls).scopeIdByPath.get? path = some scopeId ↔
    ∃ scope, (registered calls).byScopeId.get? scopeId = some scope ∧ scope.canonicalPath = path
  refuses : ∀ scope, (register scope (registered calls)).1 ≠ .ok () ↔
    ∃ other ∈ (registered calls).byScopeId.values,
      other.canonicalPath = scope.canonicalPath ∧ other.scopeId ≠ scope.scopeId
  unchanged : ∀ scope, (register scope (registered calls)).1 ≠ .ok () →
    (register scope (registered calls)).2.byScopeId = (registered calls).byScopeId ∧
      (register scope (registered calls)).2.scopeIdByPath = (registered calls).scopeIdByPath
  freed : ∀ previous scope taker,
    (registered calls).byScopeId.get? scope.scopeId = some previous →
      (register scope (registered calls)).1 = .ok () →
        previous.canonicalPath ≠ scope.canonicalPath →
          taker.canonicalPath = previous.canonicalPath →
            (register taker (register scope (registered calls)).2).1 = .ok ()

namespace InMemoryReviewedResourceScopeRegistry

/-! ### What a registration does -/

variable {r : InMemoryReviewedResourceScopeRegistry} {scope : ResourceScope}

/-- **The statements store the scope, or raise and change nothing.** -/
theorem register_eq (scope : ResourceScope) (r : InMemoryReviewedResourceScopeRegistry) :
    register scope r =
      if ∀ i, r.scopeIdByPath.get? scope.canonicalPath = some i → i = scope.scopeId then
        (.ok (), r.store scope)
      else (.error duplicateCanonicalResourceScope, r) := by
  unfold register
  rw [Action.read_bind_apply, Action.guard_bind_apply]
  have hguard : (r.scopeIdByPath.get? scope.canonicalPath = none ∨
      r.scopeIdByPath.get? scope.canonicalPath = some scope.scopeId) ↔
        ∀ i, r.scopeIdByPath.get? scope.canonicalPath = some i → i = scope.scopeId := by
    cases r.scopeIdByPath.get? scope.canonicalPath with
    | none => simp
    | some existing => simp
  by_cases hfree : ∀ i, r.scopeIdByPath.get? scope.canonicalPath = some i → i = scope.scopeId
  · rw [if_pos (hguard.2 hfree), if_pos hfree, Action.read_bind_apply]
    unfold store
    cases r.byScopeId.get? scope.scopeId with
    | none => rfl
    | some previous => rfl
  · rw [if_neg (mt hguard.1 hfree), if_neg hfree]

/-- The statements do what the registration of the whole does. -/
theorem register_eq_registerReviewed (scope : ResourceScope)
    (r : InMemoryReviewedResourceScopeRegistry) :
    register scope r =
      match r.registerReviewed scope with
      | .ok r' => (.ok (), r')
      | .error e => (.error e, r) := by
  rw [register_eq]
  unfold registerReviewed
  cases r.scopeIdByPath.get? scope.canonicalPath with
  | none => simp
  | some existing =>
      by_cases hown : existing = scope.scopeId
      · simp [hown]
      · simp [hown]

/-- **A registration is accepted exactly if no other scope has the path.** -/
theorem register_isOk_iff (h : r.PathsTaken) : (register scope r).1 = .ok () ↔
    ∀ other ∈ r.byScopeId.values, other.canonicalPath = scope.canonicalPath →
      other.scopeId = scope.scopeId := by
  have hiff : (register scope r).1 = .ok () ↔
      ∀ i, r.scopeIdByPath.get? scope.canonicalPath = some i → i = scope.scopeId := by
    rw [register_eq]
    split
    · rename_i hfree
      exact iff_of_true rfl hfree
    · rename_i hnot
      exact iff_of_false (fun hok => by cases hok) hnot
  rw [hiff]
  constructor
  · intro hfree other hother hpath
    exact hfree _ ((h _ _).2 ⟨other, mem_values_iff.1 hother, hpath⟩)
  · intro hall i hi
    obtain ⟨other, hother, hpath⟩ := (h _ i).1 hi
    have hid := r.keyed i other hother
    rw [← hid]
    exact hall other ((Dict.mem_values_iff _).2 ⟨i, hother⟩) hpath

theorem register_of_ok (h : (register scope r).1 = .ok ()) :
    (register scope r).2 = r.store scope := by
  rw [register_eq] at h ⊢
  split at h
  · rename_i hfree
    rw [if_pos hfree]
  · cases h

theorem register_of_refused (h : (register scope r).1 ≠ .ok ()) : (register scope r).2 = r := by
  rw [register_eq] at h ⊢
  split at h
  · exact absurd rfl h
  · rename_i hnot
    rw [if_neg hnot]

/-- **A registration keeps the tables inverse.** -/
theorem PathsTaken.register (h : r.PathsTaken) :
    (InMemoryReviewedResourceScopeRegistry.register scope r).2.PathsTaken := by
  rw [register_eq]
  split
  · rename_i hfree
    exact h.store hfree
  · exact h

theorem pathsTaken_registered (calls : List ResourceScope) : (registered calls).PathsTaken := by
  induction calls using List.reverseRecOn with
  | nil =>
      intro path i
      simp [registered, empty]
  | append_singleton calls scope ih =>
      unfold registered
      rw [List.foldl_concat]
      exact ih.register

/-- **The path that a scope gives up** can be taken by any scope. -/
theorem register_freed (h : r.PathsTaken) {previous taker : ResourceScope}
    (hprevious : r.byScopeId.get? scope.scopeId = some previous)
    (haccepted : (register scope r).1 = .ok ())
    (hmoved : previous.canonicalPath ≠ scope.canonicalPath)
    (hpath : taker.canonicalPath = previous.canonicalPath) :
    (register taker (register scope r).2).1 = .ok () := by
  rw [register_isOk_iff h.register, register_of_ok haccepted]
  intro other hother hsame
  -- only the scope that was moved had the path
  rcases mem_values_store.1 hother with rfl | ⟨hother, hne⟩
  · exact absurd (hpath.symm.trans hsame.symm) hmoved
  · have hfirst := (h previous.canonicalPath scope.scopeId).2 ⟨previous, hprevious, rfl⟩
    have hsecond := (h previous.canonicalPath other.scopeId).2
      ⟨other, mem_values_iff.1 hother, hsame.trans hpath⟩
    rw [hfirst] at hsecond
    exact absurd (Option.some.inj hsecond).symm hne

end InMemoryReviewedResourceScopeRegistry

/-- **Over every run the tables are inverse.** -/
theorem scope_indexes_inverse (calls : List ResourceScope) : InverseIndexes calls := by
  have h := pathsTaken_registered calls
  refine ⟨h, ?_, ?_, ?_⟩
  · intro scope
    rw [Ne, register_isOk_iff h]
    push Not
    rfl
  · intro scope hrefused
    rw [register_of_refused hrefused]
    exact ⟨rfl, rfl⟩
  · intro previous scope taker hprevious haccepted hmoved hpath
    exact register_freed h hprevious haccepted hmoved hpath

end PlatformOps
