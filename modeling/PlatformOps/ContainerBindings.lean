/-
**Registries of cloud container bindings.**

A binding routes a Resource Scope to one Cloud Resource Container and to the execution identity
used there.  Callers never supply this routing authority: it is read from a registry that reviewed
records are written to.  The registry exists in memory and in PostgreSQL; both are instances of
one interface, whose laws say how an accepted write changes the table of bindings and what the
query for active bindings returns.  Everything proved later about registry histories uses these
laws only.

Main definitions:

* `CloudResourceContainerBinding` — the trusted mapping, with its validator as proof fields;
* `ResourceScopeBindingRegistry` — the interface of a registry and the table it stores;
* `InMemoryResourceScopeBindingRegistry`, `PostgresResourceScopeBindingRegistry` — its instances;
* `BindingOperation`, `ResourceScopeBindingRegistry.run` — histories of registry calls;
* `ResourceScopeBindingRegistry.resolve` — the selection of the one eligible binding of a scope.

Main results:

* `ResourceScopeBindingRegistry.run_runs` — **a history of calls is a run of writes on the table**;
* `ResourceScopeBindingRegistry.resolve_eq_resolved_iff` — a resolved binding is the only eligible
  active one.
-/

import Mathlib.Data.Finset.Basic
import Mathlib.Data.List.Sort
import PlatformOps.Dict
import PlatformOps.ResourceScope
import PlatformOps.Versioned

set_option relaxedAutoImplicit false
set_option autoImplicit false

namespace PlatformOps

open Versioned

inductive CloudProvider
  | aws
  | gcp
  | azure
  deriving DecidableEq, Repr

/-- The provider's wire value. -/
def CloudProvider.value : CloudProvider → String
  | aws => "aws"
  | gcp => "gcp"
  | azure => "azure"

inductive CloudResourceContainerType
  | awsAccount
  | gcpProject
  | azureSubscription
  deriving DecidableEq, Repr

/-- The only container type a binding of the provider may have. -/
def CloudProvider.containerType : CloudProvider → CloudResourceContainerType
  | aws => .awsAccount
  | gcp => .gcpProject
  | azure => .azureSubscription

inductive ProviderBindingState
  | draft
  | active
  | suspended
  | retired
  deriving DecidableEq, Repr

/-- The trusted mapping of a scope to a cloud container. -/
@[ext] structure CloudResourceContainerBinding where
  bindingId : String
  scopeId : String
  provider : CloudProvider
  containerType : CloudResourceContainerType
  containerReference : String
  executionIdentityReference : String
  providerWorkspace : Option String
  state : ProviderBindingState
  version : ℕ
  bindingId_length : 10 ≤ bindingId.length
  scopeId_length : 8 ≤ scopeId.length
  containerReference_length : 1 ≤ containerReference.length
  executionIdentityReference_length : 1 ≤ executionIdentityReference.length
  providerWorkspace_length : ∀ w ∈ providerWorkspace, 1 ≤ w.length
  version_pos : 1 ≤ version
  containerType_of_provider : containerType = provider.containerType

instance : DecidableEq CloudResourceContainerBinding := fun _ _ =>
  decidable_of_iff _ CloudResourceContainerBinding.ext_iff.symm

namespace CloudResourceContainerBinding

/-- A copy with another state. -/
def withState (b : CloudResourceContainerBinding) (s : ProviderBindingState) :
    CloudResourceContainerBinding :=
  { b with state := s }

/-- Where a binding routes to: the provider, the container, the execution identity and the
workspace. -/
structure Routing where
  provider : CloudProvider
  containerReference : String
  executionIdentityReference : String
  providerWorkspace : Option String
  deriving DecidableEq

def routing (b : CloudResourceContainerBinding) : Routing where
  provider := b.provider
  containerReference := b.containerReference
  executionIdentityReference := b.executionIdentityReference
  providerWorkspace := b.providerWorkspace

@[simp] theorem bindingId_withState (b : CloudResourceContainerBinding) (s : ProviderBindingState) :
    (b.withState s).bindingId = b.bindingId := rfl

@[simp] theorem scopeId_withState (b : CloudResourceContainerBinding) (s : ProviderBindingState) :
    (b.withState s).scopeId = b.scopeId := rfl

@[simp] theorem version_withState (b : CloudResourceContainerBinding) (s : ProviderBindingState) :
    (b.withState s).version = b.version := rfl

@[simp] theorem state_withState (b : CloudResourceContainerBinding) (s : ProviderBindingState) :
    (b.withState s).state = s := rfl

@[simp] theorem routing_withState (b : CloudResourceContainerBinding) (s : ProviderBindingState) :
    (b.withState s).routing = b.routing := rfl

end CloudResourceContainerBinding

/-- The active binding of the checkout scope. -/
def checkoutBinding : CloudResourceContainerBinding where
  bindingId := "binding_checkout_prod"
  scopeId := "scope_checkout_prod"
  provider := .aws
  containerType := .awsAccount
  containerReference := "123456789012"
  executionIdentityReference := "iam-role:platformops-exec"
  providerWorkspace := none
  state := .active
  version := 1
  bindingId_length := by decide
  scopeId_length := checkoutScope.scopeId_length
  containerReference_length := by decide
  executionIdentityReference_length := by decide
  providerWorkspace_length := by simp
  version_pos := Nat.one_pos
  containerType_of_provider := rfl

/-- The refusal of a state change of an unknown binding. -/
def bindingMissing : String := "Cloud Resource Container binding does not exist"

/-- The refusal of a binding of an unknown scope. -/
def bindingScopeMissing : String := "Cloud Resource Container binding scope does not exist"

/-! ### The interface -/

/-- A registry of reviewed bindings: its calls, the table it stores, and how they are related. -/
class ResourceScopeBindingRegistry (ρ : Type) where
  registerReviewed : ρ → CloudResourceContainerBinding → Except String ρ
  setState : ρ → String → ProviderBindingState → Except String ρ
  activeBindings : ρ → String → List CloudResourceContainerBinding
  /-- The stored bindings, by their identifiers. -/
  table : ρ → Table String CloudResourceContainerBinding
  table_registerReviewed : ∀ {r r' : ρ} {b : CloudResourceContainerBinding},
    registerReviewed r b = .ok r' → table r' = (Write.put b.bindingId b).apply (table r)
  table_setState : ∀ {r r' : ρ} {i : String} {s : ProviderBindingState},
    setState r i s = .ok r' → table r' = (Write.modify i (·.withState s)).apply (table r)
  mem_activeBindings : ∀ {r : ρ} {i : String} {b : CloudResourceContainerBinding},
    b ∈ activeBindings r i ↔ table r b.bindingId = some b ∧ b.scopeId = i ∧ b.state = .active

/-! ### Bindings stored under their own identifiers -/

/-- A table of bindings, each under its own identifier. -/
structure BindingTable where
  bindings : Dict String CloudResourceContainerBinding
  keyed : ∀ i b, bindings.get? i = some b → b.bindingId = i

namespace BindingTable

def empty : BindingTable where
  bindings := .empty
  keyed := by simp

/-- Store a binding under its identifier. -/
def put (t : BindingTable) (b : CloudResourceContainerBinding) : BindingTable where
  bindings := t.bindings.set b.bindingId b
  keyed i c h := by
    by_cases hi : i = b.bindingId
    · subst hi
      obtain rfl : b = c := by simpa using h
      rfl
    · rw [Dict.get?_set_of_ne _ _ hi] at h
      exact t.keyed i c h

/-- The bindings of a scope that are active, in the order of the table. -/
def active (t : BindingTable) (scopeId : String) : List CloudResourceContainerBinding :=
  t.bindings.values.filter fun b => b.scopeId = scopeId && b.state = .active

theorem mem_active {t : BindingTable} {i : String} {b : CloudResourceContainerBinding} :
    b ∈ t.active i ↔ t.bindings.get? b.bindingId = some b ∧ b.scopeId = i ∧ b.state = .active := by
  simp only [active, List.mem_filter, Dict.mem_values_iff, Bool.and_eq_true, decide_eq_true_eq]
  constructor
  · rintro ⟨⟨k, hk⟩, h⟩
    obtain rfl := t.keyed k b hk
    exact ⟨hk, h⟩
  · rintro ⟨hb, h⟩
    exact ⟨⟨_, hb⟩, h⟩

theorem get?_put (t : BindingTable) (b : CloudResourceContainerBinding) :
    (t.put b).bindings.get? = (Write.put b.bindingId b).apply t.bindings.get? := by
  funext k
  by_cases h : k = b.bindingId
  · subst h
    simp [put]
  · simp [put, h]

theorem get?_put_withState {t : BindingTable} {i : String} {b : CloudResourceContainerBinding}
    (h : t.bindings.get? i = some b) (s : ProviderBindingState) :
    (t.put (b.withState s)).bindings.get?
      = (Write.modify i (·.withState s)).apply t.bindings.get? := by
  obtain rfl := t.keyed i b h
  funext k
  by_cases hk : k = b.bindingId
  · subst hk
    simp [put, h]
  · simp [put, hk]

end BindingTable

/-! ### The registry in memory -/

/-- The registry kept in one process. -/
structure InMemoryResourceScopeBindingRegistry where
  rows : BindingTable

namespace InMemoryResourceScopeBindingRegistry

def registerReviewed (r : InMemoryResourceScopeBindingRegistry)
    (b : CloudResourceContainerBinding) : InMemoryResourceScopeBindingRegistry :=
  ⟨r.rows.put b⟩

def setState (r : InMemoryResourceScopeBindingRegistry) (bindingId : String)
    (s : ProviderBindingState) : Except String InMemoryResourceScopeBindingRegistry :=
  match r.rows.bindings.get? bindingId with
  | none => .error bindingMissing
  | some b => .ok ⟨r.rows.put (b.withState s)⟩

instance : ResourceScopeBindingRegistry InMemoryResourceScopeBindingRegistry where
  registerReviewed r b := .ok (r.registerReviewed b)
  setState := setState
  activeBindings r i := r.rows.active i
  table r := r.rows.bindings.get?
  table_registerReviewed := by
    rintro r _ b ⟨⟩
    exact r.rows.get?_put b
  table_setState := by
    intro r r' i s h
    unfold setState at h
    split at h
    · cases h
    · next b hb =>
        cases h
        exact BindingTable.get?_put_withState hb s
  mem_activeBindings := BindingTable.mem_active

end InMemoryResourceScopeBindingRegistry

/-! ### The registry in PostgreSQL -/

/-- The rows of the binding table and the scopes they refer to.  The identifiers are ordered by
the collation of the database. -/
structure PostgresResourceScopeBindingRegistry where
  rows : BindingTable
  /-- The identifiers in the table of scopes. -/
  scopeIds : List String
  collation : String → String → Bool
  /-- Every row refers to an existing scope. -/
  foreignKey : ∀ i b, rows.bindings.get? i = some b → b.scopeId ∈ scopeIds

namespace PostgresResourceScopeBindingRegistry

/-- `INSERT … ON CONFLICT (binding_id) DO UPDATE` of all columns, after the scope was found. -/
def registerReviewed (r : PostgresResourceScopeBindingRegistry)
    (b : CloudResourceContainerBinding) : Except String PostgresResourceScopeBindingRegistry :=
  if h : b.scopeId ∈ r.scopeIds then
    .ok { r with
      rows := r.rows.put b
      foreignKey := by
        intro i c hc
        by_cases hi : i = b.bindingId
        · subst hi
          obtain rfl : b = c := by simpa [BindingTable.put] using hc
          exact h
        · exact r.foreignKey i c (by simpa [BindingTable.put, hi] using hc) }
  else .error bindingScopeMissing

/-- `UPDATE … SET state`, refused unless it touched one row. -/
def setState (r : PostgresResourceScopeBindingRegistry) (bindingId : String)
    (s : ProviderBindingState) : Except String PostgresResourceScopeBindingRegistry :=
  match hb : r.rows.bindings.get? bindingId with
  | none => .error bindingMissing
  | some b =>
      .ok { r with
        rows := r.rows.put (b.withState s)
        foreignKey := by
          intro i c hc
          by_cases hi : i = b.bindingId
          · subst hi
            obtain rfl : b.withState s = c := by simpa [BindingTable.put] using hc
            exact r.foreignKey bindingId b hb
          · exact r.foreignKey i c (by simpa [BindingTable.put, hi] using hc) }

/-- `SELECT … WHERE scope_id = … AND state = 'active' ORDER BY binding_id`. -/
def activeBindings (r : PostgresResourceScopeBindingRegistry) (scopeId : String) :
    List CloudResourceContainerBinding :=
  (r.rows.active scopeId).insertionSort fun b c => r.collation b.bindingId c.bindingId = true

instance : ResourceScopeBindingRegistry PostgresResourceScopeBindingRegistry where
  registerReviewed := registerReviewed
  setState := setState
  activeBindings := activeBindings
  table r := r.rows.bindings.get?
  table_registerReviewed := by
    intro r r' b h
    unfold registerReviewed at h
    split at h
    · cases h
      exact r.rows.get?_put b
    · cases h
  table_setState := by
    intro r r' i s h
    unfold setState at h
    split at h
    · cases h
    · next b hb =>
        cases h
        exact BindingTable.get?_put_withState hb s
  mem_activeBindings := by
    intro r i b
    rw [activeBindings, List.mem_insertionSort, BindingTable.mem_active]

end PostgresResourceScopeBindingRegistry

/-! ### Histories of registry calls -/

/-- A call that changes the registry. -/
inductive BindingOperation
  | registerReviewed (b : CloudResourceContainerBinding)
  | setState (bindingId : String) (s : ProviderBindingState)

/-- The write a call stands for. -/
def BindingOperation.write : BindingOperation → Write String CloudResourceContainerBinding
  | .registerReviewed b => .put b.bindingId b
  | .setState i s => .modify i (·.withState s)

namespace ResourceScopeBindingRegistry

variable {ρ : Type} [ResourceScopeBindingRegistry ρ]

/-- A call, with its refusal. -/
def attempt (r : ρ) : BindingOperation → Except String ρ
  | .registerReviewed b => registerReviewed r b
  | .setState i s => setState r i s

/-- The registry after a call; a refused call leaves it as it was. -/
def step (r : ρ) (op : BindingOperation) : ρ :=
  match attempt r op with
  | .ok r' => r'
  | .error _ => r

/-- The registry after a history of calls. -/
def run (r : ρ) (ops : List BindingOperation) : ρ := ops.foldl step r

/-- An accepted call is its write. -/
theorem table_of_attempt {r r' : ρ} {op : BindingOperation} (h : attempt r op = .ok r') :
    table r' = op.write.apply (table r) := by
  cases op with
  | registerReviewed b => exact table_registerReviewed h
  | setState i s => exact table_setState h

/-- **A history of registry calls is a run of writes on the table.** -/
theorem run_runs (r : ρ) (ops : List BindingOperation) :
    Runs (table r) (ops.map BindingOperation.write) (table (run r ops)) := by
  induction ops generalizing r with
  | nil => exact .done _
  | cons op ops ih =>
      rw [run, List.foldl_cons, List.map_cons]
      unfold step
      split
      · next r' h =>
          refine .applied ?_
          rw [← table_of_attempt h]
          exact ih r'
      · exact .refused (ih r)

end ResourceScopeBindingRegistry

/-! ### Selecting the binding of a scope -/

/-- The reviewed profile: a request never selects a provider binding. -/
structure ProvisioningBindingProfile where
  profileId : String
  eligibleProviders : Finset CloudProvider
  profileId_length : 1 ≤ profileId.length
  eligibleProviders_nonempty : eligibleProviders.Nonempty

/-- The outcome of a selection. -/
inductive BindingResolution
  | resolved (binding : CloudResourceContainerBinding)
  | nonRoutable

namespace ResourceScopeBindingRegistry

variable {ρ : Type} [ResourceScopeBindingRegistry ρ]

/-- Select the only active binding of the scope that the profile is eligible for. -/
def resolve (registry : ρ) (scopeId : String) (profile : ProvisioningBindingProfile) :
    BindingResolution :=
  match (activeBindings registry scopeId).filter (·.provider ∈ profile.eligibleProviders) with
  | [b] => .resolved b
  | _ => .nonRoutable

theorem resolve_eq_resolved_iff {registry : ρ} {scopeId : String}
    {profile : ProvisioningBindingProfile} {b : CloudResourceContainerBinding} :
    resolve registry scopeId profile = .resolved b ↔
      (activeBindings registry scopeId).filter (·.provider ∈ profile.eligibleProviders) = [b] := by
  unfold resolve
  split
  · next h => rw [h]; simp
  · next h =>
      simp only [reduceCtorEq, false_iff]
      exact h b

/-- A resolved binding is among the active bindings of the scope. -/
theorem mem_activeBindings_of_resolve {registry : ρ} {scopeId : String}
    {profile : ProvisioningBindingProfile} {b : CloudResourceContainerBinding}
    (h : resolve registry scopeId profile = .resolved b) : b ∈ activeBindings registry scopeId := by
  have hb : b ∈ (activeBindings registry scopeId).filter
      (·.provider ∈ profile.eligibleProviders) := by
    rw [resolve_eq_resolved_iff.1 h]
    exact List.mem_singleton_self b
  exact List.mem_of_mem_filter hb

/-- A resolved binding is an active binding of the scope. -/
theorem mem_of_resolve {registry : ρ} {scopeId : String}
    {profile : ProvisioningBindingProfile} {b : CloudResourceContainerBinding}
    (h : resolve registry scopeId profile = .resolved b) :
    b.scopeId = scopeId ∧ b.state = .active :=
  (mem_activeBindings.1 (mem_activeBindings_of_resolve h)).2

end ResourceScopeBindingRegistry

end PlatformOps
