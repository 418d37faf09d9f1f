/-
**Freshness of a sealed context over registry histories.**

The freshness check compares the versions of the sealed bindings with the registry's.  It never
looks at what the bindings route to, so it stands for the routing exactly as far as the registry's
writers raise the version of a binding when they change where it leads.  Nothing in the registries
makes them: a registration overwrites whatever is stored under its identifier.

This module follows a sealed binding through every later history of registry calls, for any
registry that obeys the laws of the interface, and so for the one in memory and the one in
PostgreSQL.

Main definitions:

* `currentBindings` — the active bindings of the current scope;
* `RoutedAsSealed` — every sealed binding is active and routes where it routed when it was sealed;
* `BindingOperation.KeepsRouting` — a call that does not reroute a binding under an old version.

Main results:

* `routedAsSealed_of_fresh` — **after a history of calls that keep the routing, a fresh context is
  routed as sealed**;
* `fresh_of_reroute` — one call that does not keep it goes unnoticed.
-/

import PlatformOps.ResolvedScope

set_option relaxedAutoImplicit false
set_option autoImplicit false

namespace PlatformOps

open Versioned ResourceScopeBindingRegistry

section Registry

variable {ρ : Type} [ResourceScopeBindingRegistry ρ] {sha256 : String → HexDigest}

/-- The active bindings of the scope, as far as there is one. -/
def currentBindings (registry : ρ) (scope : Option ResourceScope) :
    List CloudResourceContainerBinding :=
  scope.elim [] fun s => activeBindings registry s.scopeId

/-- Every binding of a context is active in the registry and routes as `binding` does. -/
def RoutedAsSealed (registry : ρ) (context : ResolvedResourceScopeContext sha256)
    (binding : CloudResourceContainerBinding) : Prop :=
  ∀ snapshot ∈ context.bindingVersions, ∃ b ∈ activeBindings registry context.scopeId,
    b.bindingId = snapshot.bindingId ∧ b.routing = binding.routing

/-- A call that leaves the routing of a binding alone as long as it leaves the version alone. -/
def BindingOperation.KeepsRouting (binding : CloudResourceContainerBinding) :
    BindingOperation → Prop
  | .registerReviewed b =>
      b.bindingId = binding.bindingId → b.scopeId = binding.scopeId →
        b.version = binding.version → b.routing = binding.routing
  | .setState _ _ => True

instance (binding : CloudResourceContainerBinding) (op : BindingOperation) :
    Decidable (op.KeepsRouting binding) := by
  cases op
  · exact inferInstanceAs (Decidable (_ → _ → _ → _))
  · exact inferInstanceAs (Decidable True)

/-- What a freshness check compares of a binding. -/
def versionStamp (b : CloudResourceContainerBinding) : String × ℕ := (b.scopeId, b.version)

theorem BindingOperation.KeepsRouting.faithful {binding : CloudResourceContainerBinding}
    {op : BindingOperation} (h : op.KeepsRouting binding) :
    op.write.Faithful versionStamp (·.routing) binding.bindingId binding := by
  cases op with
  | registerReviewed b =>
      intro hid hstamp
      obtain ⟨hscope, hversion⟩ := Prod.mk.inj hstamp
      exact h hid hscope hversion
  | setState i s =>
      intro _ b
      exact ⟨rfl, rfl⟩

/-- **After a history of calls that keep the routing, a fresh context is routed as sealed**,
whichever of the calls the registry refuses. -/
theorem routedAsSealed_of_fresh {registry : ρ} {scope : ResourceScope}
    {authorization : ResourceScopeAuthorizationDecision}
    {governance : ResourceScopeGovernanceDecision} {binding : CloudResourceContainerBinding}
    {context : ResolvedResourceScopeContext sha256} {ops : List BindingOperation}
    {current : Option ResourceScope}
    (hbinding : binding ∈ activeBindings registry scope.scopeId)
    (hseal : sealContext sha256 scope authorization governance binding = .ok context)
    (hops : ∀ op ∈ ops, op.KeepsRouting binding)
    (hfresh : requiresFreshResolution context current
      (currentBindings (run registry ops) current) = false) :
    RoutedAsSealed (run registry ops) context binding := by
  obtain ⟨-, -, -, hscope, -, rfl⟩ := sealContext_eq_ok_iff.1 hseal
  obtain ⟨s, rfl, -, hid, -⟩ := requiresFreshResolution_eq_false_iff.1 hfresh
  intro snapshot hsnapshot
  obtain ⟨b, hb, hbid, hversion, hbscope, -⟩ := exists_active_of_fresh hfresh hsnapshot
  -- the context seals one binding only
  obtain rfl : snapshot = ⟨binding.bindingId, binding.version, _, _⟩ :=
    List.mem_singleton.1 hsnapshot
  have hbid' : b.bindingId = binding.bindingId := hbid
  have hb' : b ∈ activeBindings (run registry ops) scope.scopeId := by
    rw [currentBindings, Option.elim_some, hid] at hb
    exact hb
  refine ⟨b, hb', hbid, ?_⟩
  -- the table held the binding when it was sealed, and holds `b` under its identifier now
  have hbefore : table registry binding.bindingId = some binding :=
    (mem_activeBindings.1 hbinding).1
  have hafter : table (run registry ops) binding.bindingId = some b := by
    rw [← hbid']
    exact (mem_activeBindings.1 hb').1
  have hstamp : versionStamp b = versionStamp binding := by
    rw [versionStamp, versionStamp, hversion, hbscope, hscope]
    rfl
  have hwrites : ∀ w ∈ ops.map BindingOperation.write,
      w.Faithful versionStamp (·.routing) binding.bindingId binding := by
    intro w hw
    obtain ⟨op, hop, rfl⟩ := List.mem_map.1 hw
    exact (hops op hop).faithful
  exact (run_runs registry ops).payload_eq hwrites hbefore hafter hstamp

/-- **One call that reroutes a binding under its old version goes unnoticed**: the context stays
fresh and the binding leads elsewhere. -/
theorem fresh_of_reroute {registry registry' : ρ} {scope : ResourceScope}
    {authorization : ResourceScopeAuthorizationDecision}
    {governance : ResourceScopeGovernanceDecision} {binding b : CloudResourceContainerBinding}
    {context : ResolvedResourceScopeContext sha256}
    (hseal : sealContext sha256 scope authorization governance binding = .ok context)
    (hcall : registerReviewed registry b = .ok registry') (hstate : b.state = .active)
    (hb : ¬ (BindingOperation.registerReviewed b).KeepsRouting binding) :
    requiresFreshResolution context (some scope) (currentBindings registry' (some scope)) = false ∧
      ¬ RoutedAsSealed registry' context binding := by
  obtain ⟨hactive, -, -, hscope, -, rfl⟩ := sealContext_eq_ok_iff.1 hseal
  simp only [BindingOperation.KeepsRouting, not_forall] at hb
  obtain ⟨hid, hbscope, hversion, hrouting⟩ := hb
  have htable : table registry' b.bindingId = some b := by
    rw [table_registerReviewed hcall]
    exact apply_put_self _ _ _
  have hmem : b ∈ activeBindings registry' scope.scopeId :=
    mem_activeBindings.2 ⟨htable, hbscope.trans hscope, hstate⟩
  -- nothing else is stored under the identifier of `b`
  have honly : ∀ c ∈ activeBindings registry' scope.scopeId, c.bindingId = b.bindingId → c = b := by
    intro c hc hcid
    have hctable := (mem_activeBindings.1 hc).1
    rw [hcid, htable] at hctable
    exact (Option.some.inj hctable).symm
  constructor
  · refine requiresFreshResolution_eq_false_iff.2 ⟨scope, rfl, hactive, rfl, rfl, rfl, ?_⟩
    intro snapshot hsnapshot
    obtain rfl : snapshot = ⟨binding.bindingId, binding.version, _, _⟩ :=
      List.mem_singleton.1 hsnapshot
    have hcurrent := currentVersion_eq_some hmem (hbscope.trans hscope) hstate
      fun c hc hcid _ _ => by rw [honly c hc hcid]
    rwa [hid, hversion] at hcurrent
  · intro hrouted
    obtain ⟨c, hc, hcid, hcrouting⟩ := hrouted _ (List.mem_singleton_self _)
    obtain rfl := honly c hc (hcid.trans hid.symm)
    exact hrouting hcrouting

end Registry

/-! ### The sealed checkout binding -/

/-- The digest function on the text of the checkout context. -/
def checkoutHash : String → HexDigest :=
  hashTable
    [((String.singleton '\x1f').intercalate
        ["scope_checkout_prod", "org:acme:bu:commerce:team:payments:project:checkout:env:prod", "1",
          "binding_checkout_prod:1"],
      .ofNat 0xcd17bfabf16a1ce2666af218297c9f2f095899f8ae87ce02369d80044d3344cf)]

/-- The registry in which the checkout binding was reviewed. -/
def checkoutRegistry : InMemoryResourceScopeBindingRegistry :=
  InMemoryResourceScopeBindingRegistry.registerReviewed ⟨.empty⟩ checkoutBinding

/-- The same registry in PostgreSQL. -/
def checkoutPostgres : PostgresResourceScopeBindingRegistry where
  rows := checkoutRegistry.rows
  scopeIds := ["scope_checkout_prod"]
  collation a b := a ≤ b
  foreignKey i b h := by
    by_cases hi : i = "binding_checkout_prod"
    · subst hi
      obtain rfl : checkoutBinding = b := Option.some.inj h
      exact List.mem_singleton_self _
    · have hnone : checkoutRegistry.rows.bindings.get? i = none :=
        Dict.get?_set_of_ne _ _ hi
      rw [hnone] at h
      cases h

/-- The context sealed from the checkout binding. -/
def checkoutContext : ResolvedResourceScopeContext checkoutHash :=
  checkoutContents.context checkoutHash

/-- The checkout binding, reviewed again under its old version for another account. -/
def reroutedBinding : CloudResourceContainerBinding :=
  { checkoutBinding with
    containerReference := "999999999999"
    containerReference_length := by decide }

/-! ### What a freshness check promises -/

/-- **A fresh context is routed as sealed, in both registries, unless a call rerouted a sealed
binding under its old version.** -/
theorem routed_as_sealed_unless_rerouted (sha256 : String → HexDigest) :
    (∀ (registry : InMemoryResourceScopeBindingRegistry) (scope : ResourceScope)
        (authorization : ResourceScopeAuthorizationDecision)
        (governance : ResourceScopeGovernanceDecision) (binding : CloudResourceContainerBinding)
        (context : ResolvedResourceScopeContext sha256) (ops : List BindingOperation)
        (current : Option ResourceScope),
      binding ∈ activeBindings registry scope.scopeId →
      sealContext sha256 scope authorization governance binding = .ok context →
      (∀ op ∈ ops, op.KeepsRouting binding) →
      requiresFreshResolution context current
        (currentBindings (run registry ops) current) = false →
      RoutedAsSealed (run registry ops) context binding) ∧
    (∀ (registry : PostgresResourceScopeBindingRegistry) (scope : ResourceScope)
        (authorization : ResourceScopeAuthorizationDecision)
        (governance : ResourceScopeGovernanceDecision) (binding : CloudResourceContainerBinding)
        (context : ResolvedResourceScopeContext sha256) (ops : List BindingOperation)
        (current : Option ResourceScope),
      binding ∈ activeBindings registry scope.scopeId →
      sealContext sha256 scope authorization governance binding = .ok context →
      (∀ op ∈ ops, op.KeepsRouting binding) →
      requiresFreshResolution context current
        (currentBindings (run registry ops) current) = false →
      RoutedAsSealed (run registry ops) context binding) :=
  ⟨fun _ _ _ _ _ _ _ _ hbinding hseal hops hfresh =>
      routedAsSealed_of_fresh hbinding hseal hops hfresh,
    fun _ _ _ _ _ _ _ _ hbinding hseal hops hfresh =>
      routedAsSealed_of_fresh hbinding hseal hops hfresh⟩

/-- The calls of a history after which the checkout context is fresh: the binding is suspended,
reviewed for another account under the next version, reviewed again as it was, and suspended and
reactivated once more. -/
def checkoutHistory : List BindingOperation :=
  [.setState "binding_checkout_prod" .suspended,
    .registerReviewed { reroutedBinding with version := 2, version_pos := Nat.two_pos },
    .registerReviewed checkoutBinding,
    .setState "binding_checkout_prod" .suspended,
    .setState "binding_checkout_prod" .active]

theorem checkout_routed_as_sealed :
    RoutedAsSealed (run checkoutRegistry checkoutHistory) checkoutContext checkoutBinding ∧
      RoutedAsSealed (run checkoutPostgres checkoutHistory) checkoutContext checkoutBinding := by
  obtain ⟨hmemory, hpostgres⟩ := routed_as_sealed_unless_rerouted checkoutHash
  exact ⟨hmemory checkoutRegistry checkoutScope ⟨true, []⟩ ⟨true, false, []⟩ checkoutBinding
      checkoutContext checkoutHistory (some checkoutScope) (by decide) rfl (by decide) (by decide),
    hpostgres checkoutPostgres checkoutScope ⟨true, []⟩ ⟨true, false, []⟩ checkoutBinding
      checkoutContext checkoutHistory (some checkoutScope) (by decide) rfl (by decide) (by decide)⟩

/-- A registration under the old id and version reroutes the binding of a fresh context. -/
theorem checkout_rerouted_unnoticed :
    checkoutBinding ∈ activeBindings checkoutRegistry checkoutScope.scopeId ∧
      sealContext checkoutHash checkoutScope ⟨true, []⟩ ⟨true, false, []⟩ checkoutBinding
        = .ok checkoutContext ∧
      requiresFreshResolution checkoutContext (some checkoutScope)
        (currentBindings (run checkoutRegistry [.registerReviewed reroutedBinding])
          (some checkoutScope)) = false ∧
      ¬ RoutedAsSealed (run checkoutRegistry [.registerReviewed reroutedBinding]) checkoutContext
        checkoutBinding := by
  have hseal : sealContext checkoutHash checkoutScope ⟨true, []⟩ ⟨true, false, []⟩ checkoutBinding
      = .ok checkoutContext := rfl
  have hcall : registerReviewed checkoutRegistry reroutedBinding
      = .ok (run checkoutRegistry [.registerReviewed reroutedBinding]) := rfl
  exact ⟨by decide, hseal, fresh_of_reroute hseal hcall rfl (by decide)⟩

end PlatformOps
