/-
**The execution gate.**

The gate is the last deterministic check before an injected executor runs a plan.  It looks up the
approval, compares the sealed context with the current records, picks the sealed binding among the
current ones and asks governance about its provider.  Every check that fails denies the execution.

Two views of the bindings meet here.  The freshness check reads the active bindings of the scope;
the governance check is made for the last of all bindings that carries the sealed identifier.

Main definitions:

* `ProvisionExecutionGate`, `ProvisionExecutionGate.checkExecution` — the gate and its checks;
* `ProvisionExecutionGate.execute` — the checks and, after them, the executor;
* `Authorized`, `GuardedByAuthorization` — what must hold where the executor is called;
* `SelectedAsSealed` — the selected binding is the sealed one.

Main results:

* `checkExecution_eq_ok_iff` — the executions that pass;
* `execute_denied_or_called` — an execution is denied before the executor, or it calls it;
* `guardedByAuthorization_iff` — **the gate calls the executor for authorized executions only,
  exactly when the selected binding is the sealed one or the gate denies on another ground**.
-/

import PlatformOps.Preflight
import PlatformOps.ProvisionPlan

set_option relaxedAutoImplicit false
set_option autoImplicit false

namespace PlatformOps

/-- Why an execution ended without evidence: it was denied, or the executor raised. -/
inductive ExecutionError (ε : Type)
  | denied (message : String)
  | executor (fault : ε)

/-- Evidence of an execution, by reference only. -/
structure ProvisionExecutionEvidence (τ : Type) where
  planDigest : HexDigest
  approvalDigest : HexDigest
  contextDigest : HexDigest
  bindingIds : List String
  approvedBy : PrincipalReference
  recordedAt : τ

/-- What the gate reads: the policies and the active approvals by plan digest. -/
structure ProvisionExecutionGate where
  governance : ResourceScopeGovernancePolicyStore
  approvals : HexDigest → Option ProvisionApprovalDigest

/-- The binding an identifier selects: the last one that carries it. -/
def selectedBinding (bindings : List CloudResourceContainerBinding) (bindingId : String) :
    Option CloudResourceContainerBinding :=
  (Dict.ofPairs (bindings.map fun b => (b.bindingId, b))).get? bindingId

/-- What governance is asked about a binding before an approved execution. -/
def approvedRequest (scope : ResourceScope) (binding : CloudResourceContainerBinding) :
    ResourceScopeGovernanceRequest :=
  { unapprovedRequest scope binding .requestProvision with approvalPresent := true }

namespace ProvisionExecutionGate

variable {sha256 : String → HexDigest} {ε τ : Type} (gate : ProvisionExecutionGate)

/-- The checks, in their order; they return the approval. -/
def checkExecution (plan : ProvisionPlan sha256) (scope : Option ResourceScope)
    (bindings : List CloudResourceContainerBinding) : Except String ProvisionApprovalDigest :=
  match (gate.approvals plan.planDigest).filter (·.matchesPlan plan) with
  | none => .error "approval does not match the sealed provision plan"
  | some approval =>
      if requiresFreshResolution plan.context scope bindings then
        .error "resolved scope context changed; a fresh provision run is required"
      else
        match scope with
        | none => .error "resolved scope context is unavailable"
        | some scope =>
            match plan.context.bindingVersions.map (·.bindingId) with
            | [bindingId] =>
                match selectedBinding bindings bindingId with
                | none => .error "resolved provider binding is unavailable"
                | some selected =>
                    if !(gate.governance.evaluate (approvedRequest scope selected)).allowed then
                      .error
                        "current governance does not permit execution; a fresh provision run is required"
                    else .ok approval
            | _ => .error "execution requires exactly one resolved provider binding"

/-- Run the checks, then the executor.  The first component lists the plans it was called with. -/
def execute (executor : ProvisionPlan sha256 → Except ε Unit) (clock : τ)
    (plan : ProvisionPlan sha256) (scope : Option ResourceScope)
    (bindings : List CloudResourceContainerBinding) (now : Option τ) :
    List (ProvisionPlan sha256) × Except (ExecutionError ε) (ProvisionExecutionEvidence τ) :=
  match gate.checkExecution plan scope bindings with
  | .error message => ([], .error (.denied message))
  | .ok approval =>
      ([plan],
        match executor plan with
        | .error fault => .error (.executor fault)
        | .ok () =>
            .ok
              { planDigest := plan.planDigest
                approvalDigest := plan.approvalDigest
                contextDigest := plan.context.resolutionDigest
                bindingIds := plan.context.bindingVersions.map (·.bindingId)
                approvedBy := approval.approvedBy
                recordedAt := now.getD clock })

/-! ### The checks -/

variable {gate} {plan : ProvisionPlan sha256} {scope : Option ResourceScope}
  {bindings : List CloudResourceContainerBinding} {approval : ProvisionApprovalDigest}

/-- **The executions that pass**: approved, fresh, with one sealed binding, and permitted by
governance with the provider of the binding it selects. -/
theorem checkExecution_eq_ok_iff :
    gate.checkExecution plan scope bindings = .ok approval ↔
      gate.approvals plan.planDigest = some approval ∧ approval.matchesPlan plan = true ∧
        requiresFreshResolution plan.context scope bindings = false ∧
        ∃ s snapshot selected, scope = some s ∧ plan.context.bindingVersions = [snapshot] ∧
          selectedBinding bindings snapshot.bindingId = some selected ∧
          (gate.governance.evaluate (approvedRequest s selected)).allowed = true := by
  unfold checkExecution
  constructor
  · intro h
    split at h
    · cases h
    · next approval' happroval =>
        obtain ⟨hfind, hmatches⟩ := Option.filter_eq_some_iff.1 happroval
        split_ifs at h with hfresh
        cases scope with
        | none => cases h
        | some s =>
            simp only at h
            split at h
            · next bindingId hids =>
                split at h
                · cases h
                · next selected hselected =>
                    split_ifs at h with hgov
                    cases h
                    obtain ⟨snapshot, hsnapshot, rfl⟩ := List.map_eq_singleton_iff.1 hids
                    exact ⟨hfind, hmatches, by simpa using hfresh, s, snapshot, selected, rfl,
                      hsnapshot, hselected, by simpa using hgov⟩
            · cases h
  · rintro ⟨hfind, hmatches, hfresh, s, snapshot, selected, rfl, hone, hselected, hgov⟩
    rw [Option.filter_eq_some_iff.2 ⟨hfind, hmatches⟩]
    simp [hfresh, hone, hselected, hgov]

variable (gate plan scope bindings) in
/-- **An execution is denied before the executor, or it calls it with the plan.** -/
theorem execute_denied_or_called (executor : ProvisionPlan sha256 → Except ε Unit) (clock : τ)
    (now : Option τ) :
    (∃ message, gate.checkExecution plan scope bindings = .error message ∧
        gate.execute executor clock plan scope bindings now = ([], .error (.denied message))) ∨
      ∃ approval, gate.checkExecution plan scope bindings = .ok approval ∧
        (gate.execute executor clock plan scope bindings now).1 = [plan] := by
  unfold execute
  cases h : gate.checkExecution plan scope bindings with
  | error message => exact Or.inl ⟨message, rfl, rfl⟩
  | ok approval => exact Or.inr ⟨approval, rfl, rfl⟩

/-! ### The two views of the bindings -/

/-- The selected binding is among the current ones and carries the identifier. -/
theorem mem_of_selectedBinding {bindingId : String} {b : CloudResourceContainerBinding}
    (h : selectedBinding bindings bindingId = some b) : b ∈ bindings ∧ b.bindingId = bindingId := by
  have hmem := Dict.mem_of_get?_ofPairs h
  simp only [List.mem_map, Prod.mk.injEq] at hmem
  obtain ⟨c, hc, hid, rfl⟩ := hmem
  exact ⟨hc, hid⟩

/-- A fresh context selects a binding for each identifier it sealed. -/
theorem exists_selected_of_fresh {context : ResolvedResourceScopeContext sha256}
    (h : requiresFreshResolution context scope bindings = false) {snapshot : ResolvedBindingVersion}
    (hs : snapshot ∈ context.bindingVersions) :
    ∃ selected, selectedBinding bindings snapshot.bindingId = some selected := by
  obtain ⟨b, hb, hid, -⟩ := exists_active_of_fresh h hs
  exact Dict.exists_get?_ofPairs (List.mem_map.2 ⟨b, hb, by rw [hid]⟩)

/-- Whatever a sealed identifier selects is active, of the sealed scope and of the sealed version. -/
def SelectedAsSealed (context : ResolvedResourceScopeContext sha256)
    (bindings : List CloudResourceContainerBinding) : Prop :=
  ∀ snapshot ∈ context.bindingVersions, ∀ selected,
    selectedBinding bindings snapshot.bindingId = some selected →
      selected.state = .active ∧ selected.scopeId = context.scopeId ∧
        selected.version = snapshot.version

/-- Among bindings with distinct identifiers, those of a fresh context are selected as sealed. -/
theorem selectedAsSealed_of_nodup {context : ResolvedResourceScopeContext sha256}
    (hnodup : (bindings.map (·.bindingId)).Nodup)
    (h : requiresFreshResolution context scope bindings = false) :
    SelectedAsSealed context bindings := by
  intro snapshot hs selected hselected
  obtain ⟨b, hb, hid, hversion, hscope, hstate⟩ := exists_active_of_fresh h hs
  obtain ⟨hmem, hselected'⟩ := mem_of_selectedBinding hselected
  obtain rfl : selected = b :=
    List.inj_on_of_nodup_map hnodup hmem hb (hselected'.trans hid.symm)
  exact ⟨hstate, hscope, hversion⟩

/-! ### Authorized executions -/

variable (gate plan scope bindings) in
/-- The execution of a plan is authorized: a stored approval matches it, the current scope is the
sealed one and active, and the binding that governance is asked about is active, belongs to the
plan's scope, has the sealed version and is permitted. -/
def Authorized : Prop :=
  (∃ approval, gate.approvals plan.planDigest = some approval ∧
      approval.matchesPlan plan = true) ∧
    ∃ s, scope = some s ∧ s.isCompleteAndActive = true ∧ s.scopeId = plan.context.scopeId ∧
      s.canonicalPath = plan.context.canonicalPath ∧ s.version = plan.context.scopeVersion ∧
      ∃ snapshot selected, plan.context.bindingVersions = [snapshot] ∧
        selectedBinding bindings snapshot.bindingId = some selected ∧
        selected.state = .active ∧ selected.scopeId = plan.context.scopeId ∧
        selected.version = snapshot.version ∧
        (gate.governance.evaluate (approvedRequest s selected)).allowed = true

variable (gate plan scope bindings) in
/-- The executor is called for authorized executions only; all others are denied before it. -/
def GuardedByAuthorization (executor : ProvisionPlan sha256 → Except ε Unit) (clock : τ)
    (now : Option τ) : Prop :=
  ((gate.execute executor clock plan scope bindings now).1 ≠ [] →
      gate.Authorized plan scope bindings) ∧
    (¬ gate.Authorized plan scope bindings →
      ∃ message, gate.execute executor clock plan scope bindings now
        = ([], .error (.denied message)))

variable (gate plan scope bindings) in
/-- A check other than the one on the selected binding denies the execution. -/
def DeniedOtherwise : Prop :=
  (∀ approval, gate.approvals plan.planDigest = some approval →
      approval.matchesPlan plan = false) ∨
    requiresFreshResolution plan.context scope bindings = true ∨
    plan.context.bindingVersions.length ≠ 1 ∨
    ∃ s snapshot selected, scope = some s ∧ snapshot ∈ plan.context.bindingVersions ∧
      selectedBinding bindings snapshot.bindingId = some selected ∧
      (gate.governance.evaluate (approvedRequest s selected)).allowed = false

/-- The gate is guarded where passing the checks means being authorized. -/
theorem guardedByAuthorization_iff_checks {executor : ProvisionPlan sha256 → Except ε Unit}
    {clock : τ} {now : Option τ} :
    gate.GuardedByAuthorization plan scope bindings executor clock now ↔
      ∀ approval, gate.checkExecution plan scope bindings = .ok approval →
        gate.Authorized plan scope bindings := by
  rcases execute_denied_or_called gate plan scope bindings executor clock now with
    ⟨message, hcheck, hdenied⟩ | ⟨approval, hcheck, hcalled⟩
  · rw [GuardedByAuthorization, hcheck, hdenied]
    simp
  · rw [GuardedByAuthorization, hcheck, hcalled]
    constructor
    · intro h _ _
      exact h.1 (List.cons_ne_nil _ _)
    · intro h
      have hauthorized := h approval rfl
      exact ⟨fun _ => hauthorized, fun hnot => absurd hauthorized hnot⟩

/-- **The gate calls the executor for authorized executions only, exactly when the selected binding
is the sealed one or the gate denies on another ground.** -/
theorem guardedByAuthorization_iff {executor : ProvisionPlan sha256 → Except ε Unit} {clock : τ}
    {now : Option τ} :
    gate.GuardedByAuthorization plan scope bindings executor clock now ↔
      SelectedAsSealed plan.context bindings ∨ gate.DeniedOtherwise plan scope bindings := by
  rw [guardedByAuthorization_iff_checks]
  constructor
  · intro h
    by_cases hdenied : gate.DeniedOtherwise plan scope bindings
    · exact Or.inr hdenied
    · refine Or.inl ?_
      simp only [DeniedOtherwise, not_or, not_forall, not_exists, not_and, Bool.not_eq_false,
        Bool.not_eq_true, not_not] at hdenied
      obtain ⟨⟨approval, hfind, hmatches⟩, hfresh, hlength, hgov⟩ := hdenied
      obtain ⟨snapshot, hone⟩ := List.length_eq_one_iff.1 hlength
      have hsnapshot : snapshot ∈ plan.context.bindingVersions := by
        rw [hone]
        exact List.mem_singleton_self snapshot
      obtain ⟨s, rfl, -⟩ := requiresFreshResolution_eq_false_iff.1 hfresh
      obtain ⟨selected, hselected⟩ := exists_selected_of_fresh hfresh hsnapshot
      have hallowed := hgov s snapshot selected rfl hsnapshot hselected
      -- no check denies the execution, so it is authorized
      obtain ⟨-, s', -, -, -, -, -, snapshot', selected', hone', hselected', hsealed⟩ :=
        h approval (checkExecution_eq_ok_iff.2
          ⟨hfind, hmatches, hfresh, s, snapshot, selected, rfl, hone, hselected, hallowed⟩)
      intro snapshot'' hsnapshot'' selected'' hselected''
      rw [hone', List.mem_singleton] at hsnapshot''
      subst hsnapshot''
      rw [hselected', Option.some.injEq] at hselected''
      subst hselected''
      exact ⟨hsealed.1, hsealed.2.1, hsealed.2.2.1⟩
  · intro h approval hcheck
    obtain ⟨hfind, hmatches, hfresh, s, snapshot, selected, rfl, hone, hselected, hallowed⟩ :=
      checkExecution_eq_ok_iff.1 hcheck
    have hsnapshot : snapshot ∈ plan.context.bindingVersions := by
      rw [hone]
      exact List.mem_singleton_self snapshot
    -- each of the other grounds contradicts a check that passed
    rcases h with hsealed | hunmatched | hnotfresh | hlength | hrefused
    · obtain ⟨s', hs', hactive, hid, hpath, hversion, -⟩ :=
        requiresFreshResolution_eq_false_iff.1 hfresh
      obtain rfl := Option.some.inj hs'
      obtain ⟨hstate, hscope, hver⟩ := hsealed snapshot hsnapshot selected hselected
      exact ⟨⟨approval, hfind, hmatches⟩, s, rfl, hactive, hid, hpath, hversion, snapshot,
        selected, hone, hselected, hstate, hscope, hver, hallowed⟩
    · rw [hunmatched approval hfind] at hmatches
      cases hmatches
    · rw [hfresh] at hnotfresh
      cases hnotfresh
    · rw [hone] at hlength
      exact absurd rfl hlength
    · obtain ⟨s', snapshot', selected', hs', hsnapshot', hselected', hrefused'⟩ := hrefused
      obtain rfl := Option.some.inj hs'
      rw [hone, List.mem_singleton] at hsnapshot'
      subst hsnapshot'
      rw [hselected, Option.some.injEq] at hselected'
      subst hselected'
      rw [hallowed] at hrefused'
      cases hrefused'

end ProvisionExecutionGate

/-! ### What the gate guards -/

/-- **The gate is guarded by authorization exactly when the selected binding is the sealed one or
the gate denies on another ground.** -/
theorem gate_guarded_iff_selected_as_sealed (sha256 : String → HexDigest) {ε τ : Type}
    (gate : ProvisionExecutionGate) (executor : ProvisionPlan sha256 → Except ε Unit) (clock : τ)
    (plan : SealedProvisionPlan sha256) (scope : Option ResourceScope)
    (bindings : List CloudResourceContainerBinding) (now : Option τ) :
    gate.GuardedByAuthorization plan.toProvisionPlan scope bindings executor clock now ↔
      ProvisionExecutionGate.SelectedAsSealed plan.context bindings ∨
        gate.DeniedOtherwise plan.toProvisionPlan scope bindings :=
  ProvisionExecutionGate.guardedByAuthorization_iff

/-- A gate without policies, with one approval on record. -/
def gateWithApproval (approval : ProvisionApprovalDigest) : ProvisionExecutionGate where
  governance := inMemoryPolicyStore []
  approvals planDigest := if approval.planDigest = planDigest then some approval else none

theorem gateWithApproval_find {sha256 : String → HexDigest} (plan : ProvisionPlan sha256)
    (approvedBy : PrincipalReference) :
    (gateWithApproval (.forPlan plan approvedBy)).approvals plan.planDigest
      = some (.forPlan plan approvedBy) :=
  if_pos rfl

/-- The plan that Bob approved. -/
def approvedPlan : ProvisionPlan planHash := (checkoutPlan "checkout.example.com").toProvisionPlan

/-- The gate with Bob's approval. -/
def checkoutGate : ProvisionExecutionGate := gateWithApproval (.forPlan approvedPlan bob)

/-- A suspended binding under the identifier of the checkout binding. -/
def suspendedBinding : CloudResourceContainerBinding :=
  { checkoutBinding with
    state := .suspended
    version := 2
    containerReference := "999999999999"
    version_pos := Nat.two_pos
    containerReference_length := reroutedBinding.containerReference_length }

/-- With a suspended binding behind the sealed one, the executor is called for an execution that is
not authorized. -/
theorem suspended_binding_selected :
    (checkoutGate.execute (fun _ => (.ok () : Except Empty Unit)) () approvedPlan
        (some checkoutScope) [checkoutBinding, suspendedBinding] none).1
      = [approvedPlan] ∧
    ¬ checkoutGate.Authorized approvedPlan (some checkoutScope)
      [checkoutBinding, suspendedBinding] := by
  have hfresh : requiresFreshResolution approvedPlan.context (some checkoutScope)
      [checkoutBinding, suspendedBinding] = false := by
    decide
  have hselected : selectedBinding [checkoutBinding, suspendedBinding] "binding_checkout_prod"
      = some suspendedBinding := by
    decide
  have hcheck := ProvisionExecutionGate.checkExecution_eq_ok_iff.2
    ⟨gateWithApproval_find approvedPlan bob, ProvisionApprovalDigest.forPlan_matchesPlan _ _, hfresh,
      checkoutScope, _, suspendedBinding, rfl, rfl, hselected, by decide⟩
  constructor
  · rcases checkoutGate.execute_denied_or_called approvedPlan (some checkoutScope)
      [checkoutBinding, suspendedBinding] (fun _ => (.ok () : Except Empty Unit)) () none with
      ⟨message, hdenied, -⟩ | ⟨-, -, hcalled⟩
    · rw [checkoutGate, hcheck] at hdenied
      cases hdenied
    · exact hcalled
  · rintro ⟨-, s, hs, -, -, -, -, snapshot, selected, hone, hselected', hstate, -⟩
    cases hone
    have hsame := hselected.symm.trans hselected'
    cases hsame
    cases hstate

end PlatformOps
