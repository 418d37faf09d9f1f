/-
**What is approved and what is executed.**

A plan object is frozen: no field of it, or of the objects it holds, can be assigned.  The map of its
inputs is a dictionary all the same, and whoever holds the plan can write to it.  The gate and the
approval compare the digests that are stored in the plan, so they see the plan as it was sealed,
while the executor gets it as it is.

Main definitions:

* `PlanOperation`, `ProvisionPlan.after` — what a holder can do to a plan, and the plan afterwards;
* `ApprovedIsExecuted` — a plan that is handed over digests to what its approval records.

Main results:

* `checkExecution_after` — **no operation changes what the gate decides**;
* `approvedIsExecuted_iff` — what is executed is what was approved exactly when the inputs are as
  they were sealed, or the gate denies the plan.
-/

import PlatformOps.ProvisionExecution

set_option relaxedAutoImplicit false
set_option autoImplicit false

namespace PlatformOps

/-- What the holder of a plan can attempt. -/
inductive PlanOperation
  | setItem (key value : String)
  | delItem (key : String)
  | setDefault (key value : String)
  | update (items : List (String × String))
  | popItem
  | clear
  /-- Assign a field of the plan or of one of its parts. -/
  | assignField (field : String)

/-- The inputs after an operation; one that raises leaves them as they were. -/
def PlanOperation.apply (inputs : Dict String String) : PlanOperation → Dict String String
  | .setItem key value => inputs.set key value
  | .delItem key => inputs.erase key
  | .setDefault key value => if (inputs.get? key).isSome then inputs else inputs.set key value
  | .update items => items.foldl (fun d p => d.set p.1 p.2) inputs
  | .popItem =>
      match inputs.entries.getLast? with
      | some (key, _) => inputs.erase key
      | none => inputs
  | .clear => .empty
  -- every model of the plan is frozen
  | .assignField _ => inputs

section Plans

variable {sha256 : String → HexDigest}

/-- The plan after some operations. -/
def ProvisionPlan.after (plan : ProvisionPlan sha256) (ops : List PlanOperation) :
    ProvisionPlan sha256 :=
  { plan with inputs := ops.foldl PlanOperation.apply plan.inputs }

theorem ProvisionPlan.after_cons (plan : ProvisionPlan sha256) (op : PlanOperation)
    (ops : List PlanOperation) : plan.after (op :: ops) = (plan.after [op]).after ops := rfl

variable {ε τ : Type} {gate : ProvisionExecutionGate} {scope : Option ResourceScope}
  {bindings : List CloudResourceContainerBinding}

/-- One operation does not change what the gate decides. -/
theorem checkExecution_after_one (plan : ProvisionPlan sha256) (op : PlanOperation) :
    gate.checkExecution (plan.after [op]) scope bindings =
      gate.checkExecution plan scope bindings :=
  rfl

/-- **No operation changes what the gate decides.** -/
theorem checkExecution_after (plan : ProvisionPlan sha256) (ops : List PlanOperation) :
    gate.checkExecution (plan.after ops) scope bindings
      = gate.checkExecution plan scope bindings := by
  induction ops generalizing plan with
  | nil => rfl
  | cons op ops ih => rw [ProvisionPlan.after_cons, ih, checkExecution_after_one]

variable (gate scope bindings) in
/-- Where the gate hands the plan to the executor, its contents digest to what the approval
records. -/
def ApprovedIsExecuted (executor : ProvisionPlan sha256 → Except ε Unit) (clock : τ)
    (plan : ProvisionPlan sha256) (now : Option τ) : Prop :=
  ∀ executed ∈ (gate.execute executor clock plan scope bindings now).1,
    ∃ approval, gate.approvals executed.planDigest = some approval ∧
      sealedDigests sha256 executed.context executed.policy executed.inputs
        = (approval.planDigest, approval.approvalDigest)

/-- The digests of a plan are those of its contents as long as these are sealed. -/
theorem sealedDigests_after_iff {plan : SealedProvisionPlan sha256} {ops : List PlanOperation}
    (hinj : Set.InjOn sha256
      (planTexts plan.toProvisionPlan ∪ planTexts (plan.toProvisionPlan.after ops))) :
    sealedDigests sha256 plan.context plan.policy (ops.foldl PlanOperation.apply plan.inputs)
        = (plan.planDigest, plan.approvalDigest) ↔
      (ops.foldl PlanOperation.apply plan.inputs).SameMap plan.inputs := by
  rw [plan.isSealed.digests_eq]
  constructor
  · intro h
    have hplan := congrArg Prod.fst h
    simp only [sealedDigests] at hplan
    have htext := hinj (by simp [planTexts, ProvisionPlan.after])
      (by simp [planTexts, ProvisionPlan.after]) hplan
    exact (planText_inj htext).2.2
  · intro h
    simp only [sealedDigests, planText_congr h]

/-- What is executed is what was approved exactly when the inputs are as they were sealed, or the
gate denies the plan. -/
theorem approvedIsExecuted_iff {executor : ProvisionPlan sha256 → Except ε Unit} {clock : τ}
    {plan : SealedProvisionPlan sha256} {ops : List PlanOperation} {now : Option τ}
    (hinj : Set.InjOn sha256
      (planTexts plan.toProvisionPlan ∪ planTexts (plan.toProvisionPlan.after ops))) :
    ApprovedIsExecuted gate scope bindings executor clock (plan.toProvisionPlan.after ops) now ↔
      (ops.foldl PlanOperation.apply plan.inputs).SameMap plan.inputs ∨
        ∃ message, gate.checkExecution plan.toProvisionPlan scope bindings = .error message := by
  rw [← sealedDigests_after_iff hinj]
  rcases gate.execute_denied_or_called (plan.toProvisionPlan.after ops) scope bindings executor
    clock now with ⟨message, hcheck, hdenied⟩ | ⟨approval, hcheck, hcalled⟩
  · rw [checkExecution_after] at hcheck
    constructor
    · intro _
      exact Or.inr ⟨message, hcheck⟩
    · intro _ executed hmem
      rw [hdenied] at hmem
      cases hmem
  · rw [checkExecution_after] at hcheck
    obtain ⟨hfind, hmatches, -⟩ := ProvisionExecutionGate.checkExecution_eq_ok_iff.1 hcheck
    -- the approval records the digests the plan was sealed with
    obtain ⟨hplan, happroval⟩ := ProvisionApprovalDigest.matchesPlan_iff.1 hmatches
    constructor
    · intro h
      obtain ⟨approval', hfind', hdigests⟩ := h (plan.toProvisionPlan.after ops)
        (by rw [hcalled]; exact List.mem_singleton_self _)
      obtain rfl : approval = approval' := Option.some.inj (hfind.symm.trans hfind')
      rw [hplan, happroval] at hdigests
      exact Or.inl hdigests
    · rintro (hdigests | ⟨message, hdenied⟩) executed hmem
      · rw [hcalled, List.mem_singleton] at hmem
        subst hmem
        refine ⟨approval, hfind, ?_⟩
        rw [hplan, happroval]
        exact hdigests
      · rw [hcheck] at hdenied
        cases hdenied

end Plans

/-! ### What the gate executes -/

/-- **What is executed is what was approved exactly when the holders left the inputs, as a map, as
they were sealed, or the gate denies the plan anyway.** -/
theorem executed_as_approved_iff_inputs_kept (sha256 : String → HexDigest) {ε τ : Type}
    (gate : ProvisionExecutionGate) (executor : ProvisionPlan sha256 → Except ε Unit) (clock : τ)
    (plan : SealedProvisionPlan sha256) (ops : List PlanOperation) (scope : Option ResourceScope)
    (bindings : List CloudResourceContainerBinding) (now : Option τ)
    (hinj : Set.InjOn sha256
      (planTexts plan.toProvisionPlan ∪ planTexts (plan.toProvisionPlan.after ops))) :
    ApprovedIsExecuted gate scope bindings executor clock (plan.toProvisionPlan.after ops) now ↔
      (ops.foldl PlanOperation.apply plan.inputs).SameMap plan.inputs ∨
        ∃ message, gate.checkExecution plan.toProvisionPlan scope bindings = .error message :=
  approvedIsExecuted_iff hinj

/-- The inputs are exchanged and put back. -/
def exchangeAndRestore : List PlanOperation :=
  [.setItem "frontend_hostname" "checkout.example.org",
    .setItem "frontend_hostname" "checkout.example.com"]

theorem inputs_restored :
    (approvedPlan.after exchangeAndRestore).inputs = frontendInputs "checkout.example.com" := by
  decide

theorem checkout_executed_as_approved :
    ApprovedIsExecuted checkoutGate (some checkoutScope) [checkoutBinding]
      (fun _ => (.ok () : Except Empty Unit)) () (approvedPlan.after exchangeAndRestore) none := by
  have hinputs : (exchangeAndRestore.foldl PlanOperation.apply approvedPlan.inputs).SameMap
      approvedPlan.inputs := by
    have hsame : exchangeAndRestore.foldl PlanOperation.apply approvedPlan.inputs
        = approvedPlan.inputs := inputs_restored
    rw [hsame]
    exact Dict.SameMap.refl _
  exact (executed_as_approved_iff_inputs_kept planHash checkoutGate _ ()
    (checkoutPlan "checkout.example.com") exchangeAndRestore (some checkoutScope) [checkoutBinding]
    none (IsCheckoutPlan.injOn ⟨rfl, rfl, Or.inl rfl⟩ ⟨rfl, rfl, Or.inl inputs_restored⟩)).2
    (Or.inl hinputs)

/-- The plan is approved for one hostname and executed for another. -/
theorem checkout_executed_otherwise :
    (checkoutGate.execute (fun _ => (.ok () : Except Empty Unit)) ()
        (approvedPlan.after [.setItem "frontend_hostname" "checkout.example.org"])
        (some checkoutScope) [checkoutBinding] none).1
      = [approvedPlan.after [.setItem "frontend_hostname" "checkout.example.org"]] ∧
    ¬ ApprovedIsExecuted checkoutGate (some checkoutScope) [checkoutBinding]
      (fun _ => (.ok () : Except Empty Unit)) ()
      (approvedPlan.after [.setItem "frontend_hostname" "checkout.example.org"]) none := by
  have hinputs : (approvedPlan.after
      [.setItem "frontend_hostname" "checkout.example.org"]).inputs
        = frontendInputs "checkout.example.org" := by
    decide
  have hfresh : requiresFreshResolution approvedPlan.context (some checkoutScope)
      [checkoutBinding] = false := by
    decide
  have hcheck : checkoutGate.checkExecution approvedPlan (some checkoutScope) [checkoutBinding]
      = .ok (.forPlan approvedPlan bob) :=
    ProvisionExecutionGate.checkExecution_eq_ok_iff.2
      ⟨gateWithApproval_find approvedPlan bob, ProvisionApprovalDigest.forPlan_matchesPlan _ _,
        hfresh, checkoutScope, _, checkoutBinding, rfl, rfl, by decide, by decide⟩
  constructor
  · rcases checkoutGate.execute_denied_or_called
      (approvedPlan.after [.setItem "frontend_hostname" "checkout.example.org"])
      (some checkoutScope) [checkoutBinding] (fun _ => (.ok () : Except Empty Unit)) () none with
      ⟨message, hdenied, -⟩ | ⟨-, -, hcalled⟩
    · rw [checkExecution_after, hcheck] at hdenied
      cases hdenied
    · exact hcalled
  · intro h
    have hinj : Set.InjOn planHash
        (planTexts (checkoutPlan "checkout.example.com").toProvisionPlan ∪
          planTexts ((checkoutPlan "checkout.example.com").toProvisionPlan.after
            [.setItem "frontend_hostname" "checkout.example.org"])) :=
      IsCheckoutPlan.injOn ⟨rfl, rfl, Or.inl rfl⟩ ⟨rfl, rfl, Or.inr hinputs⟩
    rcases (approvedIsExecuted_iff hinj).1 h with hsame | ⟨message, hdenied⟩
    · exact absurd (hsame "frontend_hostname") (by decide)
    · have hsealed : checkoutGate.checkExecution approvedPlan (some checkoutScope)
          [checkoutBinding] = .error message := hdenied
      rw [hcheck] at hsealed
      cases hsealed

end PlatformOps
