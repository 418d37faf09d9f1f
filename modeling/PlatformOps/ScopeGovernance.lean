/-
**Governance guardrails of a Resource Scope.**

Policies are attached to records of the hierarchy.  All policies of a scope apply together and can
only narrow: a policy may deny actions, restrict the providers and require an approval before
anything is provisioned.  A decision is allowed, approval-required or denied.

Main definitions:

* `ResourceScopeGovernancePolicy`, `ResourceScopeGovernancePolicyStore` — the guardrails;
* `ResourceScopeGovernancePolicyStore.evaluate` — the decision on an action with a provider;
* `GovernanceOutcome` — the three outcomes, in the order of what they permit;
* `ResourceScopeGovernancePolicy.verdict` — what one policy says alone.

Main results:

* `evaluate_allowed_iff`, `evaluate_approvalRequired_iff` — **the two outcomes that are no denial**;
* `evaluate_allowed_approved_iff` — an approval lifts nothing but the missing approval;
* `outcome_evaluate` — the decision is the lowest of the verdicts of the policies that apply;
* `governance_narrows` — **governance only narrows**: order does not matter, further policies never
  raise the outcome, an approval never lowers it and lifts no denial, one denial is enough.
-/

import Mathlib.Data.Multiset.Lattice
import PlatformOps.ScopeAccess

set_option relaxedAutoImplicit false
set_option autoImplicit false

namespace PlatformOps

/-- A guardrail on one record of the hierarchy. -/
structure ResourceScopeGovernancePolicy where
  targetKind : ScopeBindingTargetKind
  targetId : String
  allowedProviders : Finset String
  deniedActions : Finset ResourceScopeAction
  requireApprovalForProvision : Bool
  targetId_length : 1 ≤ targetId.length

/-- What a store of policies returns for a scope. -/
structure ResourceScopeGovernancePolicyStore where
  applicablePolicies : ResourceScope → List ResourceScopeGovernancePolicy

/-- The store kept in one process: the policies on the scope and on the records above it. -/
def inMemoryPolicyStore (policies : List ResourceScopeGovernancePolicy) :
    ResourceScopeGovernancePolicyStore where
  applicablePolicies scope :=
    let hierarchy : List (ScopeBindingTargetKind × String) :=
      [(.organization, scope.organization.organizationId),
        (.businessUnit, scope.businessUnit.businessUnitId),
        (.team, scope.team.teamId),
        (.project, scope.project.projectId),
        (.environment, scope.environment.environmentId),
        (.scope, scope.scopeId)]
    policies.filter fun policy => (policy.targetKind, policy.targetId) ∈ hierarchy

structure ResourceScopeGovernanceRequest where
  scope : ResourceScope
  provider : String
  action : ResourceScopeAction
  approvalPresent : Bool
  provider_length : 1 ≤ provider.length

structure ResourceScopeGovernanceDecision where
  allowed : Bool
  approvalRequired : Bool
  matchedPolicyTargets : List String
  deriving DecidableEq

/-- Decide an action on a scope with a provider. -/
def ResourceScopeGovernancePolicyStore.evaluate (store : ResourceScopeGovernancePolicyStore)
    (request : ResourceScopeGovernanceRequest) : ResourceScopeGovernanceDecision :=
  let policies := store.applicablePolicies request.scope
  let matched := policies.map fun policy => policy.targetKind.value ++ ":" ++ policy.targetId
  if policies.any fun policy => request.action ∈ policy.deniedActions then
    ⟨false, false, matched⟩
  else
    let restrictions := (policies.map (·.allowedProviders)).filter (· ≠ ∅)
    -- a provider is in the intersection of the restrictions when it is in each of them
    if restrictions ≠ [] && !restrictions.all (request.provider ∈ ·) then
      ⟨false, false, matched⟩
    else if request.action = .requestProvision &&
        policies.any (·.requireApprovalForProvision) && !request.approvalPresent then
      ⟨false, true, matched⟩
    else ⟨true, false, matched⟩

section Outcomes

variable (store : ResourceScopeGovernancePolicyStore) (request : ResourceScopeGovernanceRequest)

/-- No policy denies the action, and every restriction of the providers lists the provider. -/
def Permitted : Prop :=
  ∀ policy ∈ store.applicablePolicies request.scope,
    request.action ∉ policy.deniedActions ∧
      (policy.allowedProviders ≠ ∅ → request.provider ∈ policy.allowedProviders)

/-- A policy asks for an approval that is not there. -/
def AwaitsApproval : Prop :=
  request.action = .requestProvision ∧
    (∃ policy ∈ store.applicablePolicies request.scope, policy.requireApprovalForProvision = true) ∧
    request.approvalPresent = false

/-- The three decisions. -/
theorem evaluate_cases :
    (¬ Permitted store request ∧ (store.evaluate request).allowed = false ∧
        (store.evaluate request).approvalRequired = false) ∨
      (Permitted store request ∧ AwaitsApproval store request ∧
        (store.evaluate request).allowed = false ∧
        (store.evaluate request).approvalRequired = true) ∨
      (Permitted store request ∧ ¬ AwaitsApproval store request ∧
        (store.evaluate request).allowed = true ∧
        (store.evaluate request).approvalRequired = false) := by
  unfold ResourceScopeGovernancePolicyStore.evaluate Permitted AwaitsApproval
  simp only
  split_ifs with hdenied hrestricted happroval
  · refine Or.inl ⟨fun hall => ?_, rfl, rfl⟩
    obtain ⟨policy, hp, hact⟩ := List.any_eq_true.1 hdenied
    exact (hall policy hp).1 (by simpa using hact)
  · refine Or.inl ⟨fun hall => ?_, rfl, rfl⟩
    simp only [Bool.and_eq_true, Bool.not_eq_true', List.all_eq_false, List.mem_filter,
      List.mem_map, decide_eq_true_eq] at hrestricted
    obtain ⟨-, r, ⟨⟨policy, hp, rfl⟩, hne⟩, hnot⟩ := hrestricted
    exact hnot ((hall policy hp).2 hne)
  -- the two other decisions are about permitted actions
  all_goals
    have hpermitted : ∀ policy ∈ store.applicablePolicies request.scope,
        request.action ∉ policy.deniedActions ∧
          (policy.allowedProviders ≠ ∅ → request.provider ∈ policy.allowedProviders) := by
      intro policy hp
      refine ⟨fun hact => hdenied (List.any_eq_true.2 ⟨policy, hp, by simpa using hact⟩),
        fun hne => ?_⟩
      -- a restriction without the provider keeps it out of the intersection
      by_contra hnot
      refine hrestricted ?_
      have hmem : policy.allowedProviders ∈
          ((store.applicablePolicies request.scope).map (·.allowedProviders)).filter (· ≠ ∅) :=
        List.mem_filter.2 ⟨List.mem_map_of_mem hp, by simpa using hne⟩
      simp only [Bool.and_eq_true, Bool.not_eq_true', List.all_eq_false, decide_eq_true_eq]
      exact ⟨List.ne_nil_of_mem hmem, _, hmem, by simpa using hnot⟩
  · refine Or.inr (Or.inl ⟨hpermitted, ?_, rfl, rfl⟩)
    simpa [and_assoc] using happroval
  · refine Or.inr (Or.inr ⟨hpermitted, ?_, rfl, rfl⟩)
    simpa [and_assoc] using happroval

variable {store request}

/-- **An action is allowed when it is permitted and no approval is missing.** -/
theorem evaluate_allowed_iff :
    (store.evaluate request).allowed = true ↔
      Permitted store request ∧ ¬ AwaitsApproval store request := by
  rcases evaluate_cases store request with h | h | h <;> simp [h]

/-- **An approval is required when the action is permitted and an approval is missing.** -/
theorem evaluate_approvalRequired_iff :
    (store.evaluate request).approvalRequired = true ↔
      Permitted store request ∧ AwaitsApproval store request := by
  rcases evaluate_cases store request with h | h | h <;> simp [h]

/-- The two outcomes exclude each other. -/
theorem approvalRequired_eq_false_of_allowed (h : (store.evaluate request).allowed = true) :
    (store.evaluate request).approvalRequired = false := by
  rcases evaluate_cases store request with h' | h' | h' <;> simp_all

/-- Only provisioning awaits an approval. -/
theorem action_of_approvalRequired (h : (store.evaluate request).approvalRequired = true) :
    request.action = .requestProvision :=
  (evaluate_approvalRequired_iff.1 h).2.1

/-- An approval makes an action allowed exactly when nothing but the approval was missing. -/
theorem evaluate_allowed_approved_iff :
    (store.evaluate { request with approvalPresent := true }).allowed = true ↔
      (store.evaluate request).allowed = true ∨
        (store.evaluate request).approvalRequired = true := by
  have hnot : ¬ AwaitsApproval store { request with approvalPresent := true } := by
    simp [AwaitsApproval]
  rw [evaluate_allowed_iff, evaluate_allowed_iff, evaluate_approvalRequired_iff]
  have hsame : Permitted store { request with approvalPresent := true }
      ↔ Permitted store request := Iff.rfl
  rw [hsame]
  tauto

end Outcomes

/-! ### The lowest verdict -/

/-- The outcomes, from the lowest to the highest. -/
inductive GovernanceOutcome
  | denied
  | approvalRequired
  | allowed
  deriving DecidableEq

namespace GovernanceOutcome

def rank : GovernanceOutcome → ℕ
  | denied => 0
  | approvalRequired => 1
  | allowed => 2

theorem rank_injective : Function.Injective rank := by
  intro a b h
  cases a <;> cases b <;> first | rfl | cases h

instance : LinearOrder GovernanceOutcome := LinearOrder.lift' rank rank_injective

instance : OrderTop GovernanceOutcome where
  top := allowed
  le_top a := by cases a <;> decide

instance : OrderBot GovernanceOutcome where
  bot := denied
  bot_le a := by cases a <;> decide

end GovernanceOutcome

/-- The outcome that a decision stands for. -/
def ResourceScopeGovernanceDecision.outcome (decision : ResourceScopeGovernanceDecision) :
    GovernanceOutcome :=
  if decision.allowed then .allowed
  else if decision.approvalRequired then .approvalRequired
  else .denied

namespace ResourceScopeGovernancePolicy

variable (policy : ResourceScopeGovernancePolicy) (request : ResourceScopeGovernanceRequest)

/-- The policy denies the action, or has a list of providers without the provider. -/
def Denies : Prop :=
  request.action ∈ policy.deniedActions ∨
    policy.allowedProviders ≠ ∅ ∧ request.provider ∉ policy.allowedProviders

/-- The policy asks for an approval that is not there. -/
def Awaits : Prop :=
  request.action = .requestProvision ∧ policy.requireApprovalForProvision = true ∧
    request.approvalPresent = false

instance : Decidable (policy.Denies request) := inferInstanceAs (Decidable (_ ∨ _))

instance : Decidable (policy.Awaits request) := inferInstanceAs (Decidable (_ ∧ _))

/-- What the policy says alone. -/
def verdict : GovernanceOutcome :=
  if policy.Denies request then .denied
  else if policy.Awaits request then .approvalRequired
  else .allowed

end ResourceScopeGovernancePolicy

section LowestVerdict

variable {store : ResourceScopeGovernancePolicyStore} {request : ResourceScopeGovernanceRequest}

theorem permitted_iff :
    Permitted store request ↔
      ∀ policy ∈ store.applicablePolicies request.scope, ¬ policy.Denies request := by
  refine forall₂_congr fun policy _ => ?_
  unfold ResourceScopeGovernancePolicy.Denies
  tauto

theorem awaitsApproval_iff :
    AwaitsApproval store request ↔
      ∃ policy ∈ store.applicablePolicies request.scope, policy.Awaits request := by
  unfold AwaitsApproval ResourceScopeGovernancePolicy.Awaits
  tauto

/-- **The decision is the lowest of the verdicts of the policies that apply.** -/
theorem outcome_evaluate (store : ResourceScopeGovernancePolicyStore)
    (request : ResourceScopeGovernanceRequest) :
    (store.evaluate request).outcome =
      (((store.applicablePolicies request.scope).map (·.verdict request) :
        List GovernanceOutcome) : Multiset GovernanceOutcome).inf := by
  rcases evaluate_cases store request with
    ⟨hnot, hallowed, hrequired⟩ | ⟨hpermitted, hawaits, hallowed, hrequired⟩ |
      ⟨hpermitted, hawaits, hallowed, hrequired⟩
  · -- one verdict is the lowest of all
    obtain ⟨policy, hp, hdenies⟩ : ∃ policy ∈ store.applicablePolicies request.scope,
        policy.Denies request := by
      rw [permitted_iff] at hnot
      push Not at hnot
      exact hnot
    have hmem : GovernanceOutcome.denied ∈
        (store.applicablePolicies request.scope).map (·.verdict request) :=
      List.mem_map.2 ⟨policy, hp, if_pos hdenies⟩
    have hle := Multiset.inf_le (Multiset.mem_coe.2 hmem)
    have houtcome : (store.evaluate request).outcome = .denied := by
      simp [ResourceScopeGovernanceDecision.outcome, hallowed, hrequired]
    rw [houtcome]
    exact (le_bot_iff.1 hle).symm
  · rw [permitted_iff] at hpermitted
    obtain ⟨policy, hp, hpolicy⟩ := awaitsApproval_iff.1 hawaits
    have hverdict : policy.verdict request = .approvalRequired := by
      rw [ResourceScopeGovernancePolicy.verdict, if_neg (hpermitted policy hp), if_pos hpolicy]
    have houtcome : (store.evaluate request).outcome = .approvalRequired := by
      simp [ResourceScopeGovernanceDecision.outcome, hallowed, hrequired]
    rw [houtcome]
    refine le_antisymm (Multiset.le_inf.2 ?_) ?_
    · simp only [Multiset.mem_coe, List.mem_map]
      rintro _ ⟨other, hother, rfl⟩
      unfold ResourceScopeGovernancePolicy.verdict
      rw [if_neg (hpermitted other hother)]
      split
      · exact le_rfl
      · exact le_top
    · exact Multiset.inf_le (Multiset.mem_coe.2 (List.mem_map.2 ⟨policy, hp, hverdict⟩))
  · rw [permitted_iff] at hpermitted
    rw [awaitsApproval_iff] at hawaits
    have houtcome : (store.evaluate request).outcome = .allowed := by
      simp [ResourceScopeGovernanceDecision.outcome, hallowed]
    rw [houtcome]
    refine (top_le_iff.1 (Multiset.le_inf.2 ?_)).symm
    simp only [Multiset.mem_coe, List.mem_map]
    rintro _ ⟨policy, hp, rfl⟩
    have hnot : ¬ policy.Awaits request := fun h => hawaits ⟨policy, hp, h⟩
    rw [ResourceScopeGovernancePolicy.verdict, if_neg (hpermitted policy hp), if_neg hnot]
    exact le_rfl

/-- An approval lowers no verdict. -/
theorem verdict_le_approved (policy : ResourceScopeGovernancePolicy)
    (request : ResourceScopeGovernanceRequest) :
    policy.verdict request ≤ policy.verdict { request with approvalPresent := true } := by
  have hnot : ¬ policy.Awaits { request with approvalPresent := true } := by
    simp [ResourceScopeGovernancePolicy.Awaits]
  have hsame : policy.Denies { request with approvalPresent := true } ↔ policy.Denies request :=
    Iff.rfl
  unfold ResourceScopeGovernancePolicy.verdict
  by_cases hdenies : policy.Denies request
  · rw [if_pos hdenies, if_pos (hsame.2 hdenies)]
  · rw [if_neg hdenies, if_neg (fun h => hdenies (hsame.1 h)), if_neg hnot]
    exact le_top

/-- A decision is a denial exactly if one of the policies that apply denies. -/
theorem outcome_eq_denied_iff :
    (store.evaluate request).outcome = .denied ↔
      ∃ policy ∈ store.applicablePolicies request.scope, policy.Denies request := by
  have hiff : (store.evaluate request).outcome = .denied ↔ ¬ Permitted store request := by
    unfold ResourceScopeGovernanceDecision.outcome
    rcases evaluate_cases store request with h | h | h
    · simp [h]
    · simp [h]
    · simp [h]
  rw [hiff, permitted_iff]
  push Not
  rfl

/-- The policies that apply keep their order. -/
theorem applicablePolicies_sublist {policies more : List ResourceScopeGovernancePolicy}
    (h : policies.Sublist more) (scope : ResourceScope) :
    ((inMemoryPolicyStore policies).applicablePolicies scope).Sublist
      ((inMemoryPolicyStore more).applicablePolicies scope) :=
  h.filter _

/-- **Governance only narrows.** -/
theorem governance_narrows (policies : List ResourceScopeGovernancePolicy)
    (request : ResourceScopeGovernanceRequest) :
    (∀ reordered, policies.Perm reordered →
      ((inMemoryPolicyStore reordered).evaluate request).outcome =
        ((inMemoryPolicyStore policies).evaluate request).outcome) ∧
    (∀ more, policies.Sublist more →
      ((inMemoryPolicyStore more).evaluate request).outcome ≤
        ((inMemoryPolicyStore policies).evaluate request).outcome) ∧
    ((inMemoryPolicyStore policies).evaluate request).outcome ≤
      ((inMemoryPolicyStore policies).evaluate { request with approvalPresent := true }).outcome ∧
    (((inMemoryPolicyStore policies).evaluate request).outcome = .denied →
      ((inMemoryPolicyStore policies).evaluate { request with approvalPresent := true }).outcome =
        .denied) ∧
    ∀ policy ∈ (inMemoryPolicyStore policies).applicablePolicies request.scope,
      (request.action ∈ policy.deniedActions ∨
        policy.allowedProviders ≠ ∅ ∧ request.provider ∉ policy.allowedProviders) →
      ((inMemoryPolicyStore policies).evaluate request).outcome = .denied := by
  refine ⟨fun reordered h => ?_, fun more h => ?_, ?_, fun h => ?_, fun policy hp h => ?_⟩
  · rw [outcome_evaluate, outcome_evaluate]
    have hperm : ((inMemoryPolicyStore reordered).applicablePolicies request.scope).Perm
        ((inMemoryPolicyStore policies).applicablePolicies request.scope) := (h.filter _).symm
    rw [Multiset.coe_eq_coe.2 (hperm.map _)]
  · rw [outcome_evaluate, outcome_evaluate]
    exact Multiset.inf_mono ((applicablePolicies_sublist h request.scope).map _).subset
  · rw [outcome_evaluate, outcome_evaluate]
    refine Multiset.le_inf.2 fun verdict hverdict => ?_
    obtain ⟨policy, hp, rfl⟩ := List.mem_map.1 (Multiset.mem_coe.1 hverdict)
    have hmem := Multiset.mem_coe.2
      (List.mem_map_of_mem (f := fun p => p.verdict request) hp)
    exact (Multiset.inf_le hmem).trans (verdict_le_approved policy request)
  · rw [outcome_eq_denied_iff] at h ⊢
    exact h
  · exact outcome_eq_denied_iff.2 ⟨policy, hp, h⟩

end LowestVerdict

end PlatformOps
