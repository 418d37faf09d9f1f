/-
**Sealed provision plans and their approvals.**

A provision plan binds a sealed scope context, a trusted policy and the typed inputs.  It carries two
digests, of its contents and of its approval, and an approval receipt carries the same two.  The plan
object is frozen, but the map of its inputs is an ordinary dictionary; `ProvisionPlan` is therefore
the object as it stands in memory, and `ProvisionPlan.IsSealed` the condition that its constructor
checks.

Main definitions:

* `TrustedProvisionPolicy`, `ProvisionPlan`, `SealedProvisionPlan` — policies and plans;
* `sealedDigests`, `sealPlan` — the digests of a plan, and a plan that carries them;
* `ProvisionApprovalDigest`, `ProvisionApprovalDigest.matchesPlan` — the receipt of an approval.

Main results:

* `policyText_inj`, `planText_inj` — the digested texts determine what was put into them;
* `planDigest_eq_iff` — **with an injective digest function, plan digests are equal exactly when the
  context digests, the policies and the inputs as maps are**.
-/

import PlatformOps.Json
import PlatformOps.ResolvedScope

set_option relaxedAutoImplicit false
set_option autoImplicit false

namespace PlatformOps

/-- A versioned profile policy, selected by the workflow's configuration. -/
@[ext] structure TrustedProvisionPolicy where
  profileId : String
  version : ℕ
  profileId_length : 1 ≤ profileId.length
  version_pos : 1 ≤ version

instance : DecidableEq TrustedProvisionPolicy := fun _ _ =>
  decidable_of_iff _ TrustedProvisionPolicy.ext_iff.symm

/-- The text a policy is digested as. -/
def policyText (policy : TrustedProvisionPolicy) : String :=
  Json.canonical (.obj [("profile_id", .str policy.profileId),
    ("version", .number (.ofNat policy.version))])

/-- The text a plan is digested as, given the digests of its context and its policy. -/
def planText (contextDigest policyDigest : HexDigest) (inputs : Dict String String) : String :=
  Json.canonical (.obj [("context_digest", .str contextDigest.text),
    ("policy_digest", .str policyDigest.text), ("inputs", Json.ofStrings inputs)])

/-- The text an approval is digested as. -/
def approvalText (contextDigest policyDigest planDigest : HexDigest) : String :=
  Json.canonical (.obj [("context_digest", .str contextDigest.text),
    ("policy_digest", .str policyDigest.text), ("plan_digest", .str planDigest.text)])

section Plans

variable (sha256 : String → HexDigest)

def TrustedProvisionPolicy.policyDigest (policy : TrustedProvisionPolicy) : HexDigest :=
  sha256 (policyText policy)

/-- The plan digest and the approval digest of some contents. -/
def sealedDigests (context : ResolvedResourceScopeContext sha256) (policy : TrustedProvisionPolicy)
    (inputs : Dict String String) : HexDigest × HexDigest :=
  let planDigest :=
    sha256 (planText context.resolutionDigest (policy.policyDigest sha256) inputs)
  (planDigest,
    sha256 (approvalText context.resolutionDigest (policy.policyDigest sha256) planDigest))

/-- A plan object as it stands in memory. -/
structure ProvisionPlan where
  context : ResolvedResourceScopeContext sha256
  policy : TrustedProvisionPolicy
  /-- The map of the inputs; a holder of the plan can write to it. -/
  inputs : Dict String String
  planDigest : HexDigest
  approvalDigest : HexDigest

variable {sha256}

/-- What the constructor of a plan checks. -/
structure ProvisionPlan.IsSealed (plan : ProvisionPlan sha256) : Prop where
  inputs_nonempty : plan.inputs.entries ≠ []
  digests_eq :
    (plan.planDigest, plan.approvalDigest)
      = sealedDigests sha256 plan.context plan.policy plan.inputs

variable (sha256) in
/-- A plan whose digests match its contents. -/
structure SealedProvisionPlan extends ProvisionPlan sha256 where
  isSealed : toProvisionPlan.IsSealed

/-- Seal a context, a policy and inputs. -/
def sealPlan (context : ResolvedResourceScopeContext sha256) (policy : TrustedProvisionPolicy)
    (inputs : Dict String String) (hinputs : inputs.entries ≠ []) : SealedProvisionPlan sha256 where
  context := context
  policy := policy
  inputs := inputs
  planDigest := (sealedDigests sha256 context policy inputs).1
  approvalDigest := (sealedDigests sha256 context policy inputs).2
  isSealed := ⟨hinputs, rfl⟩

/-- Approval evidence: the two digests of a plan, and who approved it. -/
structure ProvisionApprovalDigest where
  planDigest : HexDigest
  approvalDigest : HexDigest
  approvedBy : PrincipalReference
  deriving DecidableEq

/-- The receipt of a plan. -/
def ProvisionApprovalDigest.forPlan (plan : ProvisionPlan sha256)
    (approvedBy : PrincipalReference) : ProvisionApprovalDigest where
  planDigest := plan.planDigest
  approvalDigest := plan.approvalDigest
  approvedBy := approvedBy

/-- The receipt and the plan carry the same digests. -/
def ProvisionApprovalDigest.matchesPlan (approval : ProvisionApprovalDigest)
    (plan : ProvisionPlan sha256) : Bool :=
  approval.planDigest = plan.planDigest && approval.approvalDigest = plan.approvalDigest

theorem ProvisionApprovalDigest.matchesPlan_iff {approval : ProvisionApprovalDigest}
    {plan : ProvisionPlan sha256} :
    approval.matchesPlan plan = true ↔
      approval.planDigest = plan.planDigest ∧ approval.approvalDigest = plan.approvalDigest := by
  simp [matchesPlan]

/-- The receipt of a plan matches it. -/
theorem ProvisionApprovalDigest.forPlan_matchesPlan (plan : ProvisionPlan sha256)
    (approvedBy : PrincipalReference) :
    (ProvisionApprovalDigest.forPlan plan approvedBy).matchesPlan plan = true :=
  matchesPlan_iff.2 ⟨rfl, rfl⟩

end Plans

/-! ### The digested texts -/

/-- The sorted object of a plan. -/
theorem sortKeys_plan (a b c : Json) :
    Json.sortKeys (.obj [("context_digest", a), ("policy_digest", b), ("inputs", c)])
      = .obj [("context_digest", Json.sortKeys a), ("inputs", Json.sortKeys c),
          ("policy_digest", Json.sortKeys b)] := by
  have hci : "context_digest" ≤ "inputs" := by decide
  have hpi : ¬ "policy_digest" ≤ "inputs" := by decide
  simp [Json.sortKeys, Json.sortFields, List.insertionSort, List.orderedInsert, Json.keyLe, hci,
    hpi]

/-- The sorted object of a policy. -/
theorem sortKeys_policy (a b : Json) :
    Json.sortKeys (.obj [("profile_id", a), ("version", b)])
      = .obj [("profile_id", Json.sortKeys a), ("version", Json.sortKeys b)] := by
  have hle : "profile_id" ≤ "version" := by decide
  simp [Json.sortKeys, Json.sortFields, List.insertionSort, Json.keyLe, hle]

/-- **The text of a policy determines it.** -/
theorem policyText_inj {p q : TrustedProvisionPolicy} (h : policyText p = policyText q) :
    p = q := by
  have hsorted := Json.canonical_inj h
  rw [sortKeys_policy, sortKeys_policy] at hsorted
  simp only [Json.obj.injEq, List.cons.injEq, Prod.mk.injEq, Json.sortKeys, Json.str.injEq,
    Json.number.injEq, true_and, and_true] at hsorted
  obtain ⟨hid, hversion⟩ := hsorted
  cases p
  cases q
  simp only at hid hversion
  cases hid
  cases NumberText.ofNat_injective hversion
  rfl

/-- The sorted object of an approval. -/
theorem sortKeys_approval (a b c : Json) :
    Json.sortKeys (.obj [("context_digest", a), ("policy_digest", b), ("plan_digest", c)])
      = .obj [("context_digest", Json.sortKeys a), ("plan_digest", Json.sortKeys c),
          ("policy_digest", Json.sortKeys b)] := by
  have hcl : "context_digest" ≤ "plan_digest" := by decide
  have hpl : ¬ "policy_digest" ≤ "plan_digest" := by decide
  simp [Json.sortKeys, Json.sortFields, List.insertionSort, List.orderedInsert, Json.keyLe, hcl,
    hpl]

/-- **The text of a plan determines the digests of its context and policy, and its inputs as a
map.** -/
theorem planText_inj {c d p q : HexDigest} {i j : Dict String String}
    (h : planText c p i = planText d q j) : c = d ∧ p = q ∧ i.SameMap j := by
  have hsorted := Json.canonical_inj h
  rw [sortKeys_plan, sortKeys_plan] at hsorted
  simp only [Json.obj.injEq, List.cons.injEq, Prod.mk.injEq, Json.sortKeys, Json.str.injEq,
    true_and, and_true] at hsorted
  obtain ⟨hc, hi, hp⟩ := hsorted
  exact ⟨HexDigest.text_injective hc, HexDigest.text_injective hp,
    Json.sortKeys_ofStrings_iff.1 hi⟩

/-- The text of an approval determines the plan digest. -/
theorem approvalText_inj {c d p q r s : HexDigest} (h : approvalText c p r = approvalText d q s) :
    r = s := by
  have hsorted := Json.canonical_inj h
  rw [sortKeys_approval, sortKeys_approval] at hsorted
  simp only [Json.obj.injEq, List.cons.injEq, Prod.mk.injEq, Json.sortKeys, Json.str.injEq,
    true_and, and_true] at hsorted
  exact HexDigest.text_injective hsorted.2.1

/-- The texts of policies, plans and approvals are told apart by their keys. -/
theorem policyText_ne_planText (p : TrustedProvisionPolicy) (c q : HexDigest)
    (i : Dict String String) : policyText p ≠ planText c q i := by
  intro h
  have hsorted := Json.canonical_inj h
  rw [sortKeys_policy, sortKeys_plan] at hsorted
  simp at hsorted

theorem policyText_ne_approvalText (p : TrustedProvisionPolicy) (c q d : HexDigest) :
    policyText p ≠ approvalText c q d := by
  intro h
  have hsorted := Json.canonical_inj h
  rw [sortKeys_policy, sortKeys_approval] at hsorted
  simp at hsorted

theorem planText_ne_approvalText (c p : HexDigest) (i : Dict String String) (d q r : HexDigest) :
    planText c p i ≠ approvalText d q r := by
  intro h
  have hsorted := Json.canonical_inj h
  rw [sortKeys_plan, sortKeys_approval] at hsorted
  simp at hsorted

/-- Inputs that are equal as maps give one text. -/
theorem planText_congr {c p : HexDigest} {i j : Dict String String} (h : i.SameMap j) :
    planText c p i = planText c p j := by
  rw [planText, planText, Json.canonical_eq_iff, sortKeys_plan, sortKeys_plan,
    Json.sortKeys_ofStrings_iff.2 h]

section Digests

variable {sha256 : String → HexDigest}

/-- The texts that are digested when a plan is sealed. -/
def planTexts (plan : ProvisionPlan sha256) : Set String :=
  {plan.context.preimage, policyText plan.policy,
    planText plan.context.resolutionDigest (plan.policy.policyDigest sha256) plan.inputs}

/-- **With an injective digest function, plan digests are equal exactly when the context digests,
the policies and the inputs as maps are.** -/
theorem planDigest_eq_iff {p q : SealedProvisionPlan sha256}
    (hinj : Set.InjOn sha256 (planTexts p.toProvisionPlan ∪ planTexts q.toProvisionPlan)) :
    p.planDigest = q.planDigest ↔
      p.context.resolutionDigest = q.context.resolutionDigest ∧ p.policy = q.policy ∧
        p.inputs.SameMap q.inputs := by
  have hp : p.planDigest = _ := congrArg Prod.fst p.isSealed.digests_eq
  have hq : q.planDigest = _ := congrArg Prod.fst q.isSealed.digests_eq
  rw [hp, hq]
  constructor
  · intro h
    have htext := hinj (by simp [planTexts]) (by simp [planTexts]) h
    obtain ⟨hcontext, hpolicy, hinputs⟩ := planText_inj htext
    refine ⟨hcontext, ?_, hinputs⟩
    exact policyText_inj (hinj (by simp [planTexts]) (by simp [planTexts]) hpolicy)
  · rintro ⟨hcontext, hpolicy, hinputs⟩
    simp only [sealedDigests]
    rw [hcontext, hpolicy, planText_congr hinputs]

end Digests

/-! ### The plans of the checkout scope -/

def checkoutPolicy : TrustedProvisionPolicy :=
  ⟨"aws-static-web", 1, Nat.succ_le_of_lt (by decide), Nat.one_pos⟩

/-- The inputs of a plan for a frontend. -/
def frontendInputs (hostname : String) : Dict String String :=
  .ofPairs [("frontend_hostname", hostname)]

/-- The digest of the checkout context. -/
def contextDigest₀ : HexDigest :=
  .ofNat 0xcd17bfabf16a1ce2666af218297c9f2f095899f8ae87ce02369d80044d3344cf

/-- The digest of the checkout policy. -/
def policyDigest₀ : HexDigest :=
  .ofNat 0xb2c7c7a7d9ad2d2e23769e24fbc087dfe6c4a8cce7229224f2fb398d50de7e8f

/-- The digest of the plan for the first hostname. -/
def planDigest₀ : HexDigest :=
  .ofNat 0x09fe126efaa04d1c6a061381650544653756d9cba3c6c84926432551e1d84db3

/-- The digest of the plan for the second hostname. -/
def planDigest₁ : HexDigest :=
  .ofNat 0xfcca78919d079332eef944120e22f31d6e9aefb86144ec29461810fd2481c79f

/-- The digest of the approval for the first hostname. -/
def approvalDigest₀ : HexDigest :=
  .ofNat 0xd7f8cfc0f6bd5e06655fbaa3bc2c1b8f9b1a47b011ddb866e638b68a262aa1da

/-- The digest of the approval for the second hostname. -/
def approvalDigest₁ : HexDigest :=
  .ofNat 0xb08c9b01b2427e75851725cc8045a57f766e5d86ac3b3a5b07d7748ac012b2de

/-- The texts of the checkout contexts and plans, and their digests. -/
def planTable : List (String × HexDigest) :=
  [(checkoutContents.preimage, contextDigest₀),
    (grantedContents.preimage,
      .ofNat 0xfd3773d12f5d2cd15a395731f609dacacc33d733711d276460136a9acf283804),
    (policyText checkoutPolicy, policyDigest₀),
    (planText contextDigest₀ policyDigest₀ (frontendInputs "checkout.example.com"), planDigest₀),
    (planText contextDigest₀ policyDigest₀ (frontendInputs "checkout.example.org"), planDigest₁),
    (approvalText contextDigest₀ policyDigest₀ planDigest₀, approvalDigest₀),
    (approvalText contextDigest₀ policyDigest₀ planDigest₁, approvalDigest₁)]

/-- The digest function on the texts of the checkout contexts and plans. -/
def planHash : String → HexDigest := hashTable planTable

theorem preimage_ne_canonical {c : ContextContents} (hc : c.preimage.toList.head? = some 's')
    (l : List (String × Json)) : c.preimage ≠ Json.canonical (.obj l) := by
  intro h
  have hhead := Json.head?_canonical_obj l
  rw [← h, hc] at hhead
  exact absurd hhead (by decide)

theorem nodup_planTexts : (planTable.map Prod.fst).Nodup := by
  have hinputs : ¬ (frontendInputs "checkout.example.com").SameMap
      (frontendInputs "checkout.example.org") := by
    intro h
    exact absurd (h "frontend_hostname") (by decide)
  have hplans : planText contextDigest₀ policyDigest₀ (frontendInputs "checkout.example.com")
      ≠ planText contextDigest₀ policyDigest₀ (frontendInputs "checkout.example.org") :=
    fun h => hinputs (planText_inj h).2.2
  have happrovals : approvalText contextDigest₀ policyDigest₀ planDigest₀
      ≠ approvalText contextDigest₀ policyDigest₀ planDigest₁ :=
    fun h => absurd (approvalText_inj h) (by decide)
  have hcontexts : checkoutContents.preimage ≠ grantedContents.preimage := by decide
  have hcheckout : checkoutContents.preimage.toList.head? = some 's' := by decide +kernel
  have hgranted : grantedContents.preimage.toList.head? = some 's' := by decide +kernel
  simp only [planTable, List.map_cons, List.map_nil, List.nodup_cons, List.mem_cons,
    List.not_mem_nil, or_false, not_or, not_false_eq_true, List.nodup_nil, and_true]
  -- each text against those behind it
  exact ⟨⟨hcontexts, preimage_ne_canonical hcheckout _, preimage_ne_canonical hcheckout _,
      preimage_ne_canonical hcheckout _, preimage_ne_canonical hcheckout _,
      preimage_ne_canonical hcheckout _⟩,
    ⟨preimage_ne_canonical hgranted _, preimage_ne_canonical hgranted _,
      preimage_ne_canonical hgranted _, preimage_ne_canonical hgranted _,
      preimage_ne_canonical hgranted _⟩,
    ⟨policyText_ne_planText _ _ _ _, policyText_ne_planText _ _ _ _,
      policyText_ne_approvalText _ _ _ _, policyText_ne_approvalText _ _ _ _⟩,
    ⟨hplans, planText_ne_approvalText _ _ _ _ _ _, planText_ne_approvalText _ _ _ _ _ _⟩,
    ⟨planText_ne_approvalText _ _ _ _ _ _, planText_ne_approvalText _ _ _ _ _ _⟩, happrovals⟩

/-- The digest function is injective on the texts of the two plans. -/
theorem planHash_injOn : Set.InjOn planHash {t | t ∈ planTable.map Prod.fst} :=
  hashTable_injOn nodup_planTexts (by decide)

/-- The digest function on a text of the table. -/
theorem planHash_of_mem {t : String} {d : HexDigest} (h : (t, d) ∈ planTable) :
    planHash t = d := by
  rw [planHash, hashTable, (Dict.lookup_eq_some_iff_mem nodup_planTexts).2 h, Option.getD_some]

/-- The plan for a frontend on the checkout scope. -/
def checkoutPlan (hostname : String) : SealedProvisionPlan planHash :=
  sealPlan (checkoutContents.context planHash) checkoutPolicy (frontendInputs hostname)
    (List.cons_ne_nil _ _)

theorem contextDigest_checkout :
    (checkoutContents.context planHash).resolutionDigest = contextDigest₀ :=
  planHash_of_mem List.mem_cons_self

theorem policyDigest_checkout : checkoutPolicy.policyDigest planHash = policyDigest₀ :=
  planHash_of_mem (List.mem_cons_of_mem _ (List.mem_cons_of_mem _ List.mem_cons_self))

/-- A plan object on the checkout scope, for one of the two frontends. -/
def IsCheckoutPlan (plan : ProvisionPlan planHash) : Prop :=
  plan.context = checkoutContents.context planHash ∧ plan.policy = checkoutPolicy ∧
    (plan.inputs = frontendInputs "checkout.example.com" ∨
      plan.inputs = frontendInputs "checkout.example.org")

/-- The digested texts of such a plan are in the table. -/
theorem IsCheckoutPlan.planTexts_subset {plan : ProvisionPlan planHash} (h : IsCheckoutPlan plan) :
    planTexts plan ⊆ {t | t ∈ planTable.map Prod.fst} := by
  obtain ⟨hcontext, hpolicy, hinputs⟩ := h
  rw [planTexts, hcontext, hpolicy, contextDigest_checkout, policyDigest_checkout]
  rcases hinputs with hinputs | hinputs <;> rw [hinputs] <;> rintro t (rfl | rfl | rfl) <;>
    simp [planTable, ContextContents.context]

/-- The digest function is injective on the texts of two such plans. -/
theorem IsCheckoutPlan.injOn {p q : ProvisionPlan planHash} (hp : IsCheckoutPlan p)
    (hq : IsCheckoutPlan q) : Set.InjOn planHash (planTexts p ∪ planTexts q) :=
  planHash_injOn.mono (Set.union_subset hp.planTexts_subset hq.planTexts_subset)

end PlatformOps
