/-
**The approval graph of a sealed plan.**

The graph has one node.  It interrupts with the digests of the plan, and when it is resumed it
validates the untrusted answer, takes the reviewer from the trusted state, and mints the receipt
only after the reviewer, the verdict, the digests and the reviewer's permission passed in turn.

Main definitions:

* `ProvisionApprovalResponse`, `readResponse` — the resume body, and its validation;
* `ProvisionApprovalState`, `review`, `resumeGraph` — the state, the node and a resume of the graph;
* `LegitimateApproval` — the resumes that ought to approve.

Main results:

* `readResponse_eq_some_iff` — **a body is valid exactly when it is a verdict and two digests**;
* `review_eq_approved_iff` — the node mints a receipt exactly for legitimate approvals, and it is
  the plan's receipt by the reviewer;
* `matches_only_same_plan` — with an injective digest function a receipt fits no other plan.
-/

import PlatformOps.Preflight
import PlatformOps.ProvisionPlan

set_option relaxedAutoImplicit false
set_option autoImplicit false

namespace PlatformOps

/-! ### The resume body -/

/-- The untrusted resume body. -/
structure ProvisionApprovalResponse where
  verdict : String
  planDigest : String
  approvalDigest : String
  deriving DecidableEq

/-- The body as a dictionary. -/
def ProvisionApprovalResponse.fields (r : ProvisionApprovalResponse) : Dict String Json :=
  .ofPairs [("verdict", .str r.verdict), ("plan_digest", .str r.planDigest),
    ("approval_digest", .str r.approvalDigest)]

/-- A string field of an object. -/
def stringField (d : Dict String Json) (key : String) : Option String :=
  (d.get? key).bind Json.asString

/-- Validate a resume body: an object with the three string fields and no other. -/
def readResponse (resume : Json) : Option ProvisionApprovalResponse :=
  match resume.asObject with
  | none => none
  | some d =>
      if d.entries.all fun p => p.1 ∈ ["verdict", "plan_digest", "approval_digest"] then
        match stringField d "verdict", stringField d "plan_digest",
            stringField d "approval_digest" with
        | some verdict, some planDigest, some approvalDigest =>
            some ⟨verdict, planDigest, approvalDigest⟩
        | _, _, _ => none
      else none

theorem stringField_eq_some_iff {d : Dict String Json} {key value : String} :
    stringField d key = some value ↔ d.get? key = some (.str value) := by
  simp [stringField, Option.bind_eq_some_iff]

theorem fields_get? (r : ProvisionApprovalResponse) (key : String) :
    r.fields.get? key =
      if key = "verdict" then some (.str r.verdict)
      else if key = "plan_digest" then some (.str r.planDigest)
      else if key = "approval_digest" then some (.str r.approvalDigest)
      else none := by
  rw [ProvisionApprovalResponse.fields, Dict.get?_ofPairs]
  by_cases hverdict : key = "verdict"
  · subst hverdict
    rfl
  · by_cases hplan : key = "plan_digest"
    · subst hplan
      rfl
    · by_cases happroval : key = "approval_digest"
      · subst happroval
        rfl
      · simp [List.lookup_cons, beq_false_of_ne, hverdict, hplan, happroval]

/-- Only the three fields are there. -/
theorem mem_keys_of_fields_get? {r : ProvisionApprovalResponse} {key : String} {v : Json}
    (h : r.fields.get? key = some v) :
    key ∈ ["verdict", "plan_digest", "approval_digest"] := by
  rw [fields_get?] at h
  split_ifs at h with hverdict hplan happroval
  · simp [hverdict]
  · simp [hplan]
  · simp [happroval]

/-- **A body is valid exactly when it is, as a map, a verdict and two digests.** -/
theorem readResponse_eq_some_iff {resume : Json} {r : ProvisionApprovalResponse} :
    readResponse resume = some r ↔ ∃ d, resume.asObject = some d ∧ d.SameMap r.fields := by
  unfold readResponse
  cases hobject : resume.asObject with
  | none => simp
  | some d =>
      simp only [Option.some.injEq, exists_eq_left']
      constructor
      · intro h
        split_ifs at h with hkeys
        split at h
        · next verdict planDigest approvalDigest hverdict hplan happroval =>
            cases h
            rw [stringField_eq_some_iff] at hverdict hplan happroval
            intro key
            rw [fields_get?]
            split_ifs with h₁ h₂ h₃
            · rw [h₁, hverdict]
            · rw [h₂, hplan]
            · rw [h₃, happroval]
            · -- any other field would have been refused
              cases hget : d.get? key with
              | none => rfl
              | some v =>
                  have hmem := List.all_eq_true.1 hkeys (key, v) (d.mem_entries_iff.2 hget)
                  simp [h₁, h₂, h₃] at hmem
        · cases h
      · intro h
        have hkeys : (d.entries.all fun p =>
            p.1 ∈ ["verdict", "plan_digest", "approval_digest"]) = true := by
          rw [List.all_eq_true]
          rintro ⟨key, v⟩ hmem
          have hget := d.mem_entries_iff.1 hmem
          rw [h key] at hget
          exact decide_eq_true (mem_keys_of_fields_get? hget)
        have hverdict : stringField d "verdict" = some r.verdict :=
          stringField_eq_some_iff.2 (by rw [h, fields_get?]; rfl)
        have hplan : stringField d "plan_digest" = some r.planDigest :=
          stringField_eq_some_iff.2 (by rw [h, fields_get?]; rfl)
        have happroval : stringField d "approval_digest" = some r.approvalDigest :=
          stringField_eq_some_iff.2 (by rw [h, fields_get?]; rfl)
        rw [if_pos hkeys, hverdict, hplan, happroval]

/-! ### The graph -/

section Graph

variable {sha256 : String → HexDigest}

variable (sha256) in
/-- The state of the graph. -/
structure ProvisionApprovalState where
  plan : SealedProvisionPlan sha256
  requester : PrincipalReference
  reviewer : Option PrincipalReference
  approved : Option Bool
  approval : Option ProvisionApprovalDigest

/-- The state in which the graph is started. -/
def initialApprovalState (plan : SealedProvisionPlan sha256) (requester : PrincipalReference)
    (reviewer : Option PrincipalReference) : ProvisionApprovalState sha256 where
  plan := plan
  requester := requester
  reviewer := reviewer
  approved := none
  approval := none

/-- Why the node raised. -/
inductive ReviewError
  /-- A value did not validate: the resume body, or a digest in it. -/
  | validation
  | denied (message : String)
  deriving DecidableEq

/-- The update the node returns. -/
inductive ReviewUpdate
  | rejected
  | approved (approval : ProvisionApprovalDigest)
  deriving DecidableEq

/-- The request for the reviewer's permission on the scope of a plan. -/
def approveRequest (plan : SealedProvisionPlan sha256) (reviewer : PrincipalReference) :
    ResourceScopeAuthorizationRequest where
  principal := reviewer
  action := .approveProvision
  scopeId := plan.context.scopeId
  scopeId_length := plan.context.scopeId_length

/-- The node, resumed with an answer. -/
def review (authorizer : ResourceScopeAuthorizer) (state : ProvisionApprovalState sha256)
    (resume : Json) : Except ReviewError ReviewUpdate :=
  match readResponse resume with
  | none => .error .validation
  | some response =>
      match state.reviewer with
      | none => .error (.denied "gateway-authenticated reviewer is required")
      | some reviewer =>
          if reviewer = state.requester then
            .error (.denied "requester cannot approve their own provision plan")
          else if response.verdict ≠ "approve" then .ok .rejected
          else
            match HexDigest.ofString response.planDigest,
                HexDigest.ofString response.approvalDigest with
            | some planDigest, some approvalDigest =>
                if !(ProvisionApprovalDigest.mk planDigest approvalDigest reviewer).matchesPlan
                    state.plan.toProvisionPlan then
                  .error (.denied "approval does not match the sealed provision plan")
                else if !(authorizer.authorize (approveRequest state.plan reviewer)).allowed then
                  .error (.denied "reviewer lacks provision approval permission")
                else .ok (.approved (.forPlan state.plan.toProvisionPlan reviewer))
            | _, _ => .error .validation

/-- The state after a resume of the graph; a node that raises leaves it as it was. -/
def resumeGraph (authorizer : ResourceScopeAuthorizer) (state : ProvisionApprovalState sha256)
    (resume : Json) : ProvisionApprovalState sha256 :=
  match review authorizer state resume with
  | .ok .rejected => { state with approved := some false }
  | .ok (.approved approval) => { state with approved := some true, approval := some approval }
  | .error _ => state

/-- The body that approves a plan. -/
def approvingResponse (plan : SealedProvisionPlan sha256) : ProvisionApprovalResponse where
  verdict := "approve"
  planDigest := plan.planDigest.text
  approvalDigest := plan.approvalDigest.text

/-- The answer that approves a plan. -/
def approvingResume (plan : SealedProvisionPlan sha256) : Json :=
  .obj [("verdict", .str "approve"), ("plan_digest", .str plan.planDigest.text),
    ("approval_digest", .str plan.approvalDigest.text)]

theorem approvingResume_asObject (plan : SealedProvisionPlan sha256) :
    (approvingResume plan).asObject = some (approvingResponse plan).fields := rfl

/-- A resume that ought to approve: exactly the approving verdict with both digests of the plan, by
a reviewer other than the requester who may approve on the scope of the plan. -/
def LegitimateApproval (authorizer : ResourceScopeAuthorizer) (plan : SealedProvisionPlan sha256)
    (requester : PrincipalReference) (reviewer : Option PrincipalReference) (resume : Json) : Prop :=
  (∃ d, resume.asObject = some d ∧ d.SameMap (approvingResponse plan).fields) ∧
    ∃ r, reviewer = some r ∧ r ≠ requester ∧
      (authorizer.authorize (approveRequest plan r)).allowed = true

variable {authorizer : ResourceScopeAuthorizer} {state : ProvisionApprovalState sha256}
  {resume : Json}

/-- **The node mints a receipt exactly for legitimate approvals**, and it is the plan's receipt by
the reviewer. -/
theorem review_eq_approved_iff {approval : ProvisionApprovalDigest} :
    review authorizer state resume = .ok (.approved approval) ↔
      LegitimateApproval authorizer state.plan state.requester state.reviewer resume ∧
        ∃ r, state.reviewer = some r ∧ approval = .forPlan state.plan.toProvisionPlan r := by
  unfold review LegitimateApproval
  constructor
  · intro h
    split at h
    · cases h
    · next response hresponse =>
        split at h
        · cases h
        · next reviewer hreviewer =>
            by_cases hself : reviewer = state.requester
            · rw [if_pos hself] at h
              cases h
            rw [if_neg hself] at h
            by_cases hverdict : response.verdict = "approve"
            · rw [if_neg (not_not.2 hverdict)] at h
              split at h
              · next planDigest approvalDigest hplan happroval =>
                  split_ifs at h with hmatches hallowed
                  cases h
                  simp only [Bool.not_eq_true', Bool.not_eq_false] at hmatches hallowed
                  obtain ⟨hpd, had⟩ := ProvisionApprovalDigest.matchesPlan_iff.1 hmatches
                  have hplan' : response.planDigest = state.plan.planDigest.text :=
                    (HexDigest.ofString_eq_some_iff.1 hplan).symm.trans (congrArg HexDigest.text hpd)
                  have happroval' : response.approvalDigest = state.plan.approvalDigest.text :=
                    (HexDigest.ofString_eq_some_iff.1 happroval).symm.trans
                      (congrArg HexDigest.text had)
                  -- the verdict and both digests make it the approving body
                  obtain rfl : response = approvingResponse state.plan := by
                    rw [approvingResponse, ← hverdict, ← hplan', ← happroval']
                  exact ⟨⟨readResponse_eq_some_iff.1 hresponse, reviewer, hreviewer, hself,
                    hallowed⟩, reviewer, hreviewer, rfl⟩
              · cases h
            · rw [if_pos hverdict] at h
              cases h
  · rintro ⟨⟨hbody, r, hr, hself, hallowed⟩, r', hr', rfl⟩
    rw [hr, Option.some.injEq] at hr'
    subst hr'
    have hplan : HexDigest.ofString state.plan.planDigest.text = some state.plan.planDigest :=
      HexDigest.ofString_eq_some_iff.2 rfl
    have happroval : HexDigest.ofString state.plan.approvalDigest.text
        = some state.plan.approvalDigest := HexDigest.ofString_eq_some_iff.2 rfl
    have hmatches : (ProvisionApprovalDigest.mk state.plan.planDigest state.plan.approvalDigest
        r).matchesPlan state.plan.toProvisionPlan = true :=
      ProvisionApprovalDigest.matchesPlan_iff.2 ⟨rfl, rfl⟩
    rw [readResponse_eq_some_iff.2 hbody, hr]
    simp [hself, hplan, happroval, hmatches, hallowed, approvingResponse]

/-- A resume leaves a receipt exactly when the node minted it. -/
theorem resumeGraph_approval_eq_some_iff {plan : SealedProvisionPlan sha256}
    {requester : PrincipalReference} {reviewer : Option PrincipalReference}
    {approval : ProvisionApprovalDigest} :
    (resumeGraph authorizer (initialApprovalState plan requester reviewer) resume).approval
        = some approval ↔
      LegitimateApproval authorizer plan requester reviewer resume ∧
        ∃ r, reviewer = some r ∧ approval = .forPlan plan.toProvisionPlan r := by
  have hreview : review authorizer (initialApprovalState plan requester reviewer) resume
        = .ok (.approved approval) ↔ _ := review_eq_approved_iff
  refine Iff.trans ?_ hreview
  rw [resumeGraph]
  cases review authorizer (initialApprovalState plan requester reviewer) resume with
  | error e => simp [initialApprovalState]
  | ok update =>
      cases update with
      | rejected => simp [initialApprovalState]
      | approved approval' => simp

/-- **A receipt fits no plan sealed from another context digest, policy or inputs.** -/
theorem matches_only_same_plan {plan other : SealedProvisionPlan sha256} {r : PrincipalReference}
    (hinj : Set.InjOn sha256 (planTexts plan.toProvisionPlan ∪ planTexts other.toProvisionPlan))
    (h : (ProvisionApprovalDigest.forPlan plan.toProvisionPlan r).matchesPlan
      other.toProvisionPlan = true) :
    other.context.resolutionDigest = plan.context.resolutionDigest ∧ other.policy = plan.policy ∧
      other.inputs.SameMap plan.inputs := by
  have hdigest : plan.planDigest = other.planDigest :=
    (ProvisionApprovalDigest.matchesPlan_iff.1 h).1
  obtain ⟨hcontext, hpolicy, hinputs⟩ := (planDigest_eq_iff hinj).1 hdigest
  exact ⟨hcontext.symm, hpolicy.symm, hinputs.symm⟩

end Graph

/-! ### What the graph approves -/

/-- **The graph ends with a receipt exactly for legitimate approvals, and the receipt names the
reviewer, fits the plan, and fits no plan sealed from another context digest, policy or inputs.** -/
theorem receipt_iff_legitimate (sha256 : String → HexDigest) (authorizer : ResourceScopeAuthorizer)
    (plan : SealedProvisionPlan sha256) (requester : PrincipalReference)
    (reviewer : Option PrincipalReference) (resume : Json) :
    ((resumeGraph authorizer (initialApprovalState plan requester reviewer) resume).approval.isSome
        = true ↔ LegitimateApproval authorizer plan requester reviewer resume) ∧
      ∀ receipt, (resumeGraph authorizer (initialApprovalState plan requester reviewer)
          resume).approval = some receipt →
        reviewer = some receipt.approvedBy ∧
          receipt.matchesPlan plan.toProvisionPlan = true ∧
          ∀ other : SealedProvisionPlan sha256,
            Set.InjOn sha256 (planTexts plan.toProvisionPlan ∪ planTexts other.toProvisionPlan) →
            receipt.matchesPlan other.toProvisionPlan = true →
            other.context.resolutionDigest = plan.context.resolutionDigest ∧
              other.policy = plan.policy ∧ other.inputs.SameMap plan.inputs := by
  constructor
  · rw [Option.isSome_iff_exists]
    constructor
    · rintro ⟨receipt, h⟩
      exact (resumeGraph_approval_eq_some_iff.1 h).1
    · intro h
      obtain ⟨r, hr, -⟩ := h.2
      exact ⟨_, resumeGraph_approval_eq_some_iff.2 ⟨h, r, hr, rfl⟩⟩
  · intro receipt h
    obtain ⟨-, r, hr, rfl⟩ := resumeGraph_approval_eq_some_iff.1 h
    exact ⟨hr, ProvisionApprovalDigest.forPlan_matchesPlan _ _,
      fun other hinj hmatches => matches_only_same_plan hinj hmatches⟩

/-- Alice, who may approve on the checkout scope, approves Bob's plan, and no other. -/
theorem alice_approves_bobs_plan :
    (resumeGraph (checkoutAuthorizer .approveProvision)
        (initialApprovalState (checkoutPlan "checkout.example.com") bob (some alice))
        (approvingResume (checkoutPlan "checkout.example.com"))).approval.isSome = true ∧
      ∀ receipt, (resumeGraph (checkoutAuthorizer .approveProvision)
          (initialApprovalState (checkoutPlan "checkout.example.com") bob (some alice))
          (approvingResume (checkoutPlan "checkout.example.com"))).approval = some receipt →
        receipt.matchesPlan (checkoutPlan "checkout.example.org").toProvisionPlan = false := by
  obtain ⟨hiff, hreceipt⟩ := receipt_iff_legitimate planHash (checkoutAuthorizer .approveProvision)
    (checkoutPlan "checkout.example.com") bob (some alice)
    (approvingResume (checkoutPlan "checkout.example.com"))
  constructor
  · exact hiff.2 ⟨⟨_, approvingResume_asObject _, Dict.SameMap.refl _⟩, alice, rfl, by decide,
      ResourceScopeAuthorizer.authorize_allowed_iff.2 ⟨checkoutScope, rfl, by decide, by decide⟩⟩
  · intro receipt h
    obtain ⟨-, -, hother⟩ := hreceipt receipt h
    rw [← Bool.not_eq_true]
    intro hmatches
    have hinj : Set.InjOn planHash (planTexts (checkoutPlan "checkout.example.com").toProvisionPlan ∪
        planTexts (checkoutPlan "checkout.example.org").toProvisionPlan) :=
      IsCheckoutPlan.injOn ⟨rfl, rfl, Or.inl rfl⟩ ⟨rfl, rfl, Or.inr rfl⟩
    obtain ⟨-, -, hinputs⟩ := hother (checkoutPlan "checkout.example.org") hinj hmatches
    exact absurd (hinputs "frontend_hostname") (by decide)

end PlatformOps
