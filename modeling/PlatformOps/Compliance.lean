/-
**The compliance check and the reference architecture.**

The reference architecture lists five scenarios under which a submitted specification fails.  Four
of them the check evaluates where the document puts them, on each resource or on the estimated cost.
The region it compares once, on the specification, while the document speaks of the region each
resource targets: a resource with a region of its own passes unseen, and a specification without a
region fails although nothing targets another one.

Main definitions:

* `checkCompliance` — the check, which raises on a resource whose name is no text;
* `Scenario`, `Scenario.Applies` — the scenarios of the document;
* `Submission.targetRegion` — the region a resource targets;
* `RegionsAgree` — the region of the specification stands for those of its resources.

Main results:

* `checkCompliance_eq` — over named resources the check is a list of failures, part by part;
* `compliance_check_iff` — **the check passes exactly where no scenario applies, if and only if the
  regions agree or another scenario applies; and a resource never removes a failure**.
-/

import Mathlib.Data.Rat.Defs
import PlatformOps.Intake

set_option relaxedAutoImplicit false
set_option autoImplicit false

namespace PlatformOps

/-! ### The check -/

/-- The settings of the check. -/
structure ComplianceEnv where
  approvedRegion : String
  maxCost : ℚ

/-- A submitted specification. -/
structure Submission where
  region : Option Json
  estimatedMonthlyUsd : Option ℚ
  resources : List (Dict String Json)

/-- The environment prefix of resource names. -/
def namePrefix : String := "platformops-demo-"

/-- The text of a field, none where it is missing or no text. -/
def resourceText (resource : Dict String Json) (key : String) : Option String :=
  (resource.get? key).bind Json.asString

/-- A bucket that the public may write to. -/
def isPublicBucket (resource : Dict String Json) : Bool :=
  resourceText resource "type" = some "s3_bucket" &&
    ((resource.get? "public_write").map Json.truthy).getD false

/-- The policies that force viewers to HTTPS. -/
def httpsPolicies : List String := ["redirect-to-https", "https-only"]

/-- A distribution that does not force viewers to HTTPS. -/
def isUnforcedDistribution (resource : Dict String Json) : Bool :=
  resourceText resource "type" = some "cloudfront_distribution" &&
    ((resourceText resource "viewer_protocol_policy").map fun policy =>
      !httpsPolicies.contains policy).getD true

/-- What is wrong with a resource of this name. -/
def namedFailures (name : String) (resource : Dict String Json) : List String :=
  (if namePrefix.toList.isPrefixOf name.toList then []
    else ["resource name violates naming convention: " ++ name]) ++
  (if isPublicBucket resource then ["public write access is prohibited: " ++ name] else []) ++
  if isUnforcedDistribution resource then ["viewer traffic is not forced to HTTPS: " ++ name]
  else []

/-- What is wrong with a resource; a name that is no text has no `startswith`. -/
def resourceFailures (resource : Dict String Json) : Except Fault (List String) :=
  match resource.get? "name" with
  | none => .ok (namedFailures "" resource)
  | some (.str name) => .ok (namedFailures name resource)
  | some _ => .error (.attributeError "startswith")

/-- The region of the specification is the approved one. -/
def Submission.hasApprovedRegion (env : ComplianceEnv) (spec : Submission) : Bool :=
  spec.region.bind Json.asString = some env.approvedRegion

/-- What is wrong with the specification as a whole. -/
def submissionFailures (env : ComplianceEnv) (spec : Submission) : List String :=
  (if spec.hasApprovedRegion env then [] else ["resource targets a non-approved region"]) ++
  if env.maxCost < spec.estimatedMonthlyUsd.getD 0 then ["spec exceeds approved cost ceiling"]
  else []

/-- `check_compliance`: the failures, none where the specification passes. -/
def checkCompliance (env : ComplianceEnv) (spec : Submission) : Except Fault (List String) := do
  let failures ← spec.resources.mapM resourceFailures
  return submissionFailures env spec ++ failures.flatten

/-! ### The document -/

/-- The scenarios of the reference architecture. -/
inductive Scenario
  | publicWrite
  | resourceNaming
  | regionRestriction
  | httpsEnforced
  | costCeiling
  deriving DecidableEq

/-- A region that is given. -/
def givenRegion : Option Json → Option Json
  | some .null => none
  | region => region

/-- The region a resource targets: its own where it gives one, otherwise that of the
specification. -/
def Submission.targetRegion (spec : Submission) (resource : Dict String Json) : Option Json :=
  match givenRegion (resource.get? "region") with
  | some region => some region
  | none => givenRegion spec.region

/-- The resource targets a region other than the approved one. -/
def Submission.TargetsOther (env : ComplianceEnv) (spec : Submission)
    (resource : Dict String Json) : Prop :=
  ∃ region, spec.targetRegion resource = some region ∧ region ≠ .str env.approvedRegion

/-- When a scenario applies to a specification. -/
def Scenario.Applies (env : ComplianceEnv) (spec : Submission) : Scenario → Prop
  | .publicWrite => ∃ resource ∈ spec.resources,
      resource.get? "type" = some (.str "s3_bucket") ∧
        ∃ v, resource.get? "public_write" = some v ∧ v.truthy = true
  | .resourceNaming => ∃ resource ∈ spec.resources, ∃ name,
      resource.get? "name" = some (.str name) ∧ ¬ namePrefix.toList <+: name.toList
  | .regionRestriction => ∃ resource ∈ spec.resources, spec.TargetsOther env resource
  | .httpsEnforced => ∃ resource ∈ spec.resources,
      resource.get? "type" = some (.str "cloudfront_distribution") ∧
        ∀ policy ∈ httpsPolicies,
          resource.get? "viewer_protocol_policy" ≠ some (.str policy)
  | .costCeiling => env.maxCost < spec.estimatedMonthlyUsd.getD 0

/-- Every resource has a text as its name. -/
def Submission.Named (spec : Submission) : Prop :=
  ∀ resource ∈ spec.resources, ∃ name, resource.get? "name" = some (.str name)

/-- The region of the specification stands for those of its resources: it is the approved one and no
resource targets another, or it is not and some resource does. -/
def RegionsAgree (env : ComplianceEnv) (spec : Submission) : Prop :=
  (spec.region = some (.str env.approvedRegion) ∧
    ∀ resource ∈ spec.resources, ∀ region, givenRegion (resource.get? "region") = some region →
      region = .str env.approvedRegion) ∨
  (spec.region ≠ some (.str env.approvedRegion) ∧
    ∃ resource ∈ spec.resources, spec.TargetsOther env resource)

/-! ### The failures part by part -/

/-- The text a resource is named by. -/
def resourceName (resource : Dict String Json) : String :=
  (resourceText resource "name").getD ""

theorem resourceText_eq_some_iff {resource : Dict String Json} {key text : String} :
    resourceText resource key = some text ↔ resource.get? key = some (.str text) := by
  unfold resourceText
  simp only [Option.bind_eq_some_iff, Json.asString_eq_some, exists_eq_right]

theorem resourceName_eq {resource : Dict String Json} {name : String}
    (h : resource.get? "name" = some (.str name)) : resourceName resource = name := by
  unfold resourceName
  rw [resourceText_eq_some_iff.2 h, Option.getD_some]

theorem mapM_resourceFailures {resources : List (Dict String Json)}
    (h : ∀ resource ∈ resources, ∃ name, resource.get? "name" = some (.str name)) :
    resources.mapM resourceFailures =
      .ok (resources.map fun resource => namedFailures (resourceName resource) resource) := by
  induction resources with
  | nil => rfl
  | cons resource rest ih =>
      obtain ⟨name, hname⟩ := h resource (List.mem_cons_self ..)
      have hhead : resourceFailures resource = .ok (namedFailures name resource) := by
        unfold resourceFailures
        rw [hname]
      have hrest := ih fun other hother => h other (List.mem_cons_of_mem _ hother)
      rw [List.mapM_cons, hhead, hrest, List.map_cons, resourceName_eq hname]
      rfl

/-- **Over named resources the check is a list of failures.** -/
theorem checkCompliance_eq (env : ComplianceEnv) {spec : Submission} (h : spec.Named) :
    checkCompliance env spec = .ok (submissionFailures env spec ++
      spec.resources.flatMap fun resource => namedFailures (resourceName resource) resource) := by
  unfold checkCompliance
  rw [mapM_resourceFailures h, List.flatMap_def]
  rfl

theorem ite_nil_eq_nil {α : Type} {p : Prop} [Decidable p] {a : α} :
    (if p then [a] else []) = [] ↔ ¬ p := by
  by_cases h : p
  · simp [h]
  · simp [h]

theorem isPublicBucket_iff {resource : Dict String Json} :
    isPublicBucket resource = true ↔ resource.get? "type" = some (.str "s3_bucket") ∧
      ∃ v, resource.get? "public_write" = some v ∧ v.truthy = true := by
  unfold isPublicBucket
  rw [Bool.and_eq_true, decide_eq_true_iff, resourceText_eq_some_iff]
  cases resource.get? "public_write" with
  | none => simp
  | some v => simp

theorem isUnforcedDistribution_iff {resource : Dict String Json} :
    isUnforcedDistribution resource = true ↔
      resource.get? "type" = some (.str "cloudfront_distribution") ∧
        ∀ policy ∈ httpsPolicies,
          resource.get? "viewer_protocol_policy" ≠ some (.str policy) := by
  unfold isUnforcedDistribution
  rw [Bool.and_eq_true, decide_eq_true_iff, resourceText_eq_some_iff]
  refine and_congr_right fun _ => ?_
  simp only [ne_eq, ← resourceText_eq_some_iff]
  cases resourceText resource "viewer_protocol_policy" with
  | none => simp
  | some policy =>
      simp only [Option.map_some, Option.getD_some, Bool.not_eq_true', Option.some.injEq]
      rw [← Bool.not_eq_true, List.contains_iff_mem]
      constructor
      · rintro hno other hmem rfl
        exact hno hmem
      · intro hall hmem
        exact hall policy hmem rfl

/-! ### When there is no failure -/

theorem namedFailures_eq_nil_iff {name : String} {resource : Dict String Json} :
    namedFailures name resource = [] ↔ namePrefix.toList <+: name.toList ∧
      ¬ isPublicBucket resource = true ∧ ¬ isUnforcedDistribution resource = true := by
  unfold namedFailures
  rw [List.append_eq_nil_iff, List.append_eq_nil_iff, ite_nil_eq_nil, ite_nil_eq_nil, and_assoc]
  refine and_congr_left fun _ => ?_
  rw [← List.isPrefixOf_iff_prefix]
  split
  · rename_i hprefix
    exact iff_of_true rfl hprefix
  · rename_i hprefix
    exact iff_of_false (List.cons_ne_nil _ _) hprefix

theorem hasApprovedRegion_iff {env : ComplianceEnv} {spec : Submission} :
    spec.hasApprovedRegion env = true ↔ spec.region = some (.str env.approvedRegion) := by
  unfold Submission.hasApprovedRegion
  rw [decide_eq_true_iff]
  simp only [Option.bind_eq_some_iff, Json.asString_eq_some, exists_eq_right]

theorem submissionFailures_eq_nil_iff {env : ComplianceEnv} {spec : Submission} :
    submissionFailures env spec = [] ↔ spec.region = some (.str env.approvedRegion) ∧
      ¬ Scenario.costCeiling.Applies env spec := by
  unfold submissionFailures
  rw [List.append_eq_nil_iff, ite_nil_eq_nil, ← hasApprovedRegion_iff]
  refine and_congr_left fun _ => ?_
  split
  · rename_i hregion
    exact iff_of_true rfl hregion
  · rename_i hregion
    exact iff_of_false (List.cons_ne_nil _ _) hregion

/-- The resources have no failure where no scenario about resources, but for the region, applies. -/
theorem resources_pass_iff (env : ComplianceEnv) {spec : Submission} (h : spec.Named) :
    (∀ resource ∈ spec.resources, namedFailures (resourceName resource) resource = []) ↔
      ¬ Scenario.publicWrite.Applies env spec ∧ ¬ Scenario.resourceNaming.Applies env spec ∧
        ¬ Scenario.httpsEnforced.Applies env spec := by
  simp only [namedFailures_eq_nil_iff, isPublicBucket_iff, isUnforcedDistribution_iff]
  constructor
  · intro hpass
    refine ⟨?_, ?_, ?_⟩
    · rintro ⟨resource, hmem, hbucket⟩
      exact (hpass resource hmem).2.1 hbucket
    · rintro ⟨resource, hmem, name, hname, hprefix⟩
      have hpass' := (hpass resource hmem).1
      rw [resourceName_eq hname] at hpass'
      exact hprefix hpass'
    · rintro ⟨resource, hmem, hdistribution⟩
      exact (hpass resource hmem).2.2 hdistribution
  · rintro ⟨hpublic, hnaming, hhttps⟩ resource hmem
    obtain ⟨name, hname⟩ := h resource hmem
    refine ⟨?_, fun hbucket => hpublic ⟨resource, hmem, hbucket⟩,
      fun hdistribution => hhttps ⟨resource, hmem, hdistribution⟩⟩
    rw [resourceName_eq hname]
    by_contra hprefix
    exact hnaming ⟨resource, hmem, name, hname, hprefix⟩

/-- No scenario but the region restriction applies. -/
def NoOtherApplies (env : ComplianceEnv) (spec : Submission) : Prop :=
  ∀ scenario, scenario ≠ .regionRestriction → ¬ Scenario.Applies env spec scenario

theorem noOtherApplies_iff {env : ComplianceEnv} {spec : Submission} :
    NoOtherApplies env spec ↔
      (¬ Scenario.publicWrite.Applies env spec ∧ ¬ Scenario.resourceNaming.Applies env spec ∧
        ¬ Scenario.httpsEnforced.Applies env spec) ∧ ¬ Scenario.costCeiling.Applies env spec := by
  constructor
  · intro h
    exact ⟨⟨h _ (by decide), h _ (by decide), h _ (by decide)⟩, h _ (by decide)⟩
  · rintro ⟨⟨hpublic, hnaming, hhttps⟩, hcost⟩ scenario hne
    cases scenario with
    | publicWrite => exact hpublic
    | resourceNaming => exact hnaming
    | regionRestriction => exact absurd rfl hne
    | httpsEnforced => exact hhttps
    | costCeiling => exact hcost

/-- **The check passes** where the region of the specification is the approved one and no scenario
but the region restriction applies. -/
theorem checkCompliance_passes_iff (env : ComplianceEnv) {spec : Submission} (h : spec.Named) :
    checkCompliance env spec = .ok [] ↔
      spec.region = some (.str env.approvedRegion) ∧ NoOtherApplies env spec := by
  have hresources := resources_pass_iff env h
  rw [checkCompliance_eq env h, Except.ok.injEq, List.append_eq_nil_iff, List.flatMap_eq_nil_iff,
    submissionFailures_eq_nil_iff, hresources, noOtherApplies_iff, and_assoc]
  exact and_congr_right fun _ => and_comm

/-! ### The region -/

/-- In a specification of the approved region a resource targets another one by its own region
only. -/
theorem targetsOther_iff_of_region {env : ComplianceEnv} {spec : Submission}
    (h : spec.region = some (.str env.approvedRegion)) (resource : Dict String Json) :
    spec.TargetsOther env resource ↔ ∃ region, givenRegion (resource.get? "region") = some region ∧
      region ≠ .str env.approvedRegion := by
  unfold Submission.TargetsOther Submission.targetRegion
  rw [h]
  cases givenRegion (resource.get? "region") with
  | some own => exact Iff.rfl
  | none =>
      refine iff_of_false ?_ ?_
      · rintro ⟨_, ⟨⟩, hne⟩
        exact hne rfl
      · rintro ⟨_, ⟨⟩, -⟩

/-- The regions agree where the check of the specification's region decides the scenario. -/
theorem regionsAgree_iff {env : ComplianceEnv} {spec : Submission} :
    RegionsAgree env spec ↔ (spec.region = some (.str env.approvedRegion) ↔
      ¬ Scenario.regionRestriction.Applies env spec) := by
  unfold RegionsAgree
  by_cases hregion : spec.region = some (.str env.approvedRegion)
  · simp only [hregion, true_and, not_true_eq_false, false_and, or_false, true_iff, ne_eq]
    constructor
    · rintro hown ⟨resource, hmem, htargets⟩
      obtain ⟨region, hgiven, hne⟩ := (targetsOther_iff_of_region hregion resource).1 htargets
      exact hne (hown resource hmem region hgiven)
    · intro hno resource hmem region hgiven
      by_contra hne
      have htargets := (targetsOther_iff_of_region hregion resource).2 ⟨region, hgiven, hne⟩
      exact hno ⟨resource, hmem, htargets⟩
  · simp only [hregion, false_and, ne_eq, not_false_eq_true, true_and, false_or, false_iff, not_not]
    exact Iff.rfl

theorem exists_other_iff {env : ComplianceEnv} {spec : Submission} :
    (∃ scenario ≠ Scenario.regionRestriction, scenario.Applies env spec) ↔
      ¬ NoOtherApplies env spec := by
  unfold NoOtherApplies
  push Not
  exact Iff.rfl

/-- **A resource never removes a failure.** -/
theorem failures_sublist (env : ComplianceEnv) {spec : Submission} (h : spec.Named)
    {before after : List (Dict String Json)} (hsplit : spec.resources = before ++ after)
    {resource : Dict String Json} (hname : ∃ name, resource.get? "name" = some (.str name)) :
    ∃ failures failures', checkCompliance env spec = .ok failures ∧
      checkCompliance env { spec with resources := before ++ resource :: after } = .ok failures' ∧
      failures.Sublist failures' := by
  have hnamed : Submission.Named { spec with resources := before ++ resource :: after } := by
    intro other hother
    rcases List.mem_append.1 hother with hbefore | hrest
    · exact h other (hsplit ▸ List.mem_append_left _ hbefore)
    · rcases List.mem_cons.1 hrest with rfl | hafter
      · exact hname
      · exact h other (hsplit ▸ List.mem_append_right _ hafter)
  refine ⟨_, _, checkCompliance_eq env h, checkCompliance_eq env hnamed, ?_⟩
  refine List.Sublist.append (List.Sublist.refl _) ?_
  rw [hsplit, List.flatMap_append, List.flatMap_append, List.flatMap_cons]
  exact List.Sublist.append (List.Sublist.refl _) (List.sublist_append_right _ _)

/-- **The check passes exactly where no scenario applies, if and only if the regions agree or
another scenario applies; and a resource never removes a failure.** -/
theorem compliance_check_iff (env : ComplianceEnv) {spec : Submission} (h : spec.Named) :
    ((checkCompliance env spec = .ok [] ↔ ∀ scenario, ¬ Scenario.Applies env spec scenario) ↔
      RegionsAgree env spec ∨
        ∃ scenario ≠ Scenario.regionRestriction, scenario.Applies env spec) ∧
    ∀ (before after : List (Dict String Json)), spec.resources = before ++ after →
      ∀ resource : Dict String Json, (∃ name, resource.get? "name" = some (.str name)) →
        ∃ failures failures', checkCompliance env spec = .ok failures ∧
          checkCompliance env { spec with resources := before ++ resource :: after } =
            .ok failures' ∧
          failures.Sublist failures' := by
  refine ⟨?_, fun before after hsplit resource hname => failures_sublist env h hsplit hname⟩
  have hdocument : (∀ scenario, ¬ Scenario.Applies env spec scenario) ↔
      ¬ Scenario.regionRestriction.Applies env spec ∧ NoOtherApplies env spec := by
    constructor
    · intro hnone
      exact ⟨hnone _, fun scenario _ => hnone scenario⟩
    · rintro ⟨hregion, hother⟩ scenario
      by_cases hne : scenario = .regionRestriction
      · rw [hne]
        exact hregion
      · exact hother scenario hne
  rw [checkCompliance_passes_iff env h, hdocument, regionsAgree_iff, exists_other_iff]
  tauto

/-- The default settings. -/
def defaultCompliance : ComplianceEnv := ⟨"us-east-1", 5⟩

/-- A bucket with a region of its own. -/
def bucketIn (region : String) : Dict String Json :=
  .ofPairs [("type", .str "s3_bucket"), ("name", .str "platformops-demo-blog"),
    ("region", .str region)]

/-- A specification of the approved region with a bucket in this one. -/
def blogIn (region : String) : Submission := ⟨some (.str "us-east-1"), some 1, [bucketIn region]⟩

theorem named_blogIn (region : String) : (blogIn region).Named := by
  intro resource hmem
  rw [List.mem_singleton.1 hmem]
  exact ⟨"platformops-demo-blog", rfl⟩

theorem blog_in_approved_region :
    ((checkCompliance defaultCompliance (blogIn "us-east-1") = .ok [] ↔
        ∀ scenario, ¬ Scenario.Applies defaultCompliance (blogIn "us-east-1") scenario) ↔
      RegionsAgree defaultCompliance (blogIn "us-east-1") ∨
        ∃ scenario ≠ Scenario.regionRestriction,
          scenario.Applies defaultCompliance (blogIn "us-east-1")) ∧
    ∀ (before after : List (Dict String Json)), (blogIn "us-east-1").resources = before ++ after →
      ∀ resource : Dict String Json, (∃ name, resource.get? "name" = some (.str name)) →
        ∃ failures failures',
          checkCompliance defaultCompliance (blogIn "us-east-1") = .ok failures ∧
          checkCompliance defaultCompliance
            { blogIn "us-east-1" with resources := before ++ resource :: after } = .ok failures' ∧
          failures.Sublist failures' :=
  compliance_check_iff defaultCompliance (named_blogIn "us-east-1")

/-- **A bucket in another region passes.** -/
theorem bucket_elsewhere_passes :
    checkCompliance defaultCompliance (blogIn "eu-west-1") = .ok [] ∧
      Scenario.regionRestriction.Applies defaultCompliance (blogIn "eu-west-1") ∧
      ¬ ∀ (env : ComplianceEnv) (spec : Submission), spec.Named →
        (checkCompliance env spec = .ok [] ↔ ∀ scenario, ¬ Scenario.Applies env spec scenario) := by
  have hpasses : checkCompliance defaultCompliance (blogIn "eu-west-1") = .ok [] := by
    decide
  have happlies : Scenario.regionRestriction.Applies defaultCompliance (blogIn "eu-west-1") := by
    refine ⟨bucketIn "eu-west-1", List.mem_singleton_self _, .str "eu-west-1", rfl, ?_⟩
    intro hsame
    exact absurd (Json.str.inj hsame) (by decide)
  exact ⟨hpasses, happlies, fun hall =>
    (hall _ _ (named_blogIn "eu-west-1")).1 hpasses _ happlies⟩

end PlatformOps
