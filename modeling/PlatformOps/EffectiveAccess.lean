/-
**Effective access.**

What an actor may do on a scope is the lower of two capabilities: what its grants let it do there,
and the ceiling that the policy of the organization sets for the intent.  On both sides only the
most specific entries that match the scope count.  Among grants of one specificity the lowest
capability counts; ceilings of one specificity have to agree, and an error is raised if they do not.
Nothing is granted where nothing matches.

Main definitions:

* `CeilingEntry`, `OrgBuPolicyConfig` — the policy;
* `resolveCeiling`, `effectiveAccess` — the ceiling, and the lower of grant and ceiling;
* `bestGrants`, `bestEntries` — the most specific matches;
* `GrantFloor`, `Ceiling` — the two capabilities, said without the passes over the lists.

Main results:

* `resolveExecutionCapability_eq_iff`, `resolveCeiling_eq_ok_iff` — each half is what it should be;
* `effectiveAccess_laws` — **effective access is a capped most-specific minimum**.
-/

import Mathlib.Data.List.Dedup
import Mathlib.Data.List.Perm.Subperm
import Mathlib.Data.List.Sort
import Mathlib.Order.Bounds.Basic
import PlatformOps.MostSpecific
import PlatformOps.ProvisionRequest

set_option relaxedAutoImplicit false
set_option autoImplicit false

namespace PlatformOps

open MostSpecific

/-! ### The ladder as an order -/

theorem Capability.rank_injective : Function.Injective Capability.rank := by
  intro c d h
  cases c <;> cases d <;> first | rfl | cases h

instance : LinearOrder Capability := LinearOrder.lift' Capability.rank Capability.rank_injective

theorem Capability.min_eq (c d : Capability) : c.min d = Min.min c d := by
  unfold Capability.min
  by_cases h : c.rank ≤ d.rank
  · rw [if_pos h, min_eq_left (show c ≤ d from h)]
  · rw [if_neg h, min_eq_right (show d ≤ c from Nat.le_of_not_le h)]

theorem Capability.le_admin (c : Capability) : c ≤ .admin := by
  cases c <;> decide

/-- The wire value of a capability. -/
def Capability.value : Capability → String
  | .none => "none"
  | .describe => "describe"
  | .plan => "plan"
  | .proposeChange => "propose_change"
  | .applyLimited => "apply_limited"
  | .applyFull => "apply_full"
  | .admin => "admin"

/-! ### The ceiling -/

structure CeilingEntry where
  scope : Scope
  intent : Intent
  ceiling : Capability
  deriving DecidableEq

structure OrgBuPolicyConfig where
  entries : List CeilingEntry

/-- An error in the policy, with its text. -/
structure AmbiguousCeiling where
  message : String
  deriving DecidableEq

section

variable (repr : String → String)

/-- The text of an optional part of a scope. -/
def reprPart : Option String → String
  | none => "None"
  | some part => repr part

/-- The text of a scope. -/
def reprScope (scope : Scope) : String :=
  "Scope(org=" ++ repr scope.org ++ ", bu=" ++ repr scope.bu ++ ", project=" ++
    reprPart repr scope.project ++ ", workspace=" ++ reprPart repr scope.workspace ++ ")"

/-- The text of an intent. -/
def reprIntent : Intent → String
  | .provision => "<Intent.PROVISION: 'provision'>"
  | .inquiry => "<Intent.INQUIRY: 'inquiry'>"
  | .complianceCheck => "<Intent.COMPLIANCE_CHECK: 'compliance_check'>"

/-- The ceilings of entries, each once and in the order of their texts. -/
def sortedCeilings (tied : List CeilingEntry) : List String :=
  ((tied.map (·.ceiling)).dedup.map Capability.value).insertionSort (· ≤ ·)

/-- The error for entries of one specificity that disagree. -/
def ambiguousCeiling (scope : Scope) (intent : Intent) (tied : List CeilingEntry) :
    AmbiguousCeiling where
  message := "ambiguous policy ceiling for scope=" ++ reprScope repr scope ++ " intent=" ++
    reprIntent intent ++ ": equally-specific entries disagree ([" ++
    ", ".intercalate ((sortedCeilings tied).map repr) ++
    "]) -- fix the policy config, this is an authoring bug"

/-- The ceiling of the most specific entries that match a scope and an intent. -/
def resolveCeiling (scope : Scope) (intent : Intent) (config : OrgBuPolicyConfig) :
    Except AmbiguousCeiling Capability :=
  match config.entries.filter fun e => e.intent = intent && scopeMatches e.scope scope with
  | [] => .ok .none
  | first :: rest =>
      let top := topRank (fun e => specificity e.scope) first rest
      let tied := (first :: rest).filter fun e => specificity e.scope = top
      if 1 < (tied.map (·.ceiling)).dedup.length then
        .error (ambiguousCeiling repr scope intent tied)
      else match tied with
        | [] => .ok .none
        | entry :: _ => .ok entry.ceiling

/-- The lower of what is granted and what the policy allows. -/
def effectiveAccess (scope : Scope) (intent : Intent) (executionGrants : List ExecutionGrant)
    (policy : OrgBuPolicyConfig) : Except AmbiguousCeiling Capability :=
  let grant := resolveExecutionCapability scope executionGrants
  match resolveCeiling repr scope intent policy with
  | .error error => .error error
  | .ok ceiling => .ok (grant.min ceiling)

end

/-! ### The most specific matches -/

/-- The matching grants of the highest specificity. -/
def bestGrants (scope : Scope) (grants : List ExecutionGrant) : List ExecutionGrant :=
  highest (fun g => specificity g.scope) (grants.filter fun g => scopeMatches g.scope scope)

/-- The matching entries of the highest specificity. -/
def bestEntries (scope : Scope) (intent : Intent) (config : OrgBuPolicyConfig) :
    List CeilingEntry :=
  highest (fun e => specificity e.scope)
    (config.entries.filter fun e => e.intent = intent && scopeMatches e.scope scope)

/-- The lowest capability of the best grants, or none if there is no match. -/
def GrantFloor (scope : Scope) (grants : List ExecutionGrant) (c : Capability) : Prop :=
  (bestGrants scope grants = [] ∧ c = .none) ∨
    IsLeast {d | ∃ g ∈ bestGrants scope grants, g.capability = d} c

/-- The ceiling of the best entries, or none if there is no match. -/
def Ceiling (scope : Scope) (intent : Intent) (config : OrgBuPolicyConfig) (c : Capability) :
    Prop :=
  (bestEntries scope intent config = [] ∧ c = .none) ∨
    (bestEntries scope intent config ≠ [] ∧
      ∀ e ∈ bestEntries scope intent config, e.ceiling = c)

/-- Two of the best entries disagree. -/
def Disagree (scope : Scope) (intent : Intent) (config : OrgBuPolicyConfig) : Prop :=
  ∃ e ∈ bestEntries scope intent config, ∃ e' ∈ bestEntries scope intent config,
    e.ceiling ≠ e'.ceiling

/-! ### The two halves -/

/-- A fold takes the lowest of the start and the capabilities. -/
theorem foldl_min_spec (l : List ExecutionGrant) (start : Capability) :
    l.foldl (fun c g => c.min g.capability) start ≤ start ∧
      (∀ g ∈ l, l.foldl (fun c g => c.min g.capability) start ≤ g.capability) ∧
      (l.foldl (fun c g => c.min g.capability) start = start ∨
        ∃ g ∈ l, g.capability = l.foldl (fun c g => c.min g.capability) start) := by
  induction l generalizing start with
  | nil => simp
  | cons g l ih =>
      obtain ⟨hstart, hall, hsome⟩ := ih (start.min g.capability)
      rw [Capability.min_eq] at hstart
      simp only [List.foldl_cons]
      refine ⟨hstart.trans (min_le_left _ _), ?_, ?_⟩
      · intro g' hg'
        rcases List.mem_cons.1 hg' with rfl | hg'
        · exact hstart.trans (min_le_right _ _)
        · exact hall g' hg'
      · rcases hsome with hsame | ⟨g', hg', hcap⟩
        · rw [hsame, Capability.min_eq]
          rcases min_choice start g.capability with hmin | hmin
          · exact .inl hmin
          · exact .inr ⟨g, List.mem_cons_self, hmin.symm⟩
        · exact .inr ⟨g', List.mem_cons_of_mem g hg', hcap⟩

theorem isLeast_foldl_min {l : List ExecutionGrant} (h : l ≠ []) :
    IsLeast {d | ∃ g ∈ l, g.capability = d}
      (l.foldl (fun c g => c.min g.capability) .admin) := by
  obtain ⟨-, hall, hsome⟩ := foldl_min_spec l .admin
  refine ⟨?_, ?_⟩
  · rcases hsome with htop | hsome
    · obtain ⟨g, hg⟩ := List.exists_mem_of_ne_nil l h
      refine ⟨g, hg, le_antisymm ?_ (hall g hg)⟩
      rw [htop]
      exact g.capability.le_admin
    · exact hsome
  · rintro _ ⟨g, hg, rfl⟩
    exact hall g hg

/-- **What the grants give is the lowest capability of the most specific matches.** -/
theorem resolveExecutionCapability_eq_iff {scope : Scope} {grants : List ExecutionGrant}
    {c : Capability} :
    resolveExecutionCapability scope grants = c ↔ GrantFloor scope grants c := by
  unfold resolveExecutionCapability GrantFloor bestGrants
  cases hmatches : grants.filter fun g => scopeMatches g.scope scope with
  | nil => simp [highest_nil, IsLeast, eq_comm]
  | cons first rest =>
      have htied := filter_topRank (fun g : ExecutionGrant => specificity g.scope) first rest
      obtain ⟨g, hg⟩ : ∃ g, g ∈ highest (fun g : ExecutionGrant => specificity g.scope)
          (first :: rest) := exists_mem_highest (List.cons_ne_nil first rest)
      have hne := List.ne_nil_of_mem hg
      have hleast := isLeast_foldl_min hne
      rw [← htied] at hleast hne ⊢
      constructor
      · rintro rfl
        exact .inr hleast
      · rintro (⟨hnil, -⟩ | hc)
        · exact absurd hnil hne
        · exact hleast.unique hc

theorem one_lt_length_dedup_iff {α : Type} [DecidableEq α] {l : List α} :
    1 < l.dedup.length ↔ ∃ a ∈ l, ∃ b ∈ l, a ≠ b := by
  constructor
  · intro h
    match hd : l.dedup, h with
    | a :: b :: rest, _ =>
        have hnodup := List.nodup_dedup l
        rw [hd] at hnodup
        refine ⟨a, List.mem_dedup.1 (by simp [hd]), b, List.mem_dedup.1 (by simp [hd]), ?_⟩
        rintro rfl
        simp at hnodup
  · rintro ⟨a, ha, b, hb, hne⟩
    have hsub : [a, b] ⊆ l.dedup := by
      intro c hc
      rcases List.mem_cons.1 hc with rfl | hc
      · exact List.mem_dedup.2 ha
      · exact List.mem_dedup.2 (List.mem_singleton.1 hc ▸ hb)
    have hlength := (List.Nodup.subperm (by simpa using hne) hsub).length_le
    exact Nat.lt_of_lt_of_le Nat.one_lt_two hlength

section

variable {repr : String → String} {scope : Scope} {intent : Intent} {config : OrgBuPolicyConfig}

/-- What the two passes over the entries amount to. -/
theorem resolveCeiling_eq :
    resolveCeiling repr scope intent config =
      if 1 < ((bestEntries scope intent config).map (·.ceiling)).dedup.length then
        .error (ambiguousCeiling repr scope intent (bestEntries scope intent config))
      else .ok (((bestEntries scope intent config).head?.map (·.ceiling)).getD .none) := by
  unfold resolveCeiling bestEntries
  cases hmatches : config.entries.filter fun e => e.intent = intent && scopeMatches e.scope scope with
  | nil => rfl
  | cons first rest =>
      simp only [filter_topRank]
      cases highest (fun e : CeilingEntry => specificity e.scope) (first :: rest) with
      | nil => rfl
      | cons entry tied => rfl

theorem disagree_iff :
    Disagree scope intent config ↔
      1 < ((bestEntries scope intent config).map (·.ceiling)).dedup.length := by
  rw [one_lt_length_dedup_iff]
  simp [Disagree]

/-- **The ceiling is an error exactly if two of the most specific entries disagree.** -/
theorem exists_resolveCeiling_error_iff :
    (∃ error, resolveCeiling repr scope intent config = .error error) ↔
      Disagree scope intent config := by
  rw [resolveCeiling_eq, disagree_iff]
  split
  · rename_i h
    exact ⟨fun _ => h, fun _ => ⟨_, rfl⟩⟩
  · rename_i h
    exact ⟨nofun, fun hd => absurd hd h⟩

theorem resolveCeiling_eq_error_iff {error : AmbiguousCeiling} :
    resolveCeiling repr scope intent config = .error error ↔
      Disagree scope intent config ∧
        error = ambiguousCeiling repr scope intent (bestEntries scope intent config) := by
  rw [resolveCeiling_eq, disagree_iff]
  by_cases h : 1 < ((bestEntries scope intent config).map (·.ceiling)).dedup.length
  · simp [h, eq_comm]
  · simp [h]

/-- **Without a disagreement it is the ceiling of the most specific entries.** -/
theorem resolveCeiling_eq_ok_iff {c : Capability} :
    resolveCeiling repr scope intent config = .ok c ↔ Ceiling scope intent config c := by
  rw [resolveCeiling_eq, Ceiling]
  by_cases h : 1 < ((bestEntries scope intent config).map (·.ceiling)).dedup.length
  · rw [if_pos h]
    refine ⟨nofun, ?_⟩
    obtain ⟨e, he, e', he', hne⟩ := disagree_iff.2 h
    rintro (⟨hnil, -⟩ | ⟨-, hall⟩)
    · rw [hnil] at he
      cases he
    · exact absurd ((hall e he).trans (hall e' he').symm) hne
  · rw [if_neg h]
    have hagree : ∀ e ∈ bestEntries scope intent config, ∀ e' ∈ bestEntries scope intent config,
        e.ceiling = e'.ceiling := by
      rw [← disagree_iff] at h
      unfold Disagree at h
      push Not at h
      exact h
    cases hbest : bestEntries scope intent config with
    | nil => simp [eq_comm]
    | cons entry tied =>
        rw [hbest] at hagree
        simp only [List.head?_cons, Option.map_some, Option.getD_some, Except.ok.injEq]
        constructor
        · rintro rfl
          exact .inr ⟨List.cons_ne_nil _ _, fun e he => hagree e he entry List.mem_cons_self⟩
        · rintro (⟨hnil, -⟩ | ⟨-, hall⟩)
          · cases hnil
          · exact hall entry List.mem_cons_self

/-! ### The laws -/

/-- The text of the error does not depend on the order of the entries. -/
theorem sortedCeilings_perm {tied tied' : List CeilingEntry} (h : tied.Perm tied') :
    sortedCeilings tied = sortedCeilings tied' := by
  have hperm : ((tied.map (·.ceiling)).dedup.map Capability.value).Perm
      ((tied'.map (·.ceiling)).dedup.map Capability.value) := ((h.map _).dedup).map _
  have hsorted := ((List.perm_insertionSort (· ≤ ·) _).trans
    (hperm.trans (List.perm_insertionSort (· ≤ ·) _).symm))
  exact List.Perm.eq_of_pairwise (fun a b _ _ hab hba => le_antisymm hab hba)
    (List.pairwise_insertionSort _ _) (List.pairwise_insertionSort _ _) hsorted

/-- Only the best grants count, in any order. -/
theorem resolveExecutionCapability_congr {grants grants' : List ExecutionGrant}
    (h : (bestGrants scope grants').Perm (bestGrants scope grants)) :
    resolveExecutionCapability scope grants' = resolveExecutionCapability scope grants := by
  refine resolveExecutionCapability_eq_iff.2 ?_
  have hfloor : GrantFloor scope grants (resolveExecutionCapability scope grants) :=
    resolveExecutionCapability_eq_iff.1 rfl
  unfold GrantFloor at hfloor ⊢
  simp only [h.mem_iff]
  rcases hfloor with ⟨hnil, hnone⟩ | hleast
  · refine .inl ⟨?_, hnone⟩
    rw [hnil] at h
    exact h.eq_nil
  · exact .inr hleast

/-- Only the best entries count, in any order. -/
theorem resolveCeiling_congr {config' : OrgBuPolicyConfig}
    (h : (bestEntries scope intent config').Perm (bestEntries scope intent config)) :
    resolveCeiling repr scope intent config' = resolveCeiling repr scope intent config := by
  cases hceiling : resolveCeiling repr scope intent config with
  | error error =>
      obtain ⟨hdisagree, rfl⟩ := resolveCeiling_eq_error_iff.1 hceiling
      refine resolveCeiling_eq_error_iff.2 ⟨?_, ?_⟩
      · unfold Disagree at hdisagree ⊢
        simpa only [h.mem_iff] using hdisagree
      · unfold ambiguousCeiling
        rw [sortedCeilings_perm h]
  | ok c =>
      refine resolveCeiling_eq_ok_iff.2 ?_
      have hc := resolveCeiling_eq_ok_iff.1 hceiling
      unfold Ceiling at hc ⊢
      simp only [h.mem_iff]
      rcases hc with ⟨hnil, hnone⟩ | ⟨hne, hall⟩
      · refine .inl ⟨?_, hnone⟩
        rw [hnil] at h
        exact h.eq_nil
      · refine .inr ⟨fun hnil => hne ?_, hall⟩
        rw [hnil] at h
        exact h.symm.eq_nil

theorem effectiveAccess_congr {grants grants' : List ExecutionGrant}
    {config' : OrgBuPolicyConfig}
    (hgrants : (bestGrants scope grants').Perm (bestGrants scope grants))
    (hentries : (bestEntries scope intent config').Perm (bestEntries scope intent config)) :
    effectiveAccess repr scope intent grants' config' =
      effectiveAccess repr scope intent grants config := by
  unfold effectiveAccess
  rw [resolveExecutionCapability_congr hgrants, resolveCeiling_congr hentries]

theorem effectiveAccess_eq_ok_iff {grants : List ExecutionGrant} {c : Capability} :
    effectiveAccess repr scope intent grants config = .ok c ↔
      ∃ b, Ceiling scope intent config b ∧
        c = min (resolveExecutionCapability scope grants) b := by
  unfold effectiveAccess
  cases hceiling : resolveCeiling repr scope intent config with
  | error error =>
      have hnot : ∀ b, ¬ Ceiling scope intent config b := by
        intro b hb
        rw [resolveCeiling_eq_ok_iff.2 hb] at hceiling
        cases hceiling
      simp [hnot]
  | ok b =>
      have hb : ∀ b', Ceiling scope intent config b' ↔ b = b' := by
        intro b'
        have hiff : resolveCeiling repr scope intent config = .ok b' ↔
            Ceiling scope intent config b' := resolveCeiling_eq_ok_iff
        rw [← hiff, hceiling, Except.ok.injEq]
      simp [hb, Capability.min_eq, eq_comm]

/-- **It raises exactly if two of the best entries disagree.** -/
theorem exists_effectiveAccess_error_iff {grants : List ExecutionGrant} :
    (∃ error, effectiveAccess repr scope intent grants config = .error error) ↔
      Disagree scope intent config := by
  have hiff : (∃ error, resolveCeiling repr scope intent config = .error error) ↔
      Disagree scope intent config := exists_resolveCeiling_error_iff
  rw [← hiff]
  unfold effectiveAccess
  cases resolveCeiling repr scope intent config with
  | error error => simp
  | ok b => simp

/-! ### Further grants and entries -/

/-- Grants less specific than a best one are not among the best. -/
theorem bestGrants_of_lt {grants grants' extra : List ExecutionGrant}
    (hperm : grants'.Perm (grants ++ extra))
    (h : ∀ g ∈ extra, ∃ best ∈ bestGrants scope grants,
      specificity g.scope < specificity best.scope) :
    (bestGrants scope grants').Perm (bestGrants scope grants) := by
  refine (highest_perm (hperm.filter _)).trans ?_
  rw [List.filter_append, highest_append_of_lt]
  · rfl
  · intro g hg
    obtain ⟨best, hbest, hlt⟩ := h g (List.mem_filter.1 hg).1
    exact ⟨best, (mem_highest.1 hbest).1, hlt⟩

/-- Entries less specific than a best one are not among the best. -/
theorem bestEntries_of_lt {entries' extra : List CeilingEntry}
    (hperm : entries'.Perm (config.entries ++ extra))
    (h : ∀ e ∈ extra, ∃ best ∈ bestEntries scope intent config,
      specificity e.scope < specificity best.scope) :
    (bestEntries scope intent ⟨entries'⟩).Perm (bestEntries scope intent config) := by
  refine (highest_perm (hperm.filter _)).trans ?_
  rw [List.filter_append, highest_append_of_lt]
  · rfl
  · intro e he
    obtain ⟨best, hbest, hlt⟩ := h e (List.mem_filter.1 he).1
    exact ⟨best, (mem_highest.1 hbest).1, hlt⟩

/-- Grants as specific as a best one can only lower what is granted. -/
theorem resolveExecutionCapability_le {grants grants' extra : List ExecutionGrant}
    (hperm : grants'.Perm (grants ++ extra)) {best : ExecutionGrant}
    (hbest : best ∈ bestGrants scope grants)
    (h : ∀ g ∈ extra, specificity g.scope = specificity best.scope) :
    resolveExecutionCapability scope grants' ≤ resolveExecutionCapability scope grants := by
  have hmem : ∀ g ∈ bestGrants scope grants, g ∈ bestGrants scope grants' := by
    intro g hg
    refine (highest_perm (hperm.filter _)).mem_iff.2 ?_
    rw [List.filter_append,
      highest_append_of_eq hbest fun g hg => h g (List.mem_filter.1 hg).1]
    exact List.mem_append_left _ hg
  have hfloor : GrantFloor scope grants (resolveExecutionCapability scope grants) :=
    resolveExecutionCapability_eq_iff.1 rfl
  have hfloor' : GrantFloor scope grants' (resolveExecutionCapability scope grants') :=
    resolveExecutionCapability_eq_iff.1 rfl
  rcases hfloor with ⟨hnil, -⟩ | ⟨⟨g, hg, hcap⟩, -⟩
  · rw [hnil] at hbest
    cases hbest
  · rcases hfloor' with ⟨hnil, -⟩ | ⟨-, hall⟩
    · have hg' := hmem g hg
      rw [hnil] at hg'
      cases hg'
    · exact hcap ▸ hall ⟨g, hmem g hg, rfl⟩

end

/-- **Effective access is a capped most-specific minimum.** -/
theorem effectiveAccess_laws (repr : String → String) (scope : Scope) (intent : Intent)
    (grants : List ExecutionGrant) (config : OrgBuPolicyConfig) :
    -- the order of neither list matters
    (∀ grants' entries', grants'.Perm grants → entries'.Perm config.entries →
      effectiveAccess repr scope intent grants' ⟨entries'⟩ =
        effectiveAccess repr scope intent grants config) ∧
    -- what is returned
    (∀ c, effectiveAccess repr scope intent grants config = .ok c →
      ∃ a b, GrantFloor scope grants a ∧ Ceiling scope intent config b ∧ c = min a b) ∧
    -- when an error is raised
    ((∃ error, effectiveAccess repr scope intent grants config = .error error) ↔
      Disagree scope intent config) ∧
    -- less specific grants and entries, at any positions
    (∀ grants' entries' extraGrants extraEntries, grants'.Perm (grants ++ extraGrants) →
      entries'.Perm (config.entries ++ extraEntries) →
      (∀ g ∈ extraGrants, ∃ best ∈ bestGrants scope grants,
        specificity g.scope < specificity best.scope) →
      (∀ e ∈ extraEntries, ∃ best ∈ bestEntries scope intent config,
        specificity e.scope < specificity best.scope) →
      effectiveAccess repr scope intent grants' ⟨entries'⟩ =
        effectiveAccess repr scope intent grants config) ∧
    -- grants of equal specificity, at any positions
    (∀ grants' extra best, grants'.Perm (grants ++ extra) → best ∈ bestGrants scope grants →
      (∀ g ∈ extra, specificity g.scope = specificity best.scope) →
      ∀ c, effectiveAccess repr scope intent grants config = .ok c →
        ∃ c' ≤ c, effectiveAccess repr scope intent grants' config = .ok c') := by
  refine ⟨fun grants' entries' hgrants hentries => ?_, fun c hc => ?_,
    exists_effectiveAccess_error_iff, ?_, ?_⟩
  · exact effectiveAccess_congr (highest_perm (hgrants.filter _)) (highest_perm (hentries.filter _))
  · obtain ⟨b, hb, hmin⟩ := effectiveAccess_eq_ok_iff.1 hc
    exact ⟨_, b, resolveExecutionCapability_eq_iff.1 rfl, hb, hmin⟩
  · intro grants' entries' extraGrants extraEntries hgrants hentries hg he
    exact effectiveAccess_congr (bestGrants_of_lt hgrants hg) (bestEntries_of_lt hentries he)
  · intro grants' extra best hgrants hbest hextra c hc
    obtain ⟨b, hb, rfl⟩ := effectiveAccess_eq_ok_iff.1 hc
    have hle := resolveExecutionCapability_le hgrants hbest hextra
    exact ⟨_, min_le_min_right b hle, effectiveAccess_eq_ok_iff.2 ⟨b, hb, rfl⟩⟩

end PlatformOps
