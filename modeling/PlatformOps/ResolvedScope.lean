/-
**Sealed scope contexts.**

A resolved context is the snapshot one authorization decision was made on: the scope with its
version, the bindings selected with theirs, and the grants and guardrails that matched.  It is
sealed by a digest of its contents and it is no authorization by itself: whoever acts on it later
compares it with the current records first.

The digest function is a parameter: a map from texts to digests of 64 hexadecimal characters.

Main definitions:

* `HexDigest` — a digest in hexadecimal;
* `ContextContents`, `ResolvedResourceScopeContext` — what is sealed, and the sealed context;
* `ContextContents.values`, `digestContext` — the sealed text and its digest;
* `sealContext` — sealing an allowed or approval-required decision;
* `requiresFreshResolution` — the comparison with the current records.

Main results:

* `sealContext_eq_ok_iff` — the decisions that are sealed, and as what;
* `requiresFreshResolution_eq_false_iff` — **a context is fresh exactly when the scope is the sealed
  one, still active, and every sealed binding id has the sealed version among its active bindings**;
* `exists_active_of_fresh` — every binding of a fresh context is there.
-/

import Mathlib.Data.Set.Function
import Mathlib.Tactic.IntervalCases
import PlatformOps.ContainerBindings
import PlatformOps.ScopeGovernance

set_option relaxedAutoImplicit false
set_option autoImplicit false

namespace PlatformOps

/-- A character of a digest. -/
def isHexChar (c : Char) : Bool := c.isDigit || ('a' ≤ c && c ≤ 'f')

/-- A digest of 256 bits, in lowercase hexadecimal. -/
structure HexDigest where
  text : String
  length_eq : text.length = 64
  isHex : text.toList.all isHexChar = true
  deriving DecidableEq

theorem HexDigest.text_injective {d e : HexDigest} (h : d.text = e.text) : d = e := by
  cases d
  cases e
  cases h
  rfl

/-- Read a digest from a text. -/
def HexDigest.ofString (s : String) : Option HexDigest :=
  if h : s.length = 64 ∧ s.toList.all isHexChar = true then some ⟨s, h.1, h.2⟩ else none

theorem HexDigest.ofString_eq_some_iff {s : String} {d : HexDigest} :
    HexDigest.ofString s = some d ↔ d.text = s := by
  unfold HexDigest.ofString
  constructor
  · intro h
    split at h
    · cases h
      rfl
    · cases h
  · rintro rfl
    rw [dif_pos ⟨d.length_eq, d.isHex⟩]

theorem isHexChar_digitChar {n : ℕ} (h : n < 16) : isHexChar (Nat.digitChar n) = true := by
  interval_cases n <;> decide

/-- The digest of a number, most significant digit first. -/
def HexDigest.ofNat (n : ℕ) : HexDigest where
  text := String.ofList ((List.range 64).reverse.map fun i => Nat.digitChar (n / 16 ^ i % 16))
  length_eq := by simp
  isHex := by
    rw [String.toList_ofList, List.all_map, List.all_eq_true]
    intro i _
    exact isHexChar_digitChar (Nat.mod_lt _ (by omega))

/-- The digest of the empty text. -/
def emptyDigest : HexDigest :=
  .ofNat 0xe3b0c44298fc1c149afbf4c8996fb92427ae41e4649b934ca495991b7852b855

/-- A digest function given by its values on some texts. -/
def hashTable (table : List (String × HexDigest)) (text : String) : HexDigest :=
  (table.lookup text).getD emptyDigest

/-- A table with distinct texts and distinct digests is injective on its texts. -/
theorem hashTable_injOn {table : List (String × HexDigest)}
    (htexts : (table.map Prod.fst).Nodup) (hdigests : (table.map Prod.snd).Nodup) :
    Set.InjOn (hashTable table) {t | t ∈ table.map Prod.fst} := by
  -- the digest of a text of the table is the one it has there
  have hvalue : ∀ {t}, t ∈ table.map Prod.fst → (t, hashTable table t) ∈ table := by
    intro t ht
    obtain ⟨⟨t', d⟩, hmem, rfl⟩ := List.mem_map.1 ht
    have hlookup : table.lookup t' = some d := (Dict.lookup_eq_some_iff_mem htexts).2 hmem
    rw [hashTable, hlookup]
    exact hmem
  intro t ht u hu h
  have htable := List.inj_on_of_nodup_map hdigests (hvalue ht) (hvalue hu) h
  exact (Prod.mk.inj htable).1

/-! ### Contexts -/

/-- The identity and the version of a binding selected during one decision. -/
@[ext] structure ResolvedBindingVersion where
  bindingId : String
  version : ℕ
  bindingId_length : 10 ≤ bindingId.length
  version_pos : 1 ≤ version

instance : DecidableEq ResolvedBindingVersion := fun _ _ =>
  decidable_of_iff _ ResolvedBindingVersion.ext_iff.symm

/-- What a context seals. -/
@[ext] structure ContextContents where
  scopeId : String
  canonicalPath : String
  scopeVersion : ℕ
  bindingVersions : List ResolvedBindingVersion
  matchedGrantIds : List String
  matchedGuardrailIds : List String
  scopeId_length : 8 ≤ scopeId.length
  canonicalPath_length : 1 ≤ canonicalPath.length
  scopeVersion_pos : 1 ≤ scopeVersion
  bindingVersions_ne_nil : bindingVersions ≠ []
  bindingIds_nodup : (bindingVersions.map (·.bindingId)).Nodup

instance : DecidableEq ContextContents := fun _ _ =>
  decidable_of_iff _ ContextContents.ext_iff.symm

namespace ContextContents

theorem ext_fields {c d : ContextContents} (hscope : c.scopeId = d.scopeId)
    (hpath : c.canonicalPath = d.canonicalPath) (hversion : c.scopeVersion = d.scopeVersion)
    (hbindings : c.bindingVersions = d.bindingVersions)
    (hgrants : c.matchedGrantIds = d.matchedGrantIds)
    (hguardrails : c.matchedGuardrailIds = d.matchedGuardrailIds) : c = d := by
  cases c
  cases d
  simp only at hscope hpath hversion hbindings hgrants hguardrails
  subst hscope hpath hversion hbindings hgrants hguardrails
  rfl

/-- The texts a digest is taken of, in their order. -/
def values (c : ContextContents) : List String :=
  [c.scopeId, c.canonicalPath, toString c.scopeVersion]
    ++ c.bindingVersions.map (fun b => b.bindingId ++ ":" ++ toString b.version)
    ++ c.matchedGrantIds.map (fun grantId => "grant:" ++ grantId)
    ++ c.matchedGuardrailIds.map (fun guardrailId => "guardrail:" ++ guardrailId)

/-- The values, joined with the unit separator. -/
def preimage (c : ContextContents) : String := (String.singleton '\x1f').intercalate c.values

theorem values_ne_nil (c : ContextContents) : c.values ≠ [] := by
  simp [values]

end ContextContents

section Sealed

variable (sha256 : String → HexDigest)

/-- The digest of the contents of a context. -/
def digestContext (c : ContextContents) : HexDigest := sha256 c.preimage

/-- A context together with the digest of its contents. -/
structure ResolvedResourceScopeContext extends ContextContents where
  resolutionDigest : HexDigest
  resolutionDigest_eq : resolutionDigest = digestContext sha256 toContextContents

/-- The context of some contents. -/
def ContextContents.context (c : ContextContents) : ResolvedResourceScopeContext sha256 where
  toContextContents := c
  resolutionDigest := digestContext sha256 c
  resolutionDigest_eq := rfl

/-- What is captured of a decision and the binding it selected. -/
def decisionContents (scope : ResourceScope) (authorization : ResourceScopeAuthorizationDecision)
    (governance : ResourceScopeGovernanceDecision) (binding : CloudResourceContainerBinding) :
    ContextContents where
  scopeId := scope.scopeId
  canonicalPath := scope.canonicalPath
  scopeVersion := scope.version
  bindingVersions :=
    [⟨binding.bindingId, binding.version, binding.bindingId_length, binding.version_pos⟩]
  matchedGrantIds := authorization.matchedBindingIds
  matchedGuardrailIds := governance.matchedPolicyTargets
  scopeId_length := scope.scopeId_length
  canonicalPath_length := scope.canonicalPath_length
  scopeVersion_pos := scope.version_pos
  bindingVersions_ne_nil := by simp
  bindingIds_nodup := by simp

/-- What is captured when the checkout binding is selected and nothing else matched. -/
def checkoutContents : ContextContents :=
  decisionContents checkoutScope ⟨true, []⟩ ⟨true, false, []⟩ checkoutBinding

/-- What is captured when a role binding matched as well. -/
def grantedContents : ContextContents :=
  decisionContents checkoutScope ⟨true, ["scopebind_alice"]⟩ ⟨true, false, []⟩ checkoutBinding

/-- Seal a routable decision. -/
def sealContext (scope : ResourceScope) (authorization : ResourceScopeAuthorizationDecision)
    (governance : ResourceScopeGovernanceDecision) (binding : CloudResourceContainerBinding) :
    Except String (ResolvedResourceScopeContext sha256) :=
  if !scope.isCompleteAndActive then
    .error "only an active complete Resource Scope can be sealed"
  else if !authorization.allowed || (!governance.allowed && !governance.approvalRequired) then
    .error "only an allowed or approval-required governance decision can be sealed"
  else if binding.scopeId ≠ scope.scopeId || binding.state ≠ .active then
    .error "only an active binding for the resolved Resource Scope can be sealed"
  else .ok ((decisionContents scope authorization governance binding).context sha256)

variable {sha256}

theorem ResolvedResourceScopeContext.toContextContents_injective
    {c d : ResolvedResourceScopeContext sha256} (h : c.toContextContents = d.toContextContents) :
    c = d := by
  obtain ⟨c, digest, hc⟩ := c
  obtain ⟨d, digest', hd⟩ := d
  simp only at h
  subst h hc hd
  rfl

/-- **The decisions that are sealed**: on an active scope, allowed or awaiting approval, with an
active binding of the scope. -/
theorem sealContext_eq_ok_iff {scope : ResourceScope}
    {authorization : ResourceScopeAuthorizationDecision}
    {governance : ResourceScopeGovernanceDecision} {binding : CloudResourceContainerBinding}
    {context : ResolvedResourceScopeContext sha256} :
    sealContext sha256 scope authorization governance binding = .ok context ↔
      scope.isCompleteAndActive = true ∧ authorization.allowed = true ∧
        (governance.allowed = true ∨ governance.approvalRequired = true) ∧
        binding.scopeId = scope.scopeId ∧ binding.state = .active ∧
        context = (decisionContents scope authorization governance binding).context sha256 := by
  unfold sealContext
  constructor
  · intro h
    split_ifs at h with hscope hdecision hbinding
    cases h
    refine ⟨by simpa using hscope, ?_⟩
    simp only [Bool.or_eq_true, Bool.not_eq_true', Bool.and_eq_true, not_or, not_and,
      Bool.not_eq_false] at hdecision
    refine ⟨hdecision.1, ?_, ?_⟩
    · by_cases hallowed : governance.allowed = true
      · exact Or.inl hallowed
      · exact Or.inr (hdecision.2 (by simpa using hallowed))
    · simpa [and_assoc] using hbinding
  · rintro ⟨hscope, hauth, hgov, hid, hstate, rfl⟩
    rw [if_neg (by simp [hscope]), if_neg (by rcases hgov with h | h <;> simp [hauth, h]),
      if_neg (by simp [hid, hstate])]

/-! ### Freshness -/

/-- Whether the current records differ from a sealed context. -/
def requiresFreshResolution (context : ResolvedResourceScopeContext sha256)
    (scope : Option ResourceScope) (bindings : List CloudResourceContainerBinding) : Bool :=
  match scope with
  | none => true
  | some scope =>
      if !scope.isCompleteAndActive then true
      else if scope.scopeId ≠ context.scopeId || scope.canonicalPath ≠ context.canonicalPath
          || scope.version ≠ context.scopeVersion then true
      else
        let currentVersions : Dict String ℕ := .ofPairs
          ((bindings.filter fun b => b.scopeId = scope.scopeId && b.state = .active).map
            fun b => (b.bindingId, b.version))
        context.bindingVersions.any fun snapshot =>
          currentVersions.get? snapshot.bindingId ≠ some snapshot.version

/-- The version of a binding id among the active bindings of a scope; of several bindings with the
id the last one counts. -/
def currentVersion (bindings : List CloudResourceContainerBinding) (scopeId bindingId : String) :
    Option ℕ :=
  (Dict.ofPairs ((bindings.filter fun b => b.scopeId = scopeId && b.state = .active).map
    fun b => (b.bindingId, b.version))).get? bindingId

/-- **A context is fresh exactly when the scope is the sealed one, still active, and every sealed
binding id has the sealed version among its active bindings.** -/
theorem requiresFreshResolution_eq_false_iff {context : ResolvedResourceScopeContext sha256}
    {scope : Option ResourceScope} {bindings : List CloudResourceContainerBinding} :
    requiresFreshResolution context scope bindings = false ↔
      ∃ s, scope = some s ∧ s.isCompleteAndActive = true ∧ s.scopeId = context.scopeId ∧
        s.canonicalPath = context.canonicalPath ∧ s.version = context.scopeVersion ∧
        ∀ snapshot ∈ context.bindingVersions,
          currentVersion bindings s.scopeId snapshot.bindingId = some snapshot.version := by
  cases scope with
  | none => simp [requiresFreshResolution]
  | some s =>
      simp only [requiresFreshResolution, Option.some.injEq, exists_eq_left']
      cases hactive : s.isCompleteAndActive with
      | false => simp
      | true =>
          -- the three comparisons of the scope decide together
          by_cases hsame : s.scopeId = context.scopeId ∧ s.canonicalPath = context.canonicalPath ∧
              s.version = context.scopeVersion
          · obtain ⟨hid, hpath, hversion⟩ := hsame
            simp [hid, hpath, hversion, currentVersion]
          · rw [if_neg (by simp), if_pos]
            · simp only [true_and, Bool.true_eq_false, false_iff]
              rintro ⟨hid, hpath, hversion, -⟩
              exact hsame ⟨hid, hpath, hversion⟩
            · simp only [Bool.or_eq_true, decide_eq_true_eq]
              tauto

/-- A current version is the version of an active binding of the scope. -/
theorem exists_active_of_currentVersion {bindings : List CloudResourceContainerBinding}
    {scopeId bindingId : String} {version : ℕ}
    (h : currentVersion bindings scopeId bindingId = some version) :
    ∃ b ∈ bindings, b.bindingId = bindingId ∧ b.version = version ∧ b.scopeId = scopeId ∧
      b.state = .active := by
  have hmem := Dict.mem_of_get?_ofPairs h
  simp only [List.mem_map, List.mem_filter, Bool.and_eq_true, decide_eq_true_eq,
    Prod.mk.injEq] at hmem
  obtain ⟨b, ⟨hb, hscope, hstate⟩, hid, hversion⟩ := hmem
  exact ⟨b, hb, hid, hversion, hscope, hstate⟩

/-- The active bindings of a scope under one id agree on a version: it is the current one. -/
theorem currentVersion_eq_some {bindings : List CloudResourceContainerBinding} {scopeId : String}
    {b : CloudResourceContainerBinding} (hb : b ∈ bindings) (hscope : b.scopeId = scopeId)
    (hstate : b.state = .active)
    (hall : ∀ c ∈ bindings, c.bindingId = b.bindingId → c.scopeId = scopeId →
      c.state = .active → c.version = b.version) :
    currentVersion bindings scopeId b.bindingId = some b.version := by
  have hpair : (b.bindingId, b.version) ∈
      (bindings.filter fun b => b.scopeId = scopeId && b.state = .active).map
        fun b => (b.bindingId, b.version) :=
    List.mem_map.2 ⟨b, List.mem_filter.2 ⟨hb, by simp [hscope, hstate]⟩, rfl⟩
  obtain ⟨v, hv⟩ := Dict.exists_get?_ofPairs hpair
  obtain ⟨c, hc, hid, rfl, hcscope, hcstate⟩ := exists_active_of_currentVersion hv
  rw [currentVersion, hv, hall c hc hid hcscope hcstate]

/-- **Every binding of a fresh context is there**: active, of the sealed scope, with the sealed
version. -/
theorem exists_active_of_fresh {context : ResolvedResourceScopeContext sha256}
    {scope : Option ResourceScope} {bindings : List CloudResourceContainerBinding}
    (h : requiresFreshResolution context scope bindings = false) {snapshot : ResolvedBindingVersion}
    (hs : snapshot ∈ context.bindingVersions) :
    ∃ b ∈ bindings, b.bindingId = snapshot.bindingId ∧ b.version = snapshot.version ∧
      b.scopeId = context.scopeId ∧ b.state = .active := by
  obtain ⟨s, -, -, hid, -, -, hversions⟩ := requiresFreshResolution_eq_false_iff.1 h
  have hcurrent := hversions snapshot hs
  rw [hid] at hcurrent
  exact exists_active_of_currentVersion hcurrent

end Sealed

end PlatformOps
