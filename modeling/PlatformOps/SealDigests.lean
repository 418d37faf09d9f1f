/-
**What the seal of a context tells.**

The digest of a context is taken of a text in which its values are joined with the unit separator,
and whose sections are told apart by a prefix only.  A plan, whose digest is taken of canonical
JSON, inherits the digest of its context.  So two contexts with one digest need not be one context:
the text is a sequence of pieces between separators, and a separator inside a value, or a binding
whose identifier starts like a grant, lets the same pieces be read as other values or other
sections.  This is the only way, and it takes such values.

Main definitions:

* `ContextContents.pieces`, `ContextContents.layout` — the pieces of a context, and how they are
  grouped into values and sections;
* `ContextContents.Rereads` — the same pieces, grouped differently;
* `ContextContents.Plain` — no separator in any value, no binding that starts like another section.

Main results:

* `preimage_eq_iff` — **contexts with one text are equal or reread each other**;
* `not_rereads_of_plain` — plain contexts do not;
* `resolutionDigest_tells_iff`, `planDigest_tells_iff` — digests tell contexts, and plans, exactly
  when they do not reread each other.
-/

import PlatformOps.ProvisionPlan
import PlatformOps.Separator

set_option relaxedAutoImplicit false
set_option autoImplicit false

namespace PlatformOps

/-- The text of a binding version. -/
def ResolvedBindingVersion.text (b : ResolvedBindingVersion) : String :=
  b.bindingId ++ ":" ++ toString b.version

/-- The text of a binding version tells it: the version is what follows the last colon. -/
theorem ResolvedBindingVersion.text_injective {b c : ResolvedBindingVersion}
    (h : b.text = c.text) : b = c := by
  -- the text of a number holds no colon
  have hcolon : ∀ n : ℕ, ':' ∉ (toString n).toList := by
    intro n hmem
    have hdigit : (':' : Char).isDigit = true :=
      Nat.isDigit_of_mem_toDigits (by omega) le_rfl (by simpa using hmem)
    exact absurd hdigit (by decide)
  have hlist : b.bindingId.toList ++ ':' :: (toString b.version).toList
      = c.bindingId.toList ++ ':' :: (toString c.version).toList := by
    have htext := congrArg String.toList h
    simpa [ResolvedBindingVersion.text] using htext
  obtain ⟨hid, hversion⟩ :=
    Separator.append_cons_inj_of_free (hcolon b.version) (hcolon c.version) hlist
  cases b
  cases c
  simp only at hid hversion
  cases String.toList_inj.1 hid
  cases toString_nat_inj (String.toList_inj.1 hversion)
  rfl

namespace ContextContents

/-- The pieces of the values of a context, cut at the separator. -/
def pieces (c : ContextContents) : List (List Char) :=
  c.values.flatMap (Separator.pieces '\x1f')

/-- How the pieces are grouped: the separators within each value, and the size of each section. -/
structure Layout where
  separators : List ℕ
  bindings : ℕ
  grants : ℕ
  guardrails : ℕ
  deriving DecidableEq

def layout (c : ContextContents) : Layout where
  separators := c.values.map (Separator.occurrences '\x1f')
  bindings := c.bindingVersions.length
  grants := c.matchedGrantIds.length
  guardrails := c.matchedGuardrailIds.length

/-- Two contexts are made of the same pieces and group them differently. -/
def Rereads (c d : ContextContents) : Prop := c.pieces = d.pieces ∧ c.layout ≠ d.layout

instance (c d : ContextContents) : Decidable (c.Rereads d) :=
  inferInstanceAs (Decidable (_ ∧ _))

/-- Prefixing is injective. -/
theorem prefixed_injective (p : String) : Function.Injective fun s : String => p ++ s := by
  intro s t h
  have hlist := congrArg String.toList h
  simp only [String.toList_append, List.append_cancel_left_eq] at hlist
  exact String.toList_inj.1 hlist

/-- Values and sizes of sections tell a context. -/
theorem eq_of_values {c d : ContextContents} (h : c.values = d.values)
    (hbindings : c.bindingVersions.length = d.bindingVersions.length)
    (hgrants : c.matchedGrantIds.length = d.matchedGrantIds.length) : c = d := by
  obtain ⟨hrest, hguardrails⟩ := List.append_inj h (by simp [hbindings, hgrants])
  obtain ⟨hrest, hgrants'⟩ := List.append_inj hrest (by simp [hbindings])
  obtain ⟨hhead, hbindings'⟩ := List.append_inj hrest rfl
  simp only [List.cons.injEq, and_true] at hhead
  obtain ⟨hscope, hpath, hversion⟩ := hhead
  refine ext_fields hscope hpath (toString_nat_inj hversion) ?_ ?_ ?_
  · exact List.map_injective_iff.2 (fun _ _ => ResolvedBindingVersion.text_injective) hbindings'
  · exact List.map_injective_iff.2 (prefixed_injective "grant:") hgrants'
  · exact List.map_injective_iff.2 (prefixed_injective "guardrail:") hguardrails

/-- **Contexts with one text are equal or reread each other.** -/
theorem preimage_eq_iff {c d : ContextContents} :
    c.preimage = d.preimage ↔ c = d ∨ c.Rereads d := by
  have hpieces : c.preimage = d.preimage ↔ c.pieces = d.pieces :=
    Separator.join_eq_iff_pieces c.values_ne_nil d.values_ne_nil
  constructor
  · intro h
    by_cases hlayout : c.layout = d.layout
    · simp only [layout, Layout.mk.injEq] at hlayout
      obtain ⟨hseparators, hbindings, hgrants, -⟩ := hlayout
      exact Or.inl (eq_of_values (Separator.join_inj hseparators h) hbindings hgrants)
    · exact Or.inr ⟨hpieces.1 h, hlayout⟩
  · rintro (rfl | ⟨h, -⟩)
    · rfl
    · exact hpieces.2 h

/-- A context does not reread itself. -/
theorem not_rereads_self (c : ContextContents) : ¬ c.Rereads c := fun h => h.2 rfl

/-! ### Plain contexts -/

/-- A text starts with another one. -/
def startsWith (p s : String) : Bool := p.toList.isPrefixOf s.toList

theorem startsWith_append (p s : String) : startsWith p (p ++ s) = true := by
  rw [startsWith, List.isPrefixOf_iff_prefix, String.toList_append]
  exact List.prefix_append _ _

/-- No value holds a separator, and no binding identifier starts like a grant or a guardrail. -/
structure Plain (c : ContextContents) : Prop where
  separator_free : ∀ v ∈ c.values, '\x1f' ∉ v.toList
  not_grant : ∀ b ∈ c.bindingVersions, startsWith "grant:" b.bindingId = false
  not_guardrail : ∀ b ∈ c.bindingVersions, startsWith "guardrail:" b.bindingId = false

/-- A binding text starts like its identifier, which is long enough. -/
theorem startsWith_text {p : String} (hp : p.length ≤ 10) (b : ResolvedBindingVersion) :
    startsWith p b.text = startsWith p b.bindingId := by
  rw [Bool.eq_iff_iff, startsWith, startsWith, List.isPrefixOf_iff_prefix,
    List.isPrefixOf_iff_prefix]
  have htext : b.bindingId.toList <+: b.text.toList := by
    rw [ResolvedBindingVersion.text, String.toList_append, String.toList_append, List.append_assoc]
    exact List.prefix_append _ _
  constructor
  · intro h
    refine List.prefix_of_prefix_length_le h htext ?_
    have hid := b.bindingId_length
    simp only [String.length_toList]
    omega
  · intro h
    exact h.trans htext

/-- How many of the values behind the first three start with `p`, section by section. -/
theorem countP_values (c : ContextContents) {p : String} (hp : p.length ≤ 10)
    (hbindings : ∀ b ∈ c.bindingVersions, startsWith p b.bindingId = false) :
    (c.values.drop 3).countP (startsWith p) =
      c.matchedGrantIds.countP (fun g => startsWith p ("grant:" ++ g))
        + c.matchedGuardrailIds.countP (fun g => startsWith p ("guardrail:" ++ g)) := by
  have hnone : (c.bindingVersions.map ResolvedBindingVersion.text).countP (startsWith p) = 0 := by
    rw [List.countP_eq_zero]
    intro t ht
    obtain ⟨b, hb, rfl⟩ := List.mem_map.1 ht
    rw [startsWith_text hp, hbindings b hb]
    decide
  have hvalues : c.values.drop 3 = c.bindingVersions.map ResolvedBindingVersion.text
      ++ c.matchedGrantIds.map (fun g => "grant:" ++ g)
      ++ c.matchedGuardrailIds.map (fun g => "guardrail:" ++ g) := rfl
  rw [hvalues, List.countP_append, List.countP_append, hnone, List.countP_map, List.countP_map]
  simp [Function.comp_def]

theorem Plain.grants_eq {c : ContextContents} (h : c.Plain) :
    (c.values.drop 3).countP (startsWith "grant:") = c.matchedGrantIds.length := by
  have hother : ∀ s, startsWith "grant:" ("guardrail:" ++ s) = false := by
    intro s
    simp [startsWith, List.isPrefixOf]
  rw [countP_values c (by decide) h.not_grant]
  simp [startsWith_append, hother]

theorem Plain.guardrails_eq {c : ContextContents} (h : c.Plain) :
    (c.values.drop 3).countP (startsWith "guardrail:") = c.matchedGuardrailIds.length := by
  have hother : ∀ s, startsWith "guardrail:" ("grant:" ++ s) = false := by
    intro s
    simp [startsWith, List.isPrefixOf]
  rw [countP_values c (by decide) h.not_guardrail]
  simp [startsWith_append, hother]

/-- **Plain contexts do not reread each other.** -/
theorem not_rereads_of_plain {c d : ContextContents} (hc : c.Plain) (hd : d.Plain) :
    ¬ c.Rereads d := by
  intro h
  have hpreimage : c.preimage = d.preimage := preimage_eq_iff.2 (Or.inr h)
  -- without separators inside them, the values are read back from the text
  have hvalues : c.values = d.values :=
    Separator.join_inj_of_free c.values_ne_nil d.values_ne_nil hc.separator_free hd.separator_free
      hpreimage
  -- and the sizes of the sections from the prefixes
  have hgrants : c.matchedGrantIds.length = d.matchedGrantIds.length := by
    rw [← hc.grants_eq, ← hd.grants_eq, hvalues]
  have hguardrails : c.matchedGuardrailIds.length = d.matchedGuardrailIds.length := by
    rw [← hc.guardrails_eq, ← hd.guardrails_eq, hvalues]
  have hbindings : c.bindingVersions.length = d.bindingVersions.length := by
    have hlength := congrArg List.length hvalues
    simp only [values, List.length_append, List.length_map, List.length_cons, List.length_nil]
      at hlength
    omega
  obtain rfl := eq_of_values hvalues hbindings hgrants
  exact not_rereads_self c h

end ContextContents

/-! ### Digests -/

section Digests

variable {sha256 : String → HexDigest}

/-- Contexts have one digest exactly when they are equal or reread each other. -/
theorem resolutionDigest_eq_iff {c d : ResolvedResourceScopeContext sha256}
    (hinj : Set.InjOn sha256 {c.preimage, d.preimage}) :
    c.resolutionDigest = d.resolutionDigest ↔
      c = d ∨ c.toContextContents.Rereads d.toContextContents := by
  rw [c.resolutionDigest_eq, d.resolutionDigest_eq]
  constructor
  · intro h
    have hpreimage : c.preimage = d.preimage := hinj (by simp) (by simp) h
    rcases ContextContents.preimage_eq_iff.1 hpreimage with hcontents | hrereads
    · exact Or.inl (ResolvedResourceScopeContext.toContextContents_injective hcontents)
    · exact Or.inr hrereads
  · rintro (rfl | h)
    · rfl
    · rw [digestContext, digestContext, ContextContents.preimage_eq_iff.2 (Or.inr h)]

/-- The six sealed fields of two contexts are equal. -/
def SameFields (c d : ContextContents) : Prop :=
  c.scopeId = d.scopeId ∧ c.canonicalPath = d.canonicalPath ∧ c.scopeVersion = d.scopeVersion ∧
    c.bindingVersions = d.bindingVersions ∧ c.matchedGrantIds = d.matchedGrantIds ∧
    c.matchedGuardrailIds = d.matchedGuardrailIds

theorem sameFields_iff {c d : ContextContents} : SameFields c d ↔ c = d := by
  constructor
  · rintro ⟨hscope, hpath, hversion, hbindings, hgrants, hguardrails⟩
    exact ContextContents.ext_fields hscope hpath hversion hbindings hgrants hguardrails
  · rintro rfl
    exact ⟨rfl, rfl, rfl, rfl, rfl, rfl⟩

/-- **The digest tells two contexts exactly when they do not reread each other.** -/
theorem resolutionDigest_tells_iff {c d : ResolvedResourceScopeContext sha256}
    (hinj : Set.InjOn sha256 {c.preimage, d.preimage}) :
    (c.resolutionDigest = d.resolutionDigest ↔ SameFields c.toContextContents d.toContextContents) ↔
      ¬ c.toContextContents.Rereads d.toContextContents := by
  rw [resolutionDigest_eq_iff hinj, sameFields_iff]
  have hsame : c = d ↔ c.toContextContents = d.toContextContents :=
    ⟨fun h => h ▸ rfl, ResolvedResourceScopeContext.toContextContents_injective⟩
  rw [← hsame]
  constructor
  · intro h hrereads
    obtain rfl := h.1 (Or.inr hrereads)
    exact ContextContents.not_rereads_self _ hrereads
  · intro h
    exact ⟨fun heq => heq.resolve_right h, Or.inl⟩

/-- **The digest tells two plans exactly when they do not differ in contexts that reread each other
alone.** -/
theorem planDigest_tells_iff {p q : SealedProvisionPlan sha256}
    (hinj : Set.InjOn sha256 (planTexts p.toProvisionPlan ∪ planTexts q.toProvisionPlan)) :
    (p.planDigest = q.planDigest ↔
        p.context = q.context ∧ p.policy = q.policy ∧ p.inputs.SameMap q.inputs) ↔
      ¬ (p.context.toContextContents.Rereads q.context.toContextContents ∧ p.policy = q.policy ∧
        p.inputs.SameMap q.inputs) := by
  have hcontexts : Set.InjOn sha256 {p.context.preimage, q.context.preimage} := by
    refine hinj.mono ?_
    rintro t (rfl | rfl)
    · exact Or.inl (by simp [planTexts])
    · exact Or.inr (by simp [planTexts])
  rw [planDigest_eq_iff hinj, resolutionDigest_eq_iff hcontexts]
  constructor
  · rintro h ⟨hrereads, hrest⟩
    have hcontext := (h.1 ⟨Or.inr hrereads, hrest⟩).1
    rw [hcontext] at hrereads
    exact ContextContents.not_rereads_self _ hrereads
  · intro h
    constructor
    · rintro ⟨hcontext | hrereads, hrest⟩
      · exact ⟨hcontext, hrest⟩
      · exact absurd ⟨hrereads, hrest⟩ h
    · rintro ⟨hcontext, hrest⟩
      exact ⟨Or.inl hcontext, hrest⟩

end Digests

/-! ### What the seals tell -/

/-- **Seals tell contexts and plans exactly when these do not reread each other.** -/
theorem seals_tell_iff_not_rereads (sha256 : String → HexDigest)
    (c d : ResolvedResourceScopeContext sha256) (p q : SealedProvisionPlan sha256)
    (hcontexts : Set.InjOn sha256 {c.preimage, d.preimage})
    (hplans : Set.InjOn sha256 (planTexts p.toProvisionPlan ∪ planTexts q.toProvisionPlan)) :
    ((c.resolutionDigest = d.resolutionDigest ↔
        SameFields c.toContextContents d.toContextContents) ↔
      ¬ c.toContextContents.Rereads d.toContextContents) ∧
    ((p.planDigest = q.planDigest ↔
        p.context = q.context ∧ p.policy = q.policy ∧ p.inputs.SameMap q.inputs) ↔
      ¬ (p.context.toContextContents.Rereads q.context.toContextContents ∧
        p.policy = q.policy ∧ p.inputs.SameMap q.inputs)) :=
  ⟨resolutionDigest_tells_iff hcontexts, planDigest_tells_iff hplans⟩

theorem checkout_seals_tell :
    ((checkoutContents.context planHash).resolutionDigest
        = (grantedContents.context planHash).resolutionDigest ↔
      SameFields checkoutContents grantedContents) ∧
    ((checkoutPlan "checkout.example.com").planDigest
        = (checkoutPlan "checkout.example.org").planDigest ↔
      (checkoutPlan "checkout.example.com").context = (checkoutPlan "checkout.example.org").context ∧
        (checkoutPlan "checkout.example.com").policy = (checkoutPlan "checkout.example.org").policy ∧
        (checkoutPlan "checkout.example.com").inputs.SameMap
          (checkoutPlan "checkout.example.org").inputs) := by
  have hcontexts : Set.InjOn planHash {checkoutContents.preimage, grantedContents.preimage} := by
    refine planHash_injOn.mono ?_
    rintro t (rfl | rfl) <;> simp [planTable]
  have hplans : Set.InjOn planHash (planTexts (checkoutPlan "checkout.example.com").toProvisionPlan ∪
      planTexts (checkoutPlan "checkout.example.org").toProvisionPlan) :=
    IsCheckoutPlan.injOn ⟨rfl, rfl, Or.inl rfl⟩ ⟨rfl, rfl, Or.inr rfl⟩
  obtain ⟨hcontext, hplan⟩ := seals_tell_iff_not_rereads planHash (checkoutContents.context planHash)
    (grantedContents.context planHash) (checkoutPlan "checkout.example.com")
    (checkoutPlan "checkout.example.org") hcontexts hplans
  refine ⟨hcontext.2 (by decide +kernel), hplan.2 ?_⟩
  rintro ⟨hrereads, -⟩
  exact ContextContents.not_rereads_self _ hrereads

/-- A context with a second binding whose identifier starts like a grant. -/
def twoBindings : ContextContents :=
  { checkoutContents with
    bindingVersions :=
      [⟨"binding_checkout_prod", 1, checkoutBinding.bindingId_length, Nat.one_pos⟩,
        ⟨"grant:abcd", 1, by decide, Nat.one_pos⟩]
    bindingVersions_ne_nil := by simp
    bindingIds_nodup := by decide }

/-- A context with one binding and a grant that reads the same. -/
def bindingAndGrant : ContextContents :=
  { checkoutContents with matchedGrantIds := ["abcd:1"] }

/-- The digest function on the text of these two contexts. -/
def rereadHash : String → HexDigest :=
  hashTable [(twoBindings.preimage,
    .ofNat 0xd0b981a3cda8d6281fde668399a365052f0f882d2275cf88a1f4cab359ae1431)]

/-- Two valid contexts with different bindings and grants have one digest, although the digest
function is injective on their texts. -/
theorem binding_reread_as_grant :
    Set.InjOn rereadHash {twoBindings.preimage, bindingAndGrant.preimage} ∧
      (twoBindings.context rereadHash).resolutionDigest
        = (bindingAndGrant.context rereadHash).resolutionDigest ∧
      ¬ SameFields twoBindings bindingAndGrant := by
  have hpreimage : twoBindings.preimage = bindingAndGrant.preimage := by decide
  refine ⟨?_, congrArg rereadHash hpreimage, ?_⟩
  · rw [← hpreimage, Set.pair_eq_singleton]
    exact Set.injOn_singleton _ _
  · rintro ⟨-, -, -, hbindings, -⟩
    exact absurd hbindings (by decide)

end PlatformOps
