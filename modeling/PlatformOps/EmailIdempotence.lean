/-
**Canonicalizing an address again.**

The structure of an address is checked as it was submitted, and then its domain is encoded.  The
encoding takes the labels of a domain that is not ASCII one by one: nameprep maps and normalizes a
label, and a label that has become ASCII is taken as it is.  Nobody looks at the structure again.  A
character that nameprep turns into an `@`, a blank or a dot is therefore found only when the
canonical address is canonicalized again.

What nameprep makes of a label, and how punycode writes down where its characters were, is the
business of the Unicode tables; everything is proved for any of them.

Main definitions:

* `Stringprep`, `Stringprep.toAscii`, `Stringprep.codec` — the codec, label by label;
* `CanonicalAgain` — a canonical address has the structure of one, and is its own canonical form;
* `StaysWhole`, `DomainStays` — the encoded labels of a domain bring in no structure.

Main results:

* `canonicalizeEmail_eq_ok_iff` — the accepted addresses, and their parts;
* `canonicalAgain_iff` — what a second canonicalization needs of the domain;
* `canonical_again_iff` — **an address is canonical once it was canonicalized exactly if its encoded
  labels bring in no structure**.
-/

import PlatformOps.EmailAddress
import PlatformOps.Separator

set_option relaxedAutoImplicit false
set_option autoImplicit false

namespace PlatformOps

/-! ### Lists related place by place -/

section Forall₂

universe u v

variable {α : Type u} {β : Type v} {R : α → β → Prop} {l : List α} {m : List β}

theorem exists_of_forall₂_right (h : List.Forall₂ R l m) {b : β} (hb : b ∈ m) :
    ∃ a ∈ l, R a b := by
  induction h with
  | nil => cases hb
  | cons hab _ ih =>
      rcases List.mem_cons.1 hb with rfl | hb
      · exact ⟨_, List.mem_cons_self .., hab⟩
      · obtain ⟨a, ha, hrel⟩ := ih hb
        exact ⟨a, List.mem_cons_of_mem _ ha, hrel⟩

theorem exists_of_forall₂_left (h : List.Forall₂ R l m) {a : α} (ha : a ∈ l) :
    ∃ b ∈ m, R a b :=
  exists_of_forall₂_right h.flip ha

end Forall₂

/-! ### The codec -/

/-- `ord(char) < 128`. -/
def isAsciiChar (c : Char) : Bool := c.toNat < 128

/-- The dots between the labels of a domain: the full stop, the ideographic one, and their
fullwidth and halfwidth forms. -/
def isLabelDot (c : Char) : Bool :=
  c = '.' || c.toNat = 0x3002 || c.toNat = 0xFF0E || c.toNat = 0xFF61

/-- A lower letter or a digit. -/
def isDeltaChar (c : Char) : Bool :=
  (97 ≤ c.toNat && c.toNat ≤ 122) || (48 ≤ c.toNat && c.toNat ≤ 57)

theorem isAsciiChar_of_isDeltaChar {c : Char} (h : isDeltaChar c = true) :
    isAsciiChar c = true := by
  simp only [isDeltaChar, isAsciiChar, Bool.or_eq_true, Bool.and_eq_true, decide_eq_true_eq] at h ⊢
  omega

/-- What the codec takes from Unicode: nameprep, which refuses some labels, and the deltas that
punycode writes in letters and digits. -/
structure Stringprep where
  nameprep : List Char → Option (List Char)
  deltas : List Char → List Char
  deltas_alphanum : ∀ label, ∀ c ∈ deltas label, isDeltaChar c = true

namespace Stringprep

variable (prep : Stringprep)

/-- `label.encode("punycode")`: the ASCII characters, and where the others were. -/
def punycode (label : List Char) : List Char :=
  let base := label.filter isAsciiChar
  if base = [] then prep.deltas label else base ++ '-' :: prep.deltas label

/-- A label that is ASCII, if it fits. -/
def sizedLabel (label : List Char) : Option (List Char) :=
  if 0 < label.length ∧ label.length < 64 then some label else none

/-- What a label in ASCII begins with that stands for another one. -/
def acePrefix : List Char := ['x', 'n', '-', '-']

/-- `ToASCII`. -/
def toAscii (label : List Char) : Option (List Char) :=
  if label.all isAsciiChar then sizedLabel label
  else
    match prep.nameprep label with
    | none => none
    | some prepared =>
        if prepared.all isAsciiChar then sizedLabel prepared
        else if (prepared.take 4).map Char.toLower = acePrefix then none
        else
          let encoded := acePrefix ++ prep.punycode prepared
          if encoded.length < 64 then some encoded else none

/-- The labels, one by one. -/
def toAsciiLabels : List (List Char) → Option (List (List Char))
  | [] => some []
  | label :: labels =>
      match prep.toAscii label, toAsciiLabels labels with
      | some encoded, some rest => some (encoded :: rest)
      | _, _ => none

/-- A domain that is not ASCII: a dot at its end stays. -/
def encodeDomain (domain : String) : Option String :=
  let labels := domain.toList.splitOnP isLabelDot
  let (labels, trailingDot) :=
    if labels.getLast? = some [] then (labels.dropLast, ['.']) else (labels, [])
  (prep.toAsciiLabels labels).map fun encoded =>
    String.ofList (['.'].intercalate encoded ++ trailingDot)

variable {prep}

theorem sizedLabel_eq_some {label encoded : List Char} (h : sizedLabel label = some encoded) :
    encoded = label ∧ 0 < label.length ∧ label.length < 64 := by
  unfold sizedLabel at h
  split at h
  · rename_i hsize
    exact ⟨(Option.some.inj h).symm, hsize⟩
  · cases h

theorem punycode_ascii (label : List Char) : (prep.punycode label).all isAsciiChar = true := by
  have hdeltas : (prep.deltas label).all isAsciiChar = true :=
    List.all_eq_true.2 fun c hc => isAsciiChar_of_isDeltaChar (prep.deltas_alphanum label c hc)
  have hbase : (label.filter isAsciiChar).all isAsciiChar = true :=
    List.all_eq_true.2 fun c hc => (List.mem_filter.1 hc).2
  have hhyphen : isAsciiChar '-' = true := by decide
  simp only [punycode]
  split
  · exact hdeltas
  · rw [List.all_append, List.all_cons, hbase, hhyphen, hdeltas]
    rfl

/-- An encoded label fits, and is ASCII. -/
theorem toAscii_spec {label encoded : List Char} (h : prep.toAscii label = some encoded) :
    encoded.length < 64 ∧ encoded.all isAsciiChar = true := by
  unfold toAscii at h
  split at h
  · rename_i hascii
    obtain ⟨rfl, -, hfits⟩ := sizedLabel_eq_some h
    exact ⟨hfits, hascii⟩
  · split at h
    · cases h
    · rename_i prepared hprepared
      split at h
      · rename_i hascii
        obtain ⟨rfl, -, hfits⟩ := sizedLabel_eq_some h
        exact ⟨hfits, hascii⟩
      · split at h
        · cases h
        · dsimp only at h
          split at h
          · rename_i hfits
            have hprefix : acePrefix.all isAsciiChar = true := by decide
            cases h
            refine ⟨hfits, ?_⟩
            rw [List.all_append, hprefix, punycode_ascii]
            rfl
          · cases h

/-- A label that was ASCII is encoded as it is. -/
theorem toAscii_of_ascii {label encoded : List Char} (hascii : label.all isAsciiChar = true)
    (h : prep.toAscii label = some encoded) : encoded = label ∧ label ≠ [] := by
  rw [toAscii, if_pos hascii] at h
  obtain ⟨hsame, hpos, -⟩ := sizedLabel_eq_some h
  exact ⟨hsame, List.ne_nil_of_length_pos hpos⟩

/-- The encoded labels are those of the labels, one each. -/
theorem toAsciiLabels_spec {labels encoded : List (List Char)}
    (h : prep.toAsciiLabels labels = some encoded) :
    List.Forall₂ (fun label e => prep.toAscii label = some e) labels encoded := by
  induction labels generalizing encoded with
  | nil =>
      cases h
      exact .nil
  | cons label labels ih =>
      unfold toAsciiLabels at h
      split at h
      · rename_i e rest he hrest
        cases h
        exact .cons he (ih hrest)
      · cases h

/-- An encoded domain is its encoded labels, with a dot between two of them and perhaps one at the
end. -/
theorem encodeDomain_spec {domain encoded : String} (h : prep.encodeDomain domain = some encoded) :
    ∃ labels es trailingDot,
      List.Forall₂ (fun label e => prep.toAscii label = some e) labels es ∧
      encoded.toList = ['.'].intercalate es ++ trailingDot ∧
      (labels = domain.toList.splitOnP isLabelDot ∧ trailingDot = [] ∨ trailingDot = ['.']) := by
  unfold encodeDomain at h
  dsimp only at h
  split at h
  · obtain ⟨es, hes, rfl⟩ := Option.map_eq_some_iff.1 h
    exact ⟨_, es, _, toAsciiLabels_spec hes, by simp, Or.inr rfl⟩
  · obtain ⟨es, hes, rfl⟩ := Option.map_eq_some_iff.1 h
    exact ⟨_, es, _, toAsciiLabels_spec hes, by simp, Or.inl ⟨rfl, rfl⟩⟩

theorem encodeDomain_ascii {domain encoded : String} (h : prep.encodeDomain domain = some encoded) :
    isAscii encoded = true := by
  obtain ⟨labels, es, trailingDot, hlabels, hencoded, htrailing⟩ := encodeDomain_spec h
  have hdot : isAsciiChar '.' = true := by decide
  show encoded.toList.all isAsciiChar = true
  rw [hencoded, List.all_append, Bool.and_eq_true]
  constructor
  · refine List.all_eq_true.2 fun c hc => ?_
    rcases Separator.mem_of_mem_intercalate hc with rfl | ⟨e, he, hmem⟩
    · exact hdot
    · obtain ⟨label, -, hascii⟩ := exists_of_forall₂_right hlabels he
      exact List.all_eq_true.1 (toAscii_spec hascii).2 c hmem
  · rcases htrailing with ⟨-, rfl⟩ | rfl
    · rfl
    · rw [List.all_cons, hdot]
      rfl

variable (prep) in
/-- The codec. -/
def codec : IdnaCodec where
  encodeOther := prep.encodeDomain
  ascii _ _ h := encodeDomain_ascii h

end Stringprep

/-! ### Once and again -/

variable {codec : IdnaCodec}

/-- The text between two parts of which the first has no `@`. -/
theorem splitAtSign_append {localPart domain : String} (h : '@' ∉ localPart.toList) :
    splitAtSign (localPart ++ "@" ++ domain) = (localPart, domain) := by
  have hchars : (localPart ++ "@" ++ domain).toList =
      localPart.toList ++ '@' :: domain.toList := by
    simp
  have hall : ∀ c ∈ localPart.toList, decide (c ≠ '@') = true := by
    intro c hc
    refine decide_eq_true ?_
    rintro rfl
    exact h hc
  rw [splitAtSign, hchars, List.takeWhile_append_of_pos hall, List.dropWhile_append_of_pos hall]
  simp

/-- The parts of a text with one `@` have none. -/
theorem splitAtSign_free {text : String} (h : text.toList.count '@' = 1) :
    '@' ∉ (splitAtSign text).1.toList ∧ '@' ∉ (splitAtSign text).2.toList ∧
      text = (splitAtSign text).1 ++ "@" ++ (splitAtSign text).2 := by
  have hmem : '@' ∈ text.toList := List.count_pos_iff.1 (by omega)
  obtain ⟨front, back, hchars, hfront⟩ := List.eq_append_cons_of_mem hmem
  have hsplit : splitAtSign text = (String.ofList front, String.ofList back) := by
    have htext : text = String.ofList front ++ "@" ++ String.ofList back := by
      rw [← String.toList_inj, hchars]
      simp
    rw [htext]
    exact splitAtSign_append (by simpa using hfront)
  have hback : '@' ∉ back := by
    rw [hchars, List.count_append, List.count_cons_self, List.count_eq_zero.2 hfront] at h
    exact List.count_eq_zero.1 (by omega)
  rw [hsplit]
  refine ⟨by simpa using hfront, by simpa using hback, ?_⟩
  rw [← String.toList_inj, hchars]
  simp

/-- **The accepted addresses, and their parts.** -/
theorem canonicalizeEmail_eq_ok_iff {value localPart domain : String} :
    canonicalizeEmail codec value = .ok (localPart, domain) ↔
      (strip value).toList.count '@' = 1 ∧ hasSpace (strip value) = false ∧
        (splitAtSign (strip value)).1 = localPart ∧ localPart ≠ "" ∧
        (splitAtSign (strip value)).2 ≠ "" ∧
        ∃ encoded, codec.encode (splitAtSign (strip value)).2 = some encoded ∧
          asciiLower encoded = domain ∧ domain ≠ "" ∧ domain.toList.head? ≠ some '.' ∧
          domain.toList.getLast? ≠ some '.' := by
  unfold canonicalizeEmail
  dsimp only
  by_cases hcount : (strip value).toList.count '@' = 1
  · rw [if_neg (not_not.2 hcount)]
    by_cases hparts : (splitAtSign (strip value)).1 = "" ∨ (splitAtSign (strip value)).2 = "" ∨
        hasSpace (strip value) = true
    · rw [if_pos hparts]
      constructor
      · intro h
        cases h
      · rintro ⟨-, hspace, hlocal, hlocal', hdomain, -⟩
        rcases hparts with hempty | hempty | htrue
        · exact absurd (hlocal ▸ hempty) hlocal'
        · exact absurd hempty hdomain
        · rw [hspace] at htrue
          cases htrue
    · rw [if_neg hparts]
      push Not at hparts
      obtain ⟨hlocal, hdomain, hspace⟩ := hparts
      cases hencoded : codec.encode (splitAtSign (strip value)).2 with
      | none => simp
      | some encoded =>
          dsimp only
          by_cases hbad : asciiLower encoded = "" ∨
              (asciiLower encoded).toList.head? = some '.' ∨
              (asciiLower encoded).toList.getLast? = some '.'
          · rw [if_pos hbad]
            constructor
            · intro h
              cases h
            · rintro ⟨-, -, -, -, -, encoded', hsame, hlower, hempty, hhead, hlast⟩
              rw [Option.some.inj hsame, hlower] at hbad
              rcases hbad with h | h | h
              · exact absurd h hempty
              · exact absurd h hhead
              · exact absurd h hlast
          · rw [if_neg hbad]
            push Not at hbad
            obtain ⟨hempty, hhead, hlast⟩ := hbad
            constructor
            · intro h
              obtain ⟨hfst, hsnd⟩ := Prod.mk.inj (Except.ok.inj h)
              exact ⟨hcount, by simpa using hspace, hfst, hfst ▸ hlocal, hdomain, encoded, rfl, hsnd,
                hsnd ▸ hempty, hsnd ▸ hhead, hsnd ▸ hlast⟩
            · rintro ⟨-, -, hfst, -, -, encoded', hsame, hlower, -⟩
              rw [Option.some.inj hsame, hfst, hlower]
  · rw [if_pos hcount]
    constructor
    · intro h
      cases h
    · rintro ⟨h, -⟩
      exact absurd h hcount

variable (codec) in
/-- The canonical address is accepted again with the same parts, has exactly one `@` and no
whitespace, and its domain is ASCII and lowered. -/
def CanonicalAgain (localPart domain : String) : Prop :=
  canonicalizeEmail codec (localPart ++ "@" ++ domain) = .ok (localPart, domain) ∧
    (localPart ++ "@" ++ domain).toList.count '@' = 1 ∧
    hasSpace (localPart ++ "@" ++ domain) = false ∧
    isAscii domain = true ∧ asciiLower domain = domain

/-- **What a second canonicalization needs**: the canonical domain has no `@` and no whitespace, and
its labels fit. -/
theorem canonicalAgain_iff {value localPart domain : String}
    (h : canonicalizeEmail codec value = .ok (localPart, domain)) :
    CanonicalAgain codec localPart domain ↔
      '@' ∉ domain.toList ∧ hasSpace domain = false ∧ labelsFit domain = true := by
  obtain ⟨hcount, hspace, hfst, hlocal, -, encoded, -, -, hempty, hhead, hlast⟩ :=
    canonicalizeEmail_eq_ok_iff.1 h
  obtain ⟨hascii, hlower⟩ := canonicalizeEmail_domain h
  obtain ⟨hlocalAt, -, htext⟩ := splitAtSign_free hcount
  rw [hfst] at hlocalAt htext
  have hlocalSpace : hasSpace localPart = false := by
    have hspace' := hspace
    rw [htext] at hspace'
    simp only [hasSpace, String.toList_append, List.any_append, Bool.or_eq_false_iff] at hspace' ⊢
    exact hspace'.1.1
  have hcountAgain : (localPart ++ "@" ++ domain).toList.count '@' =
      1 + domain.toList.count '@' := by
    simp [List.count_eq_zero.2 hlocalAt, Nat.add_comm]
  have hspaceAgain : hasSpace (localPart ++ "@" ++ domain) = hasSpace domain := by
    have hat : isSpace '@' = false := by decide
    unfold hasSpace at hlocalSpace ⊢
    simp [hlocalSpace, hat]
  have hencode : codec.encode domain = if labelsFit domain then some domain else none := by
    rw [IdnaCodec.encode, if_pos hascii]
  unfold CanonicalAgain
  rw [hcountAgain, hspaceAgain]
  constructor
  · rintro ⟨hagain, hone, hnoSpace, -⟩
    refine ⟨List.count_eq_zero.1 (by omega), hnoSpace, ?_⟩
    obtain ⟨-, -, -, -, -, encoded', hencoded', -⟩ := canonicalizeEmail_eq_ok_iff.1 hagain
    rw [strip_of_not_hasSpace (hspaceAgain.trans hnoSpace), splitAtSign_append hlocalAt,
      hencode] at hencoded'
    by_contra hfit
    rw [if_neg hfit] at hencoded'
    cases hencoded'
  · rintro ⟨hat, hnoSpace, hfit⟩
    have hstrip := strip_of_not_hasSpace (hspaceAgain.trans hnoSpace)
    refine ⟨canonicalizeEmail_eq_ok_iff.2 ?_, by rw [List.count_eq_zero.2 hat], hnoSpace, hascii,
      hlower⟩
    rw [hstrip, splitAtSign_append hlocalAt, hcountAgain, hspaceAgain, hencode, if_pos hfit]
    exact ⟨by rw [List.count_eq_zero.2 hat], hnoSpace, rfl, hlocal, hempty, domain, rfl, hlower,
      hempty, hhead, hlast⟩

/-! ### What the labels bring in -/

/-- A piece of a text is a part of it, without the separators. -/
theorem mem_of_mem_splitOnP {p : Char → Bool} {chars piece : List Char}
    (hpiece : piece ∈ chars.splitOnP p) {c : Char} (hc : c ∈ piece) : c ∈ chars ∧ p c = false := by
  induction chars generalizing piece with
  | nil =>
      rw [List.splitOnP_nil, List.mem_singleton] at hpiece
      rw [hpiece] at hc
      cases hc
  | cons x chars ih =>
      rw [List.splitOnP_cons_eq_if_modifyHead] at hpiece
      by_cases hx : p x = true
      · rw [if_pos hx] at hpiece
        rcases List.mem_cons.1 hpiece with rfl | hpiece
        · cases hc
        · exact ⟨List.mem_cons_of_mem x (ih hpiece hc).1, (ih hpiece hc).2⟩
      · rw [if_neg hx] at hpiece
        cases hsplit : chars.splitOnP p with
        | nil => exact absurd hsplit (List.splitOnP_ne_nil p chars)
        | cons first rest =>
            rw [hsplit] at hpiece ih
            rcases List.mem_cons.1 hpiece with rfl | hpiece
            · rcases List.mem_cons.1 hc with rfl | hc
              · exact ⟨List.mem_cons_self .., by simpa using hx⟩
              · have hin := ih (List.mem_cons_self ..) hc
                exact ⟨List.mem_cons_of_mem x hin.1, hin.2⟩
            · have hin := ih (List.mem_cons_of_mem first hpiece) hc
              exact ⟨List.mem_cons_of_mem x hin.1, hin.2⟩

theorem length_le_of_mem_splitOn {c : Char} {chars piece : List Char}
    (h : piece ∈ chars.splitOn c) : piece.length ≤ chars.length := by
  have hsum := length_flatten_splitOnP (· == c) chars
  have hone := List.length_pos_iff.2 (List.splitOnP_ne_nil (· == c) chars)
  have hpiece : piece.length ≤ (chars.splitOnP (· == c)).flatten.length :=
    (List.sublist_flatten_of_mem h).length_le
  omega

/-- An encoded label brings in no structure: no `@`, no whitespace, and no dots with nothing before,
between or after them. -/
def StaysWhole (encoded : List Char) : Prop :=
  '@' ∉ encoded ∧ (∀ c ∈ encoded, isSpace c = false) ∧ [] ∉ encoded.splitOn '.'

instance (encoded : List Char) : Decidable (StaysWhole encoded) :=
  inferInstanceAs (Decidable (_ ∧ _ ∧ _))

/-- The labels of a domain that are not ASCII bring in no structure once they are encoded. -/
def DomainStays (prep : Stringprep) (domain : String) : Prop :=
  ∀ label ∈ domain.toList.splitOnP isLabelDot, label.all isAsciiChar = false →
    ∀ encoded ∈ prep.toAscii label, StaysWhole encoded

theorem toLower_eq_dot_iff (c : Char) : c.toLower = '.' ↔ c = '.' := by
  constructor
  · intro h
    have hnat := congrArg Char.toNat h
    have hdot : '.'.toNat = 46 := by decide
    rw [toNat_toLower, hdot] at hnat
    apply Char.toNat_inj.1
    rw [hdot]
    split at hnat <;> omega
  · rintro rfl
    decide

/-- Lowering keeps the size of the labels. -/
theorem labelsFit_asciiLower (domain : String) :
    labelsFit (asciiLower domain) = labelsFit domain := by
  have hlabels : domainLabels (asciiLower domain) =
      (domainLabels domain).map (List.map Char.toLower) := by
    rw [domainLabels, asciiLower, String.toList_ofList]
    exact Separator.splitOn_map toLower_eq_dot_iff domain.toList
  unfold labelsFit
  rw [hlabels, ← List.map_dropLast, List.all_map, List.all_map]
  congr 2
  · funext label
    simp
  · funext label
    simp

theorem hasSpace_asciiLower (text : String) : hasSpace (asciiLower text) = hasSpace text := by
  have hcomp : isSpace ∘ Char.toLower = isSpace := funext isSpace_toLower
  rw [hasSpace, asciiLower, String.toList_ofList, List.any_map, hcomp, hasSpace]

theorem at_mem_asciiLower_iff (text : String) :
    '@' ∈ (asciiLower text).toList ↔ '@' ∈ text.toList := by
  rw [asciiLower, String.toList_ofList, List.mem_map]
  constructor
  · rintro ⟨c, hc, hlower⟩
    exact toLower_eq_at hlower ▸ hc
  · intro h
    exact ⟨'@', h, by decide⟩

/-- The labels of some encoded ones fit when none of these brings in an empty one. -/
theorem labelsFit_intercalate {es : List (List Char)} (hes : es ≠ [])
    (hlength : ∀ e ∈ es, e.length < 64) (hne : ['.'].intercalate es ≠ [])
    (hlast : (['.'].intercalate es).getLast? ≠ some '.') :
    labelsFit (String.ofList (['.'].intercalate es)) = true ↔ ∀ e ∈ es, [] ∉ e.splitOn '.' := by
  have hlabels : domainLabels (String.ofList (['.'].intercalate es)) =
      es.flatMap (List.splitOn '.') := by
    rw [domainLabels, String.toList_ofList]
    exact Separator.splitOn_intercalate_eq_flatMap '.' hes
  have hend := Separator.getLast?_splitOn_ne_nil hne hlast
  rw [Separator.splitOn_intercalate_eq_flatMap '.' hes] at hend
  have hfits : ∀ label ∈ es.flatMap (List.splitOn '.'), label.length < 64 := by
    intro label hlabel
    obtain ⟨e, he, hpiece⟩ := List.mem_flatMap.1 hlabel
    exact lt_of_le_of_lt (length_le_of_mem_splitOn hpiece) (hlength e he)
  have hempty : (∀ label ∈ (es.flatMap (List.splitOn '.')).dropLast, label ≠ []) ↔
      [] ∉ es.flatMap (List.splitOn '.') := by
    constructor
    · intro h hnil
      rcases List.eq_nil_or_concat (es.flatMap (List.splitOn '.')) with hnone | ⟨front, last, hcat⟩
      · rw [hnone] at hnil
        cases hnil
      · rw [hcat, List.concat_eq_append] at h hnil hend
        rcases List.mem_append.1 hnil with hnil | hnil
        · exact h [] (by simpa using hnil) rfl
        · rw [List.mem_singleton.1 hnil] at hend
          simp at hend
    · rintro h label hlabel rfl
      exact h (List.dropLast_subset _ hlabel)
  rw [labelsFit, hlabels, Bool.and_eq_true, List.all_eq_true, List.all_eq_true]
  simp only [decide_eq_true_eq, Bool.not_eq_true', List.isEmpty_eq_false_iff]
  rw [hempty]
  constructor
  · rintro ⟨-, h⟩ e he hnil
    exact h (List.mem_flatMap.2 ⟨e, he, hnil⟩)
  · intro h
    refine ⟨hfits, fun hnil => ?_⟩
    obtain ⟨e, he, hpiece⟩ := List.mem_flatMap.1 hnil
    exact h e he hpiece

/-- A join of encoded labels has the structure of a domain when each of them stays whole. -/
theorem intercalate_stays_iff {es : List (List Char)} (hes : es ≠ [])
    (hlength : ∀ e ∈ es, e.length < 64) (hne : ['.'].intercalate es ≠ [])
    (hlast : (['.'].intercalate es).getLast? ≠ some '.') :
    ('@' ∉ ['.'].intercalate es ∧ hasSpace (String.ofList (['.'].intercalate es)) = false ∧
        labelsFit (String.ofList (['.'].intercalate es)) = true) ↔ ∀ e ∈ es, StaysWhole e := by
  rw [labelsFit_intercalate hes hlength hne hlast]
  have hspace : hasSpace (String.ofList (['.'].intercalate es)) = false ↔
      ∀ e ∈ es, ∀ c ∈ e, isSpace c = false := by
    rw [hasSpace, String.toList_ofList, List.any_eq_false]
    constructor
    · intro h e he c hc
      simpa using h c (Separator.mem_intercalate_of_mem he hc)
    · intro h c hc
      rcases Separator.mem_of_mem_intercalate hc with rfl | ⟨e, he, hmem⟩
      · decide
      · simp [h e he c hmem]
  have hat : '@' ∉ ['.'].intercalate es ↔ ∀ e ∈ es, '@' ∉ e := by
    constructor
    · intro h e he hmem
      exact h (Separator.mem_intercalate_of_mem he hmem)
    · intro h hmem
      rcases Separator.mem_of_mem_intercalate hmem with hdot | ⟨e, he, hmem⟩
      · exact absurd hdot (by decide)
      · exact h e he hmem
  rw [hspace, hat]
  exact ⟨fun ⟨h1, h2, h3⟩ e he => ⟨h1 e he, h2 e he, h3 e he⟩,
    fun h => ⟨fun e he => (h e he).1, fun e he => (h e he).2.1, fun e he => (h e he).2.2⟩⟩

/-- A label that was ASCII stays whole, in a domain without whitespace and with no `@`. -/
theorem staysWhole_of_ascii {prep : Stringprep} {domain : String} (hat : '@' ∉ domain.toList)
    (hspace : hasSpace domain = false) {label encoded : List Char}
    (hlabel : label ∈ domain.toList.splitOnP isLabelDot)
    (hascii : label.all isAsciiChar = true) (h : prep.toAscii label = some encoded) :
    StaysWhole encoded := by
  obtain ⟨rfl, hne⟩ := Stringprep.toAscii_of_ascii hascii h
  refine ⟨fun hmem => hat (mem_of_mem_splitOnP hlabel hmem).1, fun c hc => ?_, ?_⟩
  · have hall := List.any_eq_false.1 hspace c (mem_of_mem_splitOnP hlabel hc).1
    simpa using hall
  · have hdot : '.' ∉ encoded := fun hmem => by
      have hno := (mem_of_mem_splitOnP hlabel hmem).2
      exact absurd hno (by decide)
    rw [List.splitOn_eq_singleton hdot, List.mem_singleton]
    exact Ne.symm hne

/-- The structure of a domain that the codec takes as it is. -/
theorem stays_of_ascii (prep : Stringprep) {domain : String} (hascii : isAscii domain = true) :
    DomainStays prep domain := by
  intro label hlabel hother
  have hall : label.all isAsciiChar = true :=
    List.all_eq_true.2 fun c hc =>
      List.all_eq_true.1 hascii c (mem_of_mem_splitOnP hlabel hc).1
  rw [hall] at hother
  cases hother

/-- **An address is canonical once it was canonicalized exactly if the encoded labels of its domain
bring in no structure.** -/
theorem canonical_again_iff {prep : Stringprep} {value localPart domain : String}
    (h : canonicalizeEmail prep.codec value = .ok (localPart, domain)) :
    CanonicalAgain prep.codec localPart domain ↔
      DomainStays prep (splitAtSign (strip value)).2 := by
  rw [canonicalAgain_iff h]
  obtain ⟨hcount, hspace, -, -, -, encoded, hencoded, rfl, hempty, -, hlast⟩ :=
    canonicalizeEmail_eq_ok_iff.1 h
  obtain ⟨-, hat, htext⟩ := splitAtSign_free hcount
  have hspace' : hasSpace (splitAtSign (strip value)).2 = false := by
    rw [htext] at hspace
    simp only [hasSpace, String.toList_append, List.any_append, Bool.or_eq_false_iff] at hspace ⊢
    exact hspace.2
  rw [at_mem_asciiLower_iff, hasSpace_asciiLower, labelsFit_asciiLower]
  generalize (splitAtSign (strip value)).2 = submitted at hat hspace' hencoded ⊢
  unfold IdnaCodec.encode at hencoded
  by_cases hascii : isAscii submitted = true
  · -- the domain is its own encoding
    rw [if_pos hascii] at hencoded
    split at hencoded
    · rename_i hfit
      cases hencoded
      exact ⟨fun _ => stays_of_ascii prep hascii, fun _ => ⟨hat, hspace', hfit⟩⟩
    · cases hencoded
  · rw [if_neg hascii] at hencoded
    obtain ⟨labels, es, trailingDot, hlabels, hchars, htrailing⟩ :=
      Stringprep.encodeDomain_spec hencoded
    have hlast' : encoded.toList.getLast? ≠ some '.' := by
      intro hdot
      refine hlast ?_
      rw [asciiLower, String.toList_ofList, List.getLast?_map, hdot]
      rfl
    rcases htrailing with ⟨rfl, rfl⟩ | rfl
    · rw [List.append_nil] at hchars
      have hne : ['.'].intercalate es ≠ [] := by
        rw [← hchars]
        intro hnil
        exact hempty (by rw [asciiLower, hnil]; rfl)
      have hes : es ≠ [] := by
        rintro rfl
        exact hne rfl
      have hlength : ∀ e ∈ es, e.length < 64 := by
        intro e he
        obtain ⟨label, -, hlabel⟩ := exists_of_forall₂_right hlabels he
        exact (Stringprep.toAscii_spec hlabel).1
      obtain rfl : encoded = String.ofList (['.'].intercalate es) := by
        rw [← hchars, String.ofList_toList]
      rw [hchars] at hlast'
      rw [hchars, intercalate_stays_iff hes hlength hne hlast']
      constructor
      · intro hstays label hlabel _ e he
        obtain ⟨e', he', hsame⟩ := exists_of_forall₂_left hlabels hlabel
        rw [hsame] at he
        exact Option.some.inj he ▸ hstays e' he'
      · intro hstays e he
        obtain ⟨label, hlabel, hsame⟩ := exists_of_forall₂_right hlabels he
        cases hall : label.all isAsciiChar with
        | true => exact staysWhole_of_ascii hat hspace' hlabel hall hsame
        | false => exact hstays label hlabel hall e hsame
    · exact absurd (by rw [hchars]; simp) hlast'

/-! ### A second at sign -/

/-- Nameprep on a few characters: the fullwidth at sign is one, three dots in one are three, and the
capital letter with a ring is lowered. -/
def fewCharacters : Stringprep where
  nameprep label := some (label.flatMap fun c =>
    if c = '＠' then ['@'] else if c = '…' then ['.', '.', '.'] else if c = 'Å' then ['å'] else [c])
  deltas _ := ['x', 'i', 'a']
  deltas_alphanum _ := by
    simp only [List.mem_cons, List.not_mem_nil, or_false]
    rintro c (rfl | rfl | rfl) <;> rfl

/-- An address whose domain is encoded, and stays. -/
theorem encoded_address_canonical :
    CanonicalAgain fewCharacters.codec "ann" "xn--re-xia.example" ↔
      DomainStays fewCharacters (splitAtSign (strip "ann@Åre.example")).2 :=
  canonical_again_iff (by decide)

/-- An address whose domain hides a second at sign. -/
theorem fullwidth_at_not_canonical :
    canonicalizeEmail fewCharacters.codec "ann@ops＠example.com" = .ok ("ann", "ops@example.com") ∧
      canonicalizeEmail fewCharacters.codec "ann@ops@example.com" =
        .error "email must contain exactly one @" ∧
      ¬ CanonicalAgain fewCharacters.codec "ann" "ops@example.com" := by
  have hagain : canonicalizeEmail fewCharacters.codec "ann@ops@example.com" =
      .error "email must contain exactly one @" := by decide
  refine ⟨by decide, hagain, fun h => ?_⟩
  have hsame := hagain.symm.trans h.1
  cases hsame

end PlatformOps
