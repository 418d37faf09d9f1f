/-
**Canonical email addresses.**

The local part of an address is kept as it was submitted, and its domain is encoded for the domain
name system and lowered.  An ASCII domain is encoded as it stands, once its labels have been
measured; what becomes of the other domains is the business of the codec, of which only its result
is used: it is ASCII.

Main definitions:

* `IdnaCodec`, `IdnaCodec.encode` — the codec;
* `canonicalizeEmail`, `canonicalEmail` — the parts of a canonical address, and the address.

Main results:

* `canonicalizeEmail_eq_ok` — what an accepted address looks like;
* `canonicalizeEmail_domain` — **a canonical domain is ASCII, and lowered already**.
-/

import PlatformOps.PythonText

set_option relaxedAutoImplicit false
set_option autoImplicit false

namespace PlatformOps

/-- The codec for the domains that are not ASCII.  Its result is ASCII. -/
structure IdnaCodec where
  encodeOther : String → Option String
  ascii : ∀ domain encoded, encodeOther domain = some encoded → isAscii encoded = true

/-- The labels of a domain. -/
def domainLabels (domain : String) : List (List Char) := domain.toList.splitOn '.'

/-- The labels of an ASCII domain fit: none is too long, and none but the last is empty. -/
def labelsFit (domain : String) : Bool :=
  (domainLabels domain).all (fun label => label.length < 64) &&
    (domainLabels domain).dropLast.all fun label => !label.isEmpty

/-- `domain.encode("idna")`. -/
def IdnaCodec.encode (codec : IdnaCodec) (domain : String) : Option String :=
  if isAscii domain then if labelsFit domain then some domain else none
  else codec.encodeOther domain

theorem IdnaCodec.encode_ascii {codec : IdnaCodec} {domain encoded : String}
    (h : codec.encode domain = some encoded) : isAscii encoded = true := by
  unfold encode at h
  split at h
  · split at h
    · cases h
      assumption
    · cases h
  · exact codec.ascii domain encoded h

/-- The codec that refuses every domain that is not ASCII. -/
def IdnaCodec.asciiOnly : IdnaCodec where
  encodeOther _ := none
  ascii := by
    intro domain encoded h
    cases h

/-- The text before and after the first `@`. -/
def splitAtSign (text : String) : String × String :=
  (String.ofList (text.toList.takeWhile (· ≠ '@')),
    String.ofList ((text.toList.dropWhile (· ≠ '@')).drop 1))

variable (codec : IdnaCodec)

/-- `canonicalize_email`: the local part and the canonical domain, or the text of the error. -/
def canonicalizeEmail (value : String) : Except String (String × String) :=
  let submitted := strip value
  if submitted.toList.count '@' ≠ 1 then .error "email must contain exactly one @"
  else
    let (localPart, domain) := splitAtSign submitted
    if localPart = "" ∨ domain = "" ∨ hasSpace submitted = true then
      .error "email must contain a local part and domain without whitespace"
    else
      match codec.encode domain with
      | none => .error "email domain must be valid IDNA"
      | some encoded =>
          let canonicalDomain := asciiLower encoded
          if canonicalDomain = "" ∨ canonicalDomain.toList.head? = some '.' ∨
              canonicalDomain.toList.getLast? = some '.' then
            .error "email domain is invalid"
          else .ok (localPart, canonicalDomain)

/-- The canonical address. -/
def canonicalEmail (value : String) : Except String String :=
  (fun parts => parts.1 ++ "@" ++ parts.2) <$> canonicalizeEmail codec value

variable {codec}

/-- What an accepted address looks like. -/
theorem canonicalizeEmail_eq_ok {value localPart domain : String}
    (h : canonicalizeEmail codec value = .ok (localPart, domain)) :
    (strip value).toList.count '@' = 1 ∧ hasSpace (strip value) = false ∧ localPart ≠ "" ∧
      localPart = (splitAtSign (strip value)).1 ∧ domain ≠ "" ∧
      ∃ encoded, codec.encode (splitAtSign (strip value)).2 = some encoded ∧
        domain = asciiLower encoded := by
  unfold canonicalizeEmail at h
  dsimp only at h
  split at h
  · cases h
  · rename_i hcount
    split at h
    · cases h
    · rename_i hparts
      push Not at hparts
      split at h
      · cases h
      · rename_i encoded hencoded
        split at h
        · cases h
        · rename_i hdomain
          push Not at hdomain
          have hpair := Except.ok.inj h
          have hlocal := (Prod.mk.inj hpair).1
          have hlower := (Prod.mk.inj hpair).2
          exact ⟨not_not.1 hcount, by simpa using hparts.2.2, hlocal ▸ hparts.1, hlocal.symm,
            hlower ▸ hdomain.1, encoded, hencoded, hlower.symm⟩

/-- **A canonical domain is ASCII, and lowered already.** -/
theorem canonicalizeEmail_domain {value localPart domain : String}
    (h : canonicalizeEmail codec value = .ok (localPart, domain)) :
    isAscii domain = true ∧ asciiLower domain = domain := by
  obtain ⟨-, -, -, -, -, encoded, hencoded, rfl⟩ := canonicalizeEmail_eq_ok h
  have hascii : isAscii encoded = true := IdnaCodec.encode_ascii hencoded
  constructor
  · simp only [isAscii, asciiLower, String.toList_ofList, List.all_map,
      List.all_eq_true] at hascii ⊢
    intro c hc
    have hlt : c.toNat < 128 := by simpa using hascii c hc
    simp only [Function.comp_apply, decide_eq_true_eq]
    rw [toNat_toLower]
    split
    · omega
    · exact hlt
  · exact asciiLower_asciiLower encoded

end PlatformOps
