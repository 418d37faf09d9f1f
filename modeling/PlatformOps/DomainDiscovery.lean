/-
**Finding the organization of a domain.**

After a login, the domain of the address of the user is looked up among the domains of the active
organizations.  The two are made canonical by different means: the domain of an organization is
lowered, and the domain of an address is encoded for the domain name system and lowered.  So a domain
that is not ASCII is stored as it is, and looked up as it is encoded.

Main definitions:

* `DiscoveryDatabase`, `findActiveDomain` — the active organization of a domain;
* `discover` — the journeys after a login;
* `PlatformDatabase.HoldsActive` — an organization is active, and its boundary is stored;
* `IdnaCodec.FoldsCase`, `LowersLikeUnicode` — what is known of the codec and of the lowering of the
  database.

Main results:

* `holdsActive_activated` — an organization that was activated is held;
* `discover_finds_iff` — **the organization of a domain is found exactly if its domain is stored in
  ASCII**;
* `munich_not_found` — a domain that is not ASCII.
-/

import PlatformOps.ActivationRoundTrip

set_option relaxedAutoImplicit false
set_option autoImplicit false

namespace PlatformOps

/-! ### Discovery -/

/-- The identity provider of an organization. -/
@[ext] structure OrganizationIdpConfiguration where
  issuer : String
  audience : String
  issuer_ne : issuer ≠ ""
  audience_ne : audience ≠ ""

instance : DecidableEq OrganizationIdpConfiguration := fun _ _ =>
  decidable_of_iff _ OrganizationIdpConfiguration.ext_iff.symm

/-- A row of `organization_idp_configurations`. -/
structure IdpConfigurationRow where
  organizationId : String
  configuration : OrganizationIdpConfiguration
  deriving DecidableEq

/-- An active organization and its domain. -/
@[ext] structure ActiveOrganizationDomain where
  organizationId : String
  canonicalDomain : String
  idp : Option OrganizationIdpConfiguration
  organizationId_ne : organizationId ≠ ""
  canonicalDomain_ne : canonicalDomain ≠ ""

instance : DecidableEq ActiveOrganizationDomain := fun _ _ =>
  decidable_of_iff _ ActiveOrganizationDomain.ext_iff.symm

/-- Validate an active domain. -/
def activeOrganizationDomain (organizationId canonicalDomain : String)
    (idp : Option OrganizationIdpConfiguration) :
    Except ValidationError ActiveOrganizationDomain :=
  if hid : organizationId ≠ "" then
    if hdomain : canonicalDomain ≠ "" then .ok ⟨organizationId, canonicalDomain, idp, hid, hdomain⟩
    else .error ⟨"ActiveOrganizationDomain", "canonical_domain"⟩
  else .error ⟨"ActiveOrganizationDomain", "organization_id"⟩

/-- Where a user goes after a login. -/
inductive PostLoginJourney
  | organizationIdpAuthentication
  | organizationMemberOnboarding
  | personalOrganizationCreation
  | businessOrganizationClaim
  deriving DecidableEq

/-- What is discovered. -/
structure PostLoginDiscoveryResult where
  journeys : List PostLoginJourney
  organizationId : Option String
  idp : Option OrganizationIdpConfiguration
  deriving DecidableEq

/-- The tables of the organizations, and of their identity providers. -/
structure DiscoveryDatabase (lower : String → String) where
  platform : PlatformDatabase lower
  idps : KeyedTable fun row : IdpConfigurationRow => [row.organizationId]

section
variable {lower : String → String}

/-- The row of the domain, and that of its organization, if it is active. -/
def PlatformDatabase.domainRow (s : PlatformDatabase lower) (canonicalDomain : String) :
    Option (IdentityBoundaryRow × OrganizationRow) := do
  let boundary ← s.boundaries.find? (.boundary .domain (lower canonicalDomain))
  let organization ← s.organizations.find? boundary.organizationId
  if organization.state = .active then some (boundary, organization) else none

/-- `find_active_domain`. -/
def findActiveDomain (db : DiscoveryDatabase lower) (canonicalDomain : String) :
    Except CommandFault (Option ActiveOrganizationDomain) :=
  if Sendable canonicalDomain then
    match db.platform.domainRow canonicalDomain with
    | none => .ok none
    | some row =>
        match activeOrganizationDomain row.2.organizationId row.1.boundaryReference
            ((db.idps.find? row.2.organizationId).map (·.configuration)) with
        | .ok domain => .ok (some domain)
        | .error e => .error (.validationError e)
  else .error unsendable

/-- What is discovered of a domain. -/
def PostLoginDiscoveryResult.ofMatch : Option ActiveOrganizationDomain → PostLoginDiscoveryResult
  | some domain =>
      match domain.idp with
      | some idp => ⟨[.organizationIdpAuthentication], some domain.organizationId, some idp⟩
      | none => ⟨[.organizationMemberOnboarding], some domain.organizationId, none⟩
  | none => ⟨[.personalOrganizationCreation, .businessOrganizationClaim], none, none⟩

/-- `discover`. -/
def discover (codec : IdnaCodec) (db : DiscoveryDatabase lower) (email : String) :
    Except CommandFault PostLoginDiscoveryResult :=
  match canonicalizeEmail codec email with
  | .error message => .error (.valueError "ValueError" message)
  | .ok (_, domain) =>
      match findActiveDomain db domain with
      | .error fault => .error fault
      | .ok found => .ok (.ofMatch found)

/-- The organization is discovered. -/
def Discovers (codec : IdnaCodec) (db : DiscoveryDatabase lower) (email organizationId : String) :
    Prop :=
  ∃ result, discover codec db email = .ok result ∧ result.organizationId = some organizationId

/-- An organization is active, and its boundary is stored. -/
structure PlatformDatabase.HoldsActive (s : PlatformDatabase lower) (organizationId : String)
    (boundary : OrganizationIdentityBoundary) : Prop where
  active : ∃ row, s.organizations.find? organizationId = some row ∧ row.state = .active
  stored : ∃ row, s.boundaries.find? (.organizationId organizationId) = some row ∧
    row.boundaryKind = boundary.kind ∧ row.boundaryReference = boundary.reference
  named : organizationId ≠ ""
  sendable : Sendable boundary.reference

/-- **An organization that was activated is held.** -/
theorem holdsActive_activated {case : CaseMapping} {sha256 : String → HexDigest}
    {s s' : PlatformDatabase lower} {organization : ActiveOrganization}
    (h : activateOrganization case sha256 organization s = (.ok (), s')) :
    s'.HoldsActive organization.organizationId organization.identityBoundary := by
  obtain ⟨row, request, hcan, rfl⟩ := activateOrganization_eq_ok_iff.1 h
  obtain ⟨horganization, hboundary, -, -⟩ := routableRows_eq_some_iff.1 hcan.routableRows
  refine ⟨⟨_, horganization, rfl⟩, ⟨_, hboundary, rfl, rfl⟩, ?_, hcan.admits.sendable _ ?_⟩
  · intro hempty
    have hlength := organization.organizationId_length
    rw [hempty] at hlength
    exact absurd hlength (by decide)
  · simp

end

/-! ### The codec and the lowering of the database -/

/-- The codec folds the case of what it encodes: what lowers to an ASCII text is encoded as that. -/
def IdnaCodec.FoldsCase (codec : IdnaCodec) (case : CaseMapping) : Prop :=
  ∀ domain encoded, codec.encodeOther domain = some encoded →
    isAscii (case.lower domain) = true → asciiLower encoded = case.lower domain

/-- The database lowers ASCII texts letter by letter, and a text that is lowered already and not
ASCII stays so. -/
structure LowersLikeUnicode (case : CaseMapping) (lower : String → String) : Prop where
  ascii : ∀ text, isAscii text = true → lower text = asciiLower text
  other : ∀ text, case.lower text = text → isAscii text = false → isAscii (lower text) = false

theorem isAscii_asciiLower (text : String) : isAscii (asciiLower text) = isAscii text := by
  have hchar : ∀ c : Char, decide (c.toLower.toNat < 128) = decide (c.toNat < 128) := by
    intro c
    rw [toNat_toLower]
    split
    · rename_i h
      rw [decide_eq_decide]
      omega
    · rfl
  simp [isAscii, asciiLower, Function.comp_def, hchar]

/-- The lowering of ASCII letters is one of these. -/
theorem lowersLikeUnicode_asciiLower : LowersLikeUnicode .asciiOnly asciiLower where
  ascii _ _ := rfl
  other text _ h := by rw [isAscii_asciiLower, h]

/-- What lowers to an ASCII text is encoded as that. -/
theorem IdnaCodec.FoldsCase.lower_encode {case : CaseMapping} {codec : IdnaCodec}
    (hcodec : codec.FoldsCase case) {domain encoded : String}
    (h : codec.encode domain = some encoded) (hascii : isAscii (case.lower domain) = true) :
    asciiLower encoded = case.lower domain := by
  unfold IdnaCodec.encode at h
  split at h
  · rename_i hdomain
    split at h
    · cases h
      exact (case.ascii _ hdomain).symm
    · cases h
  · exact hcodec _ _ h hascii

/-! ### What is found -/

section
variable {lower : String → String} {case : CaseMapping} {codec : IdnaCodec}
  {db : DiscoveryDatabase lower} {organizationId email localPart domain : String}
  {boundary : OrganizationIdentityBoundary}

theorem domainRow_eq_some_iff {s : PlatformDatabase lower} {canonicalDomain : String}
    {row : IdentityBoundaryRow × OrganizationRow} : s.domainRow canonicalDomain = some row ↔
      s.boundaries.find? (.boundary .domain (lower canonicalDomain)) = some row.1 ∧
        s.organizations.find? row.1.organizationId = some row.2 ∧ row.2.state = .active := by
  unfold PlatformDatabase.domainRow
  constructor
  · intro h
    obtain ⟨boundary, hboundary, h⟩ := Option.bind_eq_some_iff.1 h
    obtain ⟨organization, horganization, h⟩ := Option.bind_eq_some_iff.1 h
    split at h
    · rename_i hactive
      cases h
      exact ⟨hboundary, horganization, hactive⟩
    · cases h
  · rintro ⟨hboundary, horganization, hactive⟩
    simp only [hboundary, horganization, Option.bind_eq_bind, Option.bind_some, if_pos hactive]

/-- What is discovered is the organization whose stored domain is lowered like the canonical one. -/
theorem Discovers.lower_eq (h : Discovers codec db email organizationId)
    (haccepted : canonicalizeEmail codec email = .ok (localPart, domain))
    (hheld : db.platform.HoldsActive organizationId boundary) :
    lower boundary.reference = lower domain := by
  obtain ⟨result, hdiscover, hresult⟩ := h
  unfold discover at hdiscover
  rw [haccepted] at hdiscover
  unfold findActiveDomain at hdiscover
  by_cases hsend : Sendable domain
  · cases hrow : db.platform.domainRow domain with
    | none =>
        simp only [if_pos hsend, hrow] at hdiscover
        cases hdiscover
        cases hresult
    | some row =>
        obtain ⟨hfound, horganization, -⟩ := domainRow_eq_some_iff.1 hrow
        obtain ⟨held, hheldRow, -, hreference⟩ := hheld.stored
        obtain ⟨hmem, hkey⟩ := KeyedTable.mem_of_find? hfound
        obtain ⟨hmem', hkey'⟩ := KeyedTable.mem_of_find? hheldRow
        have hid : row.2.organizationId = organizationId := by
          simp only [if_pos hsend, hrow] at hdiscover
          unfold activeOrganizationDomain at hdiscover
          split at hdiscover
          · cases hdiscover
          · rename_i found hfoundDomain
            cases hdiscover
            split at hfoundDomain
            · rename_i active hactive
              cases hfoundDomain
              split at hactive
              · split at hactive
                · cases hactive
                  unfold PostLoginDiscoveryResult.ofMatch at hresult
                  split at hresult
                  · rename_i other hother
                    cases hother
                    split at hresult <;> exact Option.some.inj hresult
                  · cases hresult
                · cases hactive
              · cases hactive
            · cases hfoundDomain
        have hrowId : row.1.organizationId = organizationId := by
          rw [← hid]
          simpa [eq_comm] using (KeyedTable.mem_of_find? horganization).2
        have hsame : row.1 = held := by
          refine db.platform.boundaries.eq_of_mem_keys hmem hmem'
            (k := .organizationId organizationId) ?_ hkey'
          simp [hrowId]
        have hlower : lower domain = lower row.1.boundaryReference := by
          simp only [List.mem_cons, List.not_mem_nil, or_false, reduceCtorEq, false_or,
            BoundaryKey.boundary.injEq] at hkey
          exact hkey.2
        rw [hlower, hsame, hreference]
  · simp only [if_neg hsend] at hdiscover
    cases hdiscover

/-- The organization of a stored domain is discovered. -/
theorem discovers_of_eq (hheld : db.platform.HoldsActive organizationId boundary)
    (hkind : boundary.kind = .domain)
    (haccepted : canonicalizeEmail codec email = .ok (localPart, boundary.reference)) :
    Discovers codec db email organizationId := by
  obtain ⟨organization, horganization, hactive⟩ := hheld.active
  obtain ⟨held, hheldRow, hheldKind, hreference⟩ := hheld.stored
  obtain ⟨hmem, hkey⟩ := KeyedTable.mem_of_find? hheldRow
  have hrowId : held.organizationId = organizationId := by
    simpa [eq_comm] using hkey
  have hid : organization.organizationId = organizationId := by
    simpa [eq_comm] using (KeyedTable.mem_of_find? horganization).2
  have hrow : db.platform.domainRow boundary.reference = some (held, organization) := by
    refine domainRow_eq_some_iff.2 ⟨KeyedTable.find?_eq_some_iff.2 ⟨hmem, ?_⟩, ?_, hactive⟩
    · simp [hheldKind, hkind, hreference]
    · rw [hrowId]
      exact horganization
  have hidNe : organization.organizationId ≠ "" := by
    rw [hid]
    exact hheld.named
  have hreferenceNe : held.boundaryReference ≠ "" := by
    rw [hreference]
    exact boundary.nonempty
  have hfind : findActiveDomain db boundary.reference = .ok (some ⟨organization.organizationId,
      held.boundaryReference, (db.idps.find? organization.organizationId).map (·.configuration),
      hidNe, hreferenceNe⟩) := by
    unfold findActiveDomain activeOrganizationDomain
    rw [if_pos hheld.sendable, hrow]
    simp only [dif_pos hidNe, dif_pos hreferenceNe]
  unfold Discovers discover
  rw [haccepted]
  simp only [hfind]
  refine ⟨_, rfl, ?_⟩
  unfold PostLoginDiscoveryResult.ofMatch
  dsimp only
  split
  · exact congrArg some hid
  · exact congrArg some hid

end

/-- **The organization of a domain is found exactly if its domain is stored in ASCII**, and only
then do the two normal forms coincide. -/
theorem discover_finds_iff {lower : String → String} {case : CaseMapping} {codec : IdnaCodec}
    (hcodec : codec.FoldsCase case) (hlower : LowersLikeUnicode case lower)
    (db : DiscoveryDatabase lower) {organizationId : String}
    {boundary : OrganizationIdentityBoundary} (hkind : boundary.kind = .domain)
    (hheld : db.platform.HoldsActive organizationId boundary) {email localPart domain : String}
    (haccepted : canonicalizeEmail codec email = .ok (localPart, domain))
    (hsame : case.lower (splitAtSign (strip email)).2 = boundary.reference) :
    (Discovers codec db email organizationId ↔ isAscii boundary.reference = true) ∧
      (domain = boundary.reference ↔ isAscii boundary.reference = true) := by
  have hcanonical := canonicalizeEmail_domain haccepted
  have hdomain : isAscii boundary.reference = true → domain = boundary.reference := by
    intro hascii
    obtain ⟨-, -, -, -, -, encoded, hencoded, hlowered⟩ := canonicalizeEmail_eq_ok haccepted
    rw [← hsame] at hascii ⊢
    exact hlowered.trans (hcodec.lower_encode hencoded hascii)
  refine ⟨⟨?_, ?_⟩, ⟨?_, hdomain⟩⟩
  · intro hfound
    have heq := hfound.lower_eq haccepted hheld
    rw [hlower.ascii _ hcanonical.1, hcanonical.2] at heq
    have hlowered : case.lower boundary.reference = boundary.reference := by
      rw [← hsame, case.idempotent]
    cases hascii : isAscii boundary.reference with
    | true => rfl
    | false =>
        have hother := hlower.other _ hlowered hascii
        rw [heq, hcanonical.1] at hother
        exact hother.symm
  · intro hascii
    rw [hdomain hascii] at haccepted
    exact discovers_of_eq hheld hkind haccepted
  · intro heq
    rw [← heq]
    exact hcanonical.1

/-- One active organization, with a domain. -/
def activeDomain (reference : String) : DiscoveryDatabase asciiLower where
  platform :=
    { noOrganizations with
      organizations := KeyedTable.empty.insert ⟨"org_1", "Acme", .active, 0, some 1, by simp⟩
        fun _ h => absurd h List.not_mem_nil
      boundaries := KeyedTable.empty.insert ⟨"org_1", .domain, reference, "dns:1", 0⟩
        fun _ h => absurd h List.not_mem_nil }
  idps := .empty

/-- The codec for one domain. -/
def munichCodec : IdnaCodec where
  encodeOther domain := if domain = "münchen.de" then some "xn--mnchen-3ya.de" else none
  ascii := by
    intro domain encoded h
    split at h
    · cases h
      decide
    · cases h

/-- It folds case: the domain it encodes has no ASCII lowering. -/
theorem munichCodec_foldsCase : munichCodec.FoldsCase .asciiOnly := by
  intro domain encoded h hascii
  have hdomain : domain = "münchen.de" := by
    by_contra hne
    simp [munichCodec, hne] at h
  rw [hdomain] at hascii
  exact absurd hascii (by decide)

theorem discover_finds_acme :
    (Discovers munichCodec (activeDomain "acme.example") "Alice@ACME.example" "org_1" ↔
        isAscii "acme.example" = true) ∧
      ("acme.example" = "acme.example" ↔ isAscii "acme.example" = true) := by
  have hheld : (activeDomain "acme.example").platform.HoldsActive "org_1"
      ⟨.domain, "acme.example", by decide, by decide⟩ :=
    ⟨⟨⟨"org_1", "Acme", .active, 0, some 1, by simp⟩, by decide, rfl⟩,
      ⟨⟨"org_1", .domain, "acme.example", "dns:1", 0⟩, by decide, rfl, rfl⟩, by decide, by decide⟩
  have haccepted : canonicalizeEmail munichCodec "Alice@ACME.example" =
      .ok ("Alice", "acme.example") := by
    decide
  exact discover_finds_iff munichCodec_foldsCase lowersLikeUnicode_asciiLower _ rfl hheld haccepted
    (by decide)

/-- **A domain that is not ASCII is not found**: it is stored as it is, and looked up as it is
encoded. -/
theorem munich_not_found :
    organizationIdentityBoundary .asciiOnly .domain "münchen.de" =
        .ok ⟨.domain, "münchen.de", by decide, by decide⟩ ∧
      (activeDomain "münchen.de").platform.HoldsActive "org_1"
        ⟨.domain, "münchen.de", by decide, by decide⟩ ∧
      canonicalizeEmail munichCodec "ada@münchen.de" = .ok ("ada", "xn--mnchen-3ya.de") ∧
      CaseMapping.asciiOnly.lower (splitAtSign (strip "ada@münchen.de")).2 = "münchen.de" ∧
      ¬ Discovers munichCodec (activeDomain "münchen.de") "ada@münchen.de" "org_1" := by
  refine ⟨by decide, ⟨⟨⟨"org_1", "Acme", .active, 0, some 1, by simp⟩, by decide, rfl⟩,
      ⟨⟨"org_1", .domain, "münchen.de", "dns:1", 0⟩, by decide, rfl, rfl⟩, by decide, by decide⟩,
    by decide, by decide, ?_⟩
  rintro ⟨result, hdiscover, hresult⟩
  have hnothing : discover munichCodec (activeDomain "münchen.de") "ada@münchen.de" =
      .ok ⟨[.personalOrganizationCreation, .businessOrganizationClaim], none, none⟩ := by
    decide
  rw [hnothing] at hdiscover
  cases hdiscover
  cases hresult

end PlatformOps
