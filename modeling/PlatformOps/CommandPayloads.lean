/-
**The payloads of the commands.**

A command of the browser carries structured input.  Before it is routed, a filter refuses every
payload that names authority: a key at any depth in which one of some fragments occurs.  After it is
routed, the handler of the command validates the payload against a request model that admits no
other field.  So a field of a request model whose name holds a fragment shuts its command off.

Main definitions:

* `findAuthorityKey` — the filter;
* `Json.KeyAt`, `NamesAuthority` — the keys of a value at any depth, and those that name authority;
* `ControlPlaneCommand`, `LoginCommand`, `OrganizationOnboardingStart`, `IdCommand`,
  `OrganizationInvitationAcceptance` — the commands and the request models;
* `AcceptsPayload` — the request model of a command accepts a payload.

Main results:

* `findAuthorityKey_eq_none_iff` — **the filter refuses exactly the values that have a key that
  names authority**;
* `keyAt_of_accepted` — a valid payload has only the field names of its request models as keys;
* `filter_admits_iff` — **every valid payload of a command passes the filter, except that none of
  `/join-org` does**.
-/

import PlatformOps.Intake
import PlatformOps.PythonText

set_option relaxedAutoImplicit false
set_option autoImplicit false

namespace PlatformOps

/-! ### The filter -/

/-- The fragments that name authority. -/
def authorityKeyFragments : List String :=
  ["provider", "binding", "credential", "secret", "token", "grant", "reviewer", "principal",
    "actor", "issuer", "subject", "role", "session"]

variable (case : CaseMapping)

/-- The key names authority: a fragment occurs in it, whatever the case is. -/
def NamesAuthority (key : String) : Bool :=
  authorityKeyFragments.any fun fragment => containsText fragment (case.lower key)

mutual

/-- `_find_authority_key`: the first key that names authority, if there is one.  A reported key is
never empty, so a key that is found counts as true. -/
def findAuthorityKey : Json → Option String
  | .obj fields => findAuthorityKeyIn fields
  | .arr items => findAuthorityKeyAmong items
  | _ => none

/-- The first such key among the fields of an object and below them. -/
def findAuthorityKeyIn : List (String × Json) → Option String
  | [] => none
  | (key, nested) :: fields =>
      if NamesAuthority case key then some key
      else (findAuthorityKey nested).or (findAuthorityKeyIn fields)

/-- The first such key below the items of a list. -/
def findAuthorityKeyAmong : List Json → Option String
  | [] => none
  | item :: items => (findAuthorityKey item).or (findAuthorityKeyAmong items)

end

namespace Json

/-- The value has this key at some depth, through objects and lists. -/
inductive KeyAt (key : String) : Json → Prop
  | here {fields : List (String × Json)} {value : Json} (h : (key, value) ∈ fields) :
      KeyAt key (.obj fields)
  | field {fields : List (String × Json)} {name : String} {value : Json}
      (h : (name, value) ∈ fields) (hkey : KeyAt key value) : KeyAt key (.obj fields)
  | item {items : List Json} {value : Json} (h : value ∈ items) (hkey : KeyAt key value) :
      KeyAt key (.arr items)

/-- No object has a key twice, as in every value that is read from a text. -/
inductive DistinctKeys : Json → Prop
  | null : DistinctKeys .null
  | bool (b : Bool) : DistinctKeys (.bool b)
  | number (n : NumberText) : DistinctKeys (.number n)
  | str (s : String) : DistinctKeys (.str s)
  | arr {items : List Json} (h : ∀ value ∈ items, DistinctKeys value) : DistinctKeys (.arr items)
  | obj {fields : List (String × Json)} (hnodup : (fields.map Prod.fst).Nodup)
      (h : ∀ field ∈ fields, DistinctKeys field.2) : DistinctKeys (.obj fields)

theorem not_keyAt_str {key s : String} : ¬ KeyAt key (.str s) := by
  intro h
  cases h

end Json

variable {case}

mutual

/-- The key the filter reports is one of the value's, and names authority. -/
theorem keyAt_of_find {key : String} :
    ∀ v : Json, findAuthorityKey case v = some key →
      v.KeyAt key ∧ NamesAuthority case key = true
  | .obj fields, h => by
      rw [findAuthorityKey] at h
      obtain ⟨hat, hnames⟩ := keyAt_of_findIn fields h
      rcases hat with ⟨value, hmem⟩ | ⟨name, value, hmem, hkey⟩
      · exact ⟨.here hmem, hnames⟩
      · exact ⟨.field hmem hkey, hnames⟩
  | .arr items, h => by
      rw [findAuthorityKey] at h
      obtain ⟨⟨value, hmem, hkey⟩, hnames⟩ := keyAt_of_findAmong items h
      exact ⟨.item hmem hkey, hnames⟩
  | .null, h => by
      rw [findAuthorityKey] at h
      · cases h
      all_goals simp
  | .bool b, h => by
      rw [findAuthorityKey] at h
      · cases h
      all_goals simp
  | .number n, h => by
      rw [findAuthorityKey] at h
      · cases h
      all_goals simp
  | .str s, h => by
      rw [findAuthorityKey] at h
      · cases h
      all_goals simp

theorem keyAt_of_findIn {key : String} :
    ∀ fields : List (String × Json), findAuthorityKeyIn case fields = some key →
      ((∃ value, (key, value) ∈ fields) ∨
        ∃ name value, (name, value) ∈ fields ∧ value.KeyAt key) ∧ NamesAuthority case key = true
  | [], h => by
      rw [findAuthorityKeyIn] at h
      cases h
  | (name, nested) :: fields, h => by
      rw [findAuthorityKeyIn] at h
      by_cases hname : NamesAuthority case name = true
      · rw [if_pos hname] at h
        cases h
        exact ⟨Or.inl ⟨nested, List.mem_cons_self⟩, hname⟩
      · rw [if_neg hname] at h
        rcases Option.or_eq_some_iff.1 h with hnested | ⟨-, hrest⟩
        · obtain ⟨hkey, hnames⟩ := keyAt_of_find nested hnested
          exact ⟨Or.inr ⟨name, nested, List.mem_cons_self, hkey⟩, hnames⟩
        · obtain ⟨hat, hnames⟩ := keyAt_of_findIn fields hrest
          refine ⟨?_, hnames⟩
          rcases hat with ⟨value, hmem⟩ | ⟨name', value, hmem, hkey⟩
          · exact Or.inl ⟨value, List.mem_cons_of_mem _ hmem⟩
          · exact Or.inr ⟨name', value, List.mem_cons_of_mem _ hmem, hkey⟩

theorem keyAt_of_findAmong {key : String} :
    ∀ items : List Json, findAuthorityKeyAmong case items = some key →
      (∃ value ∈ items, value.KeyAt key) ∧ NamesAuthority case key = true
  | [], h => by
      rw [findAuthorityKeyAmong] at h
      cases h
  | item :: items, h => by
      rw [findAuthorityKeyAmong] at h
      rcases Option.or_eq_some_iff.1 h with hitem | ⟨-, hrest⟩
      · obtain ⟨hkey, hnames⟩ := keyAt_of_find item hitem
        exact ⟨⟨item, List.mem_cons_self, hkey⟩, hnames⟩
      · obtain ⟨⟨value, hmem, hkey⟩, hnames⟩ := keyAt_of_findAmong items hrest
        exact ⟨⟨value, List.mem_cons_of_mem _ hmem, hkey⟩, hnames⟩

end

theorem find_ne_none_of_mem_fields {fields : List (String × Json)} {name : String} {value : Json}
    (hmem : (name, value) ∈ fields)
    (h : NamesAuthority case name = true ∨ findAuthorityKey case value ≠ none) :
    findAuthorityKeyIn case fields ≠ none := by
  induction fields with
  | nil => cases hmem
  | cons field fields ih =>
      obtain ⟨name', nested⟩ := field
      rw [findAuthorityKeyIn]
      by_cases hname : NamesAuthority case name' = true
      · rw [if_pos hname]
        simp
      · rw [if_neg hname, Ne, Option.or_eq_none_iff]
        rintro ⟨hnested, hrest⟩
        rcases List.mem_cons.1 hmem with heq | hmem
        · cases heq
          rcases h with h | h
          · exact hname h
          · exact h hnested
        · exact ih hmem hrest

theorem find_ne_none_of_mem_items {items : List Json} {value : Json} (hmem : value ∈ items)
    (h : findAuthorityKey case value ≠ none) : findAuthorityKeyAmong case items ≠ none := by
  induction items with
  | nil => cases hmem
  | cons item items ih =>
      rw [findAuthorityKeyAmong, Ne, Option.or_eq_none_iff]
      rintro ⟨hitem, hrest⟩
      rcases List.mem_cons.1 hmem with heq | hmem
      · exact h (heq ▸ hitem)
      · exact ih hmem hrest

/-- A key that names authority is found, at whatever depth it is. -/
theorem find_ne_none_of_keyAt {key : String} {v : Json} (h : v.KeyAt key)
    (hnames : NamesAuthority case key = true) : findAuthorityKey case v ≠ none := by
  induction h with
  | here hmem =>
      rw [findAuthorityKey]
      exact find_ne_none_of_mem_fields hmem (Or.inl hnames)
  | field hmem hkey ih =>
      rw [findAuthorityKey]
      exact find_ne_none_of_mem_fields hmem (Or.inr ih)
  | item hmem hkey ih =>
      rw [findAuthorityKey]
      exact find_ne_none_of_mem_items hmem ih

/-- **The filter refuses exactly the values that have a key that names authority.** -/
theorem findAuthorityKey_eq_none_iff {v : Json} :
    findAuthorityKey case v = none ↔ ∀ key, v.KeyAt key → NamesAuthority case key = false := by
  constructor
  · intro hnone key hkey
    by_contra hnames
    exact find_ne_none_of_keyAt hkey (by simpa using hnames) hnone
  · intro h
    by_contra hsome
    obtain ⟨key, hkey⟩ := Option.ne_none_iff_exists'.1 hsome
    obtain ⟨hat, hnames⟩ := keyAt_of_find v hkey
    rw [h key hat] at hnames
    cases hnames

/-! ### Request models -/

/-- The commands. -/
inductive ControlPlaneCommand
  | login
  | onboardOrganization
  | reviewOnboarding
  | viewOnboardingReview
  | joinOrganization
  | provision
  deriving DecidableEq

/-- The text of a command. -/
def ControlPlaneCommand.value : ControlPlaneCommand → String
  | .login => "/login"
  | .onboardOrganization => "/onboard-org"
  | .reviewOnboarding => "/review-onboard-org"
  | .viewOnboardingReview => "/onboarding-review"
  | .joinOrganization => "/join-org"
  | .provision => "/provision"

/-- A model that forbids extra fields has no other field than these. -/
def forbidExtra (model : String) (fields : List String) (payload : Dict String Json) :
    Except ValidationError Unit :=
  match payload.entries.find? fun p => p.1 ∉ fields with
  | some p => .error ⟨model, p.1⟩
  | none => .ok ()

/-- A field that is a text with this property. -/
def textField (model field : String) (P : String → Prop) [DecidablePred P]
    (payload : Dict String Json) : Except ValidationError {text : String // P text} :=
  match payload.get? field with
  | some (.str text) =>
      if h : P text then .ok ⟨text, h⟩ else .error ⟨model, field⟩
  | _ => .error ⟨model, field⟩

/-- `LoginCommand`. -/
structure LoginCommand where
  email : String
  emailFits : FitsLength 1 320 email

/-- Validate a `LoginCommand`. -/
def loginCommand (payload : Dict String Json) : Except ValidationError LoginCommand := do
  forbidExtra "LoginCommand" ["email"] payload
  let email ← textField "LoginCommand" "email" (FitsLength 1 320) payload
  pure ⟨email.1, email.2⟩

/-- `OrganizationInvitationAcceptance`. -/
structure OrganizationInvitationAcceptance where
  invitationToken : String
  tokenFits : FitsLength 32 2048 invitationToken

/-- Validate an `OrganizationInvitationAcceptance`. -/
def organizationInvitationAcceptance (payload : Dict String Json) :
    Except ValidationError OrganizationInvitationAcceptance := do
  forbidExtra "OrganizationInvitationAcceptance" ["invitation_token"] payload
  let token ← textField "OrganizationInvitationAcceptance" "invitation_token" (FitsLength 32 2048)
    payload
  pure ⟨token.1, token.2⟩

/-- A command that names a record by its id. -/
structure IdCommand where
  id : String
  idFits : 8 ≤ id.length

/-- Validate a command that names a record by its id. -/
def idCommand (model field : String) (payload : Dict String Json) :
    Except ValidationError IdCommand := do
  forbidExtra model [field] payload
  let id ← textField model field (fun text => 8 ≤ text.length) payload
  pure ⟨id.1, id.2⟩

/-- Validate a `ReviewOnboardingCommand`. -/
def reviewOnboardingCommand : Dict String Json → Except ValidationError IdCommand :=
  idCommand "ReviewOnboardingCommand" "request_id"

/-- Validate an `OnboardingAdministratorReadCommand`. -/
def onboardingAdministratorReadCommand : Dict String Json → Except ValidationError IdCommand :=
  idCommand "OnboardingAdministratorReadCommand" "request_id"

/-- Validate a `ProvisionCommand`. -/
def provisionCommand : Dict String Json → Except ValidationError IdCommand :=
  idCommand "ProvisionCommand" "scope_id"

/-- The kinds of boundaries. -/
inductive IdentityBoundaryKind
  | domain
  | idp
  deriving DecidableEq

/-- The text of a kind. -/
def IdentityBoundaryKind.value : IdentityBoundaryKind → String
  | .domain => "domain"
  | .idp => "idp"

/-- The kind with this text. -/
def IdentityBoundaryKind.ofValue (text : String) : Option IdentityBoundaryKind :=
  [IdentityBoundaryKind.domain, .idp].find? fun kind => kind.value = text

/-- A domain or an identity provider.  Its reference is neither empty nor has whitespace. -/
@[ext] structure OrganizationIdentityBoundary where
  kind : IdentityBoundaryKind
  reference : String
  nonempty : reference ≠ ""
  noSpace : hasSpace reference = false

instance : DecidableEq OrganizationIdentityBoundary := fun _ _ =>
  decidable_of_iff _ OrganizationIdentityBoundary.ext_iff.symm

variable (case) in
/-- Validate a boundary.  The reference is stripped, and lowered unless it has an `@`; its length
is that of the text before. -/
def organizationIdentityBoundary (kind : IdentityBoundaryKind) (reference : String) :
    Except ValidationError OrganizationIdentityBoundary :=
  if FitsLength 1 512 reference then
    let normalized := strip reference
    if h : normalized ≠ "" ∧ hasSpace normalized = false then
      if '@' ∈ normalized.toList then .ok ⟨kind, normalized, h.1, h.2⟩
      else
        .ok ⟨kind, case.lower normalized, case.nonempty _ h.1, case.noSpace _ h.2⟩
    else .error ⟨"OrganizationIdentityBoundary", "reference"⟩
  else .error ⟨"OrganizationIdentityBoundary", "reference"⟩

variable (case) in
/-- Read a boundary. -/
def readIdentityBoundary (payload : Json) : Except ValidationError OrganizationIdentityBoundary :=
  match payload.asObject with
  | none => .error ⟨"OrganizationOnboardingStart", "identity_boundary"⟩
  | some fields => do
      forbidExtra "OrganizationIdentityBoundary" ["kind", "reference"] fields
      let kind ← textField "OrganizationIdentityBoundary" "kind"
        (fun text => (IdentityBoundaryKind.ofValue text).isSome = true) fields
      let reference ← textField "OrganizationIdentityBoundary" "reference" (FitsLength 1 512) fields
      organizationIdentityBoundary case ((IdentityBoundaryKind.ofValue kind.1).get kind.2)
        reference.1

/-- `OrganizationOnboardingStart`: the words of its name have one blank between them. -/
structure OrganizationOnboardingStart where
  organizationName : String
  identityBoundary : OrganizationIdentityBoundary
  nameFits : FitsLength 1 200 organizationName

/-- A name whose words are joined fits if it fitted before and has a word. -/
theorem fitsLength_joinWords {name : String} (h : FitsLength 1 200 name)
    (hword : joinWords name ≠ "") : FitsLength 1 200 (joinWords name) :=
  ⟨one_le_length_iff.2 hword, (length_joinWords_le name).trans h.2⟩

variable (case) in
/-- Validate an `OrganizationOnboardingStart`. -/
def organizationOnboardingStart (payload : Dict String Json) :
    Except ValidationError OrganizationOnboardingStart := do
  forbidExtra "OrganizationOnboardingStart" ["organization_name", "identity_boundary"] payload
  let name ← textField "OrganizationOnboardingStart" "organization_name"
    (fun text => FitsLength 1 200 text ∧ joinWords text ≠ "") payload
  let boundary ← readIdentityBoundary case ((payload.get? "identity_boundary").getD .null)
  pure ⟨joinWords name.1, boundary, fitsLength_joinWords name.2.1 name.2.2⟩

variable (case) in
/-- The request model of the command accepts the payload. -/
def AcceptsPayload (payload : Dict String Json) : ControlPlaneCommand → Prop
  | .login => ∃ command, loginCommand payload = .ok command
  | .onboardOrganization => ∃ start, organizationOnboardingStart case payload = .ok start
  | .reviewOnboarding => ∃ command, reviewOnboardingCommand payload = .ok command
  | .viewOnboardingReview => ∃ command, onboardingAdministratorReadCommand payload = .ok command
  | .joinOrganization => ∃ acceptance, organizationInvitationAcceptance payload = .ok acceptance
  | .provision => ∃ command, provisionCommand payload = .ok command

/-- The names of the fields of the request model of a command, at any depth. -/
def ControlPlaneCommand.fieldNames : ControlPlaneCommand → List String
  | .login => ["email"]
  | .onboardOrganization => ["organization_name", "identity_boundary", "kind", "reference"]
  | .reviewOnboarding => ["request_id"]
  | .viewOnboardingReview => ["request_id"]
  | .joinOrganization => ["invitation_token"]
  | .provision => ["scope_id"]

/-! ### The keys of a valid payload -/

theorem get?_ofPairs_of_mem {fields : List (String × Json)} (hnodup : (fields.map Prod.fst).Nodup)
    {key : String} {value : Json} (hmem : (key, value) ∈ fields) :
    (Dict.ofPairs fields).get? key = some value := by
  have hreverse : (fields.reverse.map Prod.fst).Nodup := by
    rw [List.map_reverse, List.nodup_reverse]
    exact hnodup
  rw [Dict.get?_ofPairs, Dict.lookup_eq_some_iff_mem hreverse]
  exact List.mem_reverse.2 hmem

theorem mem_of_forbidExtra {model : String} {names : List String} {payload : Dict String Json}
    (h : forbidExtra model names payload = .ok ()) {key : String} {value : Json}
    (hget : payload.get? key = some value) : key ∈ names := by
  unfold forbidExtra at h
  cases hfind : payload.entries.find? fun p => p.1 ∉ names with
  | some p =>
      rw [hfind] at h
      cases h
  | none =>
      have hall := List.find?_eq_none.1 hfind (key, value) ((Dict.mem_entries_iff _).2 hget)
      simpa using hall

theorem get?_of_textField {model field : String} {P : String → Prop} [DecidablePred P]
    {payload : Dict String Json} {text : {text : String // P text}}
    (h : textField model field P payload = .ok text) :
    payload.get? field = some (.str text.1) := by
  unfold textField at h
  split at h
  · rename_i text' hget
    split at h
    · cases h
      exact hget
    · cases h
  · cases h

/-- The keys of an object that has no other fields than these, at any depth: its fields, and the
keys below them. -/
theorem keyAt_of_forbidExtra {model : String} {names : List String} {fields : List (String × Json)}
    (hnodup : (fields.map Prod.fst).Nodup)
    (h : forbidExtra model names (Dict.ofPairs fields) = .ok ()) {key : String}
    (hkey : (Json.obj fields).KeyAt key) :
    key ∈ names ∨ ∃ name ∈ names, ∃ value, (Dict.ofPairs fields).get? name = some value ∧
      value.KeyAt key := by
  cases hkey with
  | here hmem => exact Or.inl (mem_of_forbidExtra h (get?_ofPairs_of_mem hnodup hmem))
  | field hmem hkey =>
      have hget := get?_ofPairs_of_mem hnodup hmem
      exact Or.inr ⟨_, mem_of_forbidExtra h hget, _, hget, hkey⟩

/-- An object of one text has no other key. -/
theorem keyAt_of_one_text {model field : String} {P : String → Prop} [DecidablePred P]
    {fields : List (String × Json)} (hnodup : (fields.map Prod.fst).Nodup)
    (h : forbidExtra model [field] (Dict.ofPairs fields) = .ok ())
    {text : {text : String // P text}}
    (htext : textField model field P (Dict.ofPairs fields) = .ok text) {key : String}
    (hkey : (Json.obj fields).KeyAt key) : key ∈ [field] := by
  rcases keyAt_of_forbidExtra hnodup h hkey with hmem | ⟨name, hname, value, hget, hkey⟩
  · exact hmem
  · rw [List.mem_singleton] at hname
    subst hname
    rw [get?_of_textField htext] at hget
    cases hget
    exact absurd hkey Json.not_keyAt_str

theorem keyAt_of_idCommand {model field : String} {fields : List (String × Json)}
    (hnodup : (fields.map Prod.fst).Nodup) {command : IdCommand}
    (h : idCommand model field (Dict.ofPairs fields) = .ok command) {key : String}
    (hkey : (Json.obj fields).KeyAt key) : key ∈ [field] := by
  obtain ⟨⟨⟩, hextra, hrest⟩ := bind_eq_ok_iff.1 h
  obtain ⟨text, htext, -⟩ := bind_eq_ok_iff.1 hrest
  exact keyAt_of_one_text hnodup hextra htext hkey

theorem keyAt_of_identityBoundary {payload : Json} (hdistinct : payload.DistinctKeys)
    {boundary : OrganizationIdentityBoundary}
    (h : readIdentityBoundary case payload = .ok boundary) {key : String}
    (hkey : payload.KeyAt key) : key ∈ ["kind", "reference"] := by
  unfold readIdentityBoundary at h
  cases hdistinct with
  | obj hnodup hfields =>
      obtain ⟨⟨⟩, hextra, hrest⟩ := bind_eq_ok_iff.1 h
      obtain ⟨kind, hkind, hrest⟩ := bind_eq_ok_iff.1 hrest
      obtain ⟨reference, hreference, -⟩ := bind_eq_ok_iff.1 hrest
      rcases keyAt_of_forbidExtra hnodup hextra hkey with hmem | ⟨name, hname, value, hget, hkey⟩
      · exact hmem
      · -- both fields are texts
        rcases List.mem_pair.1 hname with rfl | rfl
        · rw [get?_of_textField hkind] at hget
          cases hget
          exact absurd hkey Json.not_keyAt_str
        · rw [get?_of_textField hreference] at hget
          cases hget
          exact absurd hkey Json.not_keyAt_str
  | null => cases h
  | bool b => cases h
  | number n => cases h
  | str s => cases h
  | arr items => cases h

/-- **A valid payload has only the field names of its request models as keys.** -/
theorem keyAt_of_accepted {fields : List (String × Json)}
    (hdistinct : (Json.obj fields).DistinctKeys) {command : ControlPlaneCommand}
    (h : AcceptsPayload case (Dict.ofPairs fields) command) {key : String}
    (hkey : (Json.obj fields).KeyAt key) : key ∈ command.fieldNames := by
  cases hdistinct with
  | obj hnodup hfields =>
      cases command with
      | login =>
          obtain ⟨accepted, h⟩ := h
          obtain ⟨⟨⟩, hextra, hrest⟩ := bind_eq_ok_iff.1 h
          obtain ⟨text, htext, -⟩ := bind_eq_ok_iff.1 hrest
          exact keyAt_of_one_text hnodup hextra htext hkey
      | joinOrganization =>
          obtain ⟨accepted, h⟩ := h
          obtain ⟨⟨⟩, hextra, hrest⟩ := bind_eq_ok_iff.1 h
          obtain ⟨text, htext, -⟩ := bind_eq_ok_iff.1 hrest
          exact keyAt_of_one_text hnodup hextra htext hkey
      | reviewOnboarding =>
          obtain ⟨accepted, h⟩ := h
          exact keyAt_of_idCommand hnodup h hkey
      | viewOnboardingReview =>
          obtain ⟨accepted, h⟩ := h
          exact keyAt_of_idCommand hnodup h hkey
      | provision =>
          obtain ⟨accepted, h⟩ := h
          exact keyAt_of_idCommand hnodup h hkey
      | onboardOrganization =>
          obtain ⟨start, h⟩ := h
          obtain ⟨⟨⟩, hextra, hrest⟩ := bind_eq_ok_iff.1 h
          obtain ⟨name, hname, hrest⟩ := bind_eq_ok_iff.1 hrest
          obtain ⟨boundary, hboundary, -⟩ := bind_eq_ok_iff.1 hrest
          rcases keyAt_of_forbidExtra hnodup hextra hkey with
            hmem | ⟨field, hfield, value, hget, hkey⟩
          · rcases List.mem_pair.1 hmem with rfl | rfl
            · simp [ControlPlaneCommand.fieldNames]
            · simp [ControlPlaneCommand.fieldNames]
          · rcases List.mem_pair.1 hfield with rfl | rfl
            · rw [get?_of_textField hname] at hget
              cases hget
              exact absurd hkey Json.not_keyAt_str
            · rw [hget, Option.getD_some] at hboundary
              have hvalue : value.DistinctKeys :=
                hfields _ (Dict.mem_of_get?_ofPairs hget)
              have hmem := keyAt_of_identityBoundary hvalue hboundary hkey
              rcases List.mem_pair.1 hmem with rfl | rfl
              · simp [ControlPlaneCommand.fieldNames]
              · simp [ControlPlaneCommand.fieldNames]

/-! ### The filter and the request models -/

/-- A key in ASCII names authority exactly if a fragment occurs in its lowered letters. -/
theorem namesAuthority_of_ascii {key : String} (h : isAscii key = true) :
    NamesAuthority case key =
      authorityKeyFragments.any fun fragment => containsText fragment (asciiLower key) := by
  unfold NamesAuthority
  rw [case.ascii key h]

/-- No field name names authority, except for that of `/join-org`. -/
theorem fieldNames_plain {command : ControlPlaneCommand} (h : command ≠ .joinOrganization) :
    ∀ name ∈ command.fieldNames, NamesAuthority case name = false := by
  have hplain : ∀ name ∈ ["email", "organization_name", "identity_boundary", "kind", "reference",
      "request_id", "scope_id"], isAscii name = true ∧
        (authorityKeyFragments.any fun fragment => containsText fragment (asciiLower name)) =
          false := by
    decide +kernel
  intro name hname
  have hmem : name ∈ ["email", "organization_name", "identity_boundary", "kind", "reference",
      "request_id", "scope_id"] := by
    cases command with
    | joinOrganization => exact absurd rfl h
    | login => revert hname; revert name; decide
    | onboardOrganization => revert hname; revert name; decide
    | reviewOnboarding => revert hname; revert name; decide
    | viewOnboardingReview => revert hname; revert name; decide
    | provision => revert hname; revert name; decide
  rw [namesAuthority_of_ascii (hplain name hmem).1]
  exact (hplain name hmem).2

theorem invitationToken_namesAuthority : NamesAuthority case "invitation_token" = true := by
  rw [namesAuthority_of_ascii (by decide)]
  decide

variable (case) in
/-- The payloads of the command that a request can carry and its request model accepts. -/
def ValidPayload (command : ControlPlaneCommand) (fields : List (String × Json)) : Prop :=
  (Json.obj fields).DistinctKeys ∧ AcceptsPayload case (Dict.ofPairs fields) command

/-- A valid payload passes the filter, unless it is one of `/join-org`. -/
theorem passes_of_valid {command : ControlPlaneCommand} (hcommand : command ≠ .joinOrganization)
    {fields : List (String × Json)} (h : ValidPayload case command fields) :
    findAuthorityKey case (.obj fields) = none := by
  rw [findAuthorityKey_eq_none_iff]
  intro key hkey
  exact fieldNames_plain hcommand key (keyAt_of_accepted h.1 h.2 hkey)

/-- No payload that `/join-org` accepts passes the filter. -/
theorem refused_of_accepted_join {fields : List (String × Json)}
    {acceptance : OrganizationInvitationAcceptance}
    (h : organizationInvitationAcceptance (Dict.ofPairs fields) = .ok acceptance) :
    findAuthorityKey case (.obj fields) ≠ none := by
  obtain ⟨⟨⟩, -, hrest⟩ := bind_eq_ok_iff.1 h
  obtain ⟨token, htoken, -⟩ := bind_eq_ok_iff.1 hrest
  have hmem := Dict.mem_of_get?_ofPairs (get?_of_textField htoken)
  exact find_ne_none_of_keyAt (.here hmem) invitationToken_namesAuthority

/-- No valid payload of `/join-org` passes the filter. -/
theorem refused_of_valid_join {fields : List (String × Json)}
    (h : ValidPayload case .joinOrganization fields) :
    findAuthorityKey case (.obj fields) ≠ none := by
  obtain ⟨-, acceptance, hvalid⟩ := h
  exact refused_of_accepted_join hvalid

/-- A payload of each command. -/
def samplePayload : ControlPlaneCommand → List (String × Json)
  | .login => [("email", .str "alice@example.com")]
  | .onboardOrganization =>
      [("organization_name", .str "Acme"),
        ("identity_boundary", .obj [("kind", .str "domain"), ("reference", .str "acme.example")])]
  | .reviewOnboarding => [("request_id", .str "orgreq_1")]
  | .viewOnboardingReview => [("request_id", .str "orgreq_1")]
  | .joinOrganization => [("invitation_token", .str "0123456789abcdef0123456789abcdef")]
  | .provision => [("scope_id", .str "scope_01")]

theorem textField_of_fits {model field : String} {P : String → Prop} [DecidablePred P]
    {payload : Dict String Json} {text : String} (hget : payload.get? field = some (.str text))
    (h : P text) : textField model field P payload = .ok ⟨text, h⟩ := by
  unfold textField
  rw [hget]
  exact dif_pos h

theorem distinctKeys_one_text (key text : String) :
    (Json.obj [(key, .str text)]).DistinctKeys := by
  refine .obj (List.nodup_singleton key) fun field hfield => ?_
  rw [List.mem_singleton.1 hfield]
  exact .str text

theorem idCommand_of_fits (model field : String) {id : String} (h : 8 ≤ id.length) :
    ∃ command, idCommand model field (Dict.ofPairs [(field, .str id)]) = .ok command := by
  have hget : (Dict.ofPairs [(field, Json.str id)]).get? field = some (.str id) := by
    simp [Dict.get?_ofPairs]
  have hextra : forbidExtra model [field] (Dict.ofPairs [(field, Json.str id)]) = .ok () := by
    simp [forbidExtra, Dict.ofPairs, Dict.set, Dict.setEntries, Dict.empty]
  exact ⟨⟨id, h⟩, bind_eq_ok_iff.2 ⟨(), hextra, bind_eq_ok_iff.2
    ⟨⟨id, h⟩, textField_of_fits hget h, rfl⟩⟩⟩

/-- The payload of each command is valid. -/
theorem samplePayload_valid (command : ControlPlaneCommand) :
    ValidPayload case command (samplePayload command) := by
  cases command with
  | login => exact ⟨distinctKeys_one_text _ _, _, rfl⟩
  | reviewOnboarding => exact ⟨distinctKeys_one_text _ _, idCommand_of_fits _ _ (by decide)⟩
  | viewOnboardingReview => exact ⟨distinctKeys_one_text _ _, idCommand_of_fits _ _ (by decide)⟩
  | joinOrganization => exact ⟨distinctKeys_one_text _ _, _, rfl⟩
  | provision => exact ⟨distinctKeys_one_text _ _, idCommand_of_fits _ _ (by decide)⟩
  | onboardOrganization =>
      refine ⟨.obj (by decide) fun field hfield => ?_, _, rfl⟩
      rcases List.mem_pair.1 hfield with rfl | rfl
      · exact .str _
      · refine .obj (by decide) fun field hfield => ?_
        rcases List.mem_pair.1 hfield with rfl | rfl
        · exact .str _
        · exact .str _

/-- **The filter and the request models agree on every command but `/join-org`.**  The filter
reports a key exactly if the value has one at some depth that names authority; every valid payload
of a command passes it, and the command has a payload that is valid and passes, unless the command
is `/join-org`. -/
theorem filter_admits_iff (case : CaseMapping) (command : ControlPlaneCommand) :
    (∀ v : Json, (∃ key, findAuthorityKey case v = some key) ↔
        ∃ key, v.KeyAt key ∧ NamesAuthority case key = true) ∧
      ((∀ fields, ValidPayload case command fields →
          findAuthorityKey case (.obj fields) = none) ↔ command ≠ .joinOrganization) ∧
      ((∃ fields, ValidPayload case command fields ∧ findAuthorityKey case (.obj fields) = none) ↔
        command ≠ .joinOrganization) := by
  refine ⟨fun v => ?_, ?_, ?_⟩
  · constructor
    · rintro ⟨key, hkey⟩
      exact ⟨key, keyAt_of_find v hkey⟩
    · rintro ⟨key, hat, hnames⟩
      exact Option.ne_none_iff_exists'.1 (find_ne_none_of_keyAt hat hnames)
  · constructor
    · rintro h rfl
      have hvalid : ValidPayload case .joinOrganization (samplePayload .joinOrganization) :=
        samplePayload_valid .joinOrganization
      exact refused_of_valid_join hvalid (h _ hvalid)
    · intro hcommand fields hvalid
      exact passes_of_valid hcommand hvalid
  · constructor
    · rintro ⟨fields, hvalid, hpasses⟩ rfl
      exact refused_of_valid_join hvalid hpasses
    · intro hcommand
      have hvalid : ValidPayload case command (samplePayload command) :=
        samplePayload_valid command
      exact ⟨_, hvalid, passes_of_valid hcommand hvalid⟩

/-- **The filter shuts `/join-org` off**: this payload is valid, and is refused for the one field it
must have. -/
theorem join_payload_refused :
    ValidPayload .asciiOnly .joinOrganization (samplePayload .joinOrganization) ∧
      findAuthorityKey .asciiOnly (.obj (samplePayload .joinOrganization)) =
        some "invitation_token" := by
  refine ⟨samplePayload_valid .joinOrganization, ?_⟩
  rw [findAuthorityKey, samplePayload, findAuthorityKeyIn, if_pos invitationToken_namesAuthority]

end PlatformOps
