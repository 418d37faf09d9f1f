/-
**The answers of an identity provider.**

A client that logs a user in reads what the identity provider tells about itself, the device code it
gives, and the tokens.  The identity in a token counts only if the token is verified: with a key of
the provider, by an algorithm that is allowed, for the issuer and the audience that are expected.
The groups of a user give grants to approve, and never grants to execute.

Main definitions:

* `OIDCDeviceClientConfig`, `OIDCProviderMetadata`, `DeviceAuthorization`, `TokenSet` — what a client
  is configured with and what the provider answers;
* `discoverOidcMetadata`, `beginDeviceAuthorization`, `pollDeviceToken` — how the answers are read;
* `parseIdToken`, `Verifies` — the identity in a token, and what it is for it to be verified;
* `resolveGroupGrants`, `issueActorSession` — the grants and the session of a user.

Main results:

* `parseIdToken_eq_ok_iff` — **an identity is accepted exactly if its token is verified**;
* `resolveGroupGrants_eq` — the grants are those of the groups.
-/

import Mathlib.Data.List.DropRight
import PlatformOps.Registration

set_option relaxedAutoImplicit false
set_option autoImplicit false

namespace PlatformOps

/-! ### What is configured, and what is answered -/

/-- What the client is configured with. -/
structure OIDCDeviceClientConfig where
  issuer : String
  clientId : String
  audience : String
  scopes : List String

/-- What a provider tells about itself. -/
structure OIDCProviderMetadata where
  issuer : String
  tokenEndpoint : String
  jwksUri : String
  deviceAuthorizationEndpoint : Option String

/-- A device code. -/
structure DeviceAuthorization where
  deviceCode : String
  userCode : String
  verificationUri : String
  verificationUriComplete : Option String
  expiresIn : ℤ
  interval : ℤ

/-- The tokens of a user. -/
structure TokenSet where
  accessToken : String
  idToken : String
  tokenType : String
  expiresIn : Option ℤ
  refreshToken : Option String
  scope : Option String

/-- The verified identity of a user. -/
structure OIDCClaims where
  sub : String
  email : String
  groups : List String
  oid : Option String

/-- What a login raises. -/
inductive LoginFault
  /-- What the network, the file system or the libraries raise. -/
  | external (detail : String)
  | typeError
  | attributeError (name : String)
  | overflowError (detail : String)
  | keyError (key : String)
  | validationError (error : ValidationError)
  | pending
  | slowDown
  | denied
  | expired
  /-- `device token request failed`, with what the provider answered. -/
  | requestFailed (error : Json)
  | invalidToken (detail : String)
  | invalidAlgorithm (detail : String)
  | timeout (detail : String)

/-- A key of a provider. -/
structure PyJWK (Key : Type) where
  keyId : Json
  algorithmName : String
  key : Key

/-- What the client takes from its libraries. -/
structure LoginLibrary where
  Key : Type
  /-- The `kid` of the header of a token. -/
  unverifiedKid : String → Except LoginFault (Option String)
  /-- `PyJWKSet.from_dict`. -/
  keySet : Json → Except LoginFault (List (PyJWK Key))
  /-- `jwt.decode` with a key, algorithms, an issuer and an audience. -/
  decode : String → Key → List String → String → String → Except LoginFault (Dict String Json)
  /-- The values that are accepted for an integer. -/
  toInt : Json → Option ℤ
  repr : String → String

/-! ### How the answers are read -/

/-- A field that is a text. -/
def requiredText (model field : String) : Option Json → Except LoginFault String
  | some (.str text) => .ok text
  | _ => .error (.validationError ⟨model, field⟩)

/-- A field that is a text or `None`, which it is by default. -/
def optionalText (model field : String) : Option Json → Except LoginFault (Option String)
  | none | some .null => .ok none
  | some (.str text) => .ok (some text)
  | _ => .error (.validationError ⟨model, field⟩)

/-- The items of a list, if all are texts. -/
def textItems (model field : String) : List Json → Except LoginFault (List String)
  | [] => .ok []
  | .str text :: items => (textItems model field items).map (text :: ·)
  | _ :: _ => .error (.validationError ⟨model, field⟩)

/-- The value of a key that has to be there. -/
def requireKey (fields : Dict String Json) (key : String) : Except LoginFault Json :=
  match fields.get? key with
  | some value => .ok value
  | none => .error (.keyError key)

section

variable (lib : LoginLibrary)

/-- A field that is an integer. -/
def requiredInt (model field : String) (value : Option Json) : Except LoginFault ℤ :=
  match value.bind lib.toInt with
  | some n => .ok n
  | none => .error (.validationError ⟨model, field⟩)

/-- A field that is an integer or `None`, which it is by default. -/
def optionalInt (model field : String) : Option Json → Except LoginFault (Option ℤ)
  | none | some .null => .ok none
  | some value => (requiredInt lib model field (some value)).map some

/-- The text without the slashes at its end. -/
def rstripSlash (text : String) : String := String.ofList (text.toList.rdropWhile (· = '/'))

/-- Where a provider tells about itself. -/
def discoveryUrl (issuer : String) : String :=
  rstripSlash issuer ++ "/.well-known/openid-configuration"

/-- `discover_oidc_metadata`, from what was fetched. -/
def discoverOidcMetadata (data : Json) : Except LoginFault OIDCProviderMetadata :=
  match data.asObject with
  | none => .error .typeError
  | some fields => do
      let issuer ← requireKey fields "issuer"
      let tokenEndpoint ← requireKey fields "token_endpoint"
      let jwksUri ← requireKey fields "jwks_uri"
      let issuer ← requiredText "OIDCProviderMetadata" "issuer" (some issuer)
      let tokenEndpoint ← requiredText "OIDCProviderMetadata" "token_endpoint" (some tokenEndpoint)
      let jwksUri ← requiredText "OIDCProviderMetadata" "jwks_uri" (some jwksUri)
      let endpoint ← optionalText "OIDCProviderMetadata" "device_authorization_endpoint"
        (fields.get? "device_authorization_endpoint")
      pure ⟨issuer, tokenEndpoint, jwksUri, endpoint⟩

/-- `authentik_device_endpoint`. -/
def authentikDeviceEndpoint (issuer : String) : String :=
  rstripSlash issuer ++ "/application/o/device/"

/-- `authentik_token_endpoint`. -/
def authentikTokenEndpoint (issuer : String) : String :=
  rstripSlash issuer ++ "/application/o/token/"

/-- Where a device code is asked for: where the provider says, if it says so. -/
def deviceEndpoint (config : OIDCDeviceClientConfig) (metadata : Option OIDCProviderMetadata) :
    String :=
  match metadata.bind OIDCProviderMetadata.deviceAuthorizationEndpoint with
  | some endpoint => if endpoint = "" then authentikDeviceEndpoint config.issuer else endpoint
  | none => authentikDeviceEndpoint config.issuer

/-- What is posted for a device code. -/
def deviceForm (config : OIDCDeviceClientConfig) : List (String × String) :=
  [("client_id", config.clientId), ("scope", " ".intercalate config.scopes)]

/-- `begin_device_authorization`, from what was answered. -/
def beginDeviceAuthorization (data : Json) : Except LoginFault DeviceAuthorization :=
  match data.asObject with
  | none => .error .typeError
  | some fields => do
      let deviceCode ← requiredText "DeviceAuthorization" "device_code" (fields.get? "device_code")
      let userCode ← requiredText "DeviceAuthorization" "user_code" (fields.get? "user_code")
      let verificationUri ← requiredText "DeviceAuthorization" "verification_uri"
        (fields.get? "verification_uri")
      let complete ← optionalText "DeviceAuthorization" "verification_uri_complete"
        (fields.get? "verification_uri_complete")
      let expiresIn ← requiredInt lib "DeviceAuthorization" "expires_in" (fields.get? "expires_in")
      let interval ← match fields.get? "interval" with
        | none => .ok 5
        | some value => requiredInt lib "DeviceAuthorization" "interval" (some value)
      pure ⟨deviceCode, userCode, verificationUri, complete, expiresIn, interval⟩

/-- `DEVICE_CODE_GRANT`. -/
def deviceCodeGrant : String := "urn:ietf:params:oauth:grant-type:device_code"

/-- Where tokens are asked for. -/
def tokenEndpointOf (config : OIDCDeviceClientConfig) (metadata : Option OIDCProviderMetadata) :
    String :=
  match metadata with
  | some metadata => metadata.tokenEndpoint
  | none => authentikTokenEndpoint config.issuer

/-- What is posted for tokens. -/
def tokenForm (config : OIDCDeviceClientConfig) (deviceCode : String) : List (String × String) :=
  [("grant_type", deviceCodeGrant), ("client_id", config.clientId), ("device_code", deviceCode)]

/-- `TokenSet(**data)`. -/
def tokenSet (fields : Dict String Json) : Except LoginFault TokenSet := do
  let accessToken ← requiredText "TokenSet" "access_token" (fields.get? "access_token")
  let idToken ← requiredText "TokenSet" "id_token" (fields.get? "id_token")
  let tokenType ← requiredText "TokenSet" "token_type" (fields.get? "token_type")
  let expiresIn ← optionalInt lib "TokenSet" "expires_in" (fields.get? "expires_in")
  let refreshToken ← optionalText "TokenSet" "refresh_token" (fields.get? "refresh_token")
  let scope ← optionalText "TokenSet" "scope" (fields.get? "scope")
  pure ⟨accessToken, idToken, tokenType, expiresIn, refreshToken, scope⟩

/-- `poll_device_token`, from what was answered. -/
def pollDeviceToken (data : Json) : Except LoginFault TokenSet :=
  match data.asObject with
  | none => .error (.attributeError "get")
  | some fields =>
      let error := (fields.get? "error").getD .null
      if error.asString = some "authorization_pending" then .error .pending
      else if error.asString = some "slow_down" then .error .slowDown
      else if error.asString = some "access_denied" then .error .denied
      else if error.asString = some "expired_token" then .error .expired
      else if error.truthy then .error (.requestFailed error)
      else tokenSet lib fields

/-! ### The verified identity -/

/-- `ALLOWED_ALGORITHMS`, sorted. -/
def allowedAlgorithms : List String := ["ES256", "RS256"]

/-- The id of a key is the one of the header: a missing one is `None`, and so is `null`. -/
def keyIdMatches : Json → Option String → Bool
  | .null, none => true
  | .str keyId, some kid => keyId = kid
  | _, _ => false

/-- The id of a key as it is written in an error. -/
def kidText (kid : Option String) : String := (kid.map lib.repr).getD "None"

/-- `OIDCClaims` from the payload of a token. -/
def oidcClaims (payload : Dict String Json) : Except LoginFault OIDCClaims :=
  let email := (payload.get? "email").getD .null
  if email.truthy then do
    let sub ← requireKey payload "sub"
    let sub ← requiredText "OIDCClaims" "sub" (some sub)
    let email ← requiredText "OIDCClaims" "email" (some email)
    let groups ← match (payload.get? "groups").getD (.arr []) with
      | .arr items => textItems "OIDCClaims" "groups" items
      | _ => .error (.validationError ⟨"OIDCClaims", "groups"⟩)
    let oid ← optionalText "OIDCClaims" "oid" (payload.get? "oid")
    pure ⟨sub, email, groups, oid⟩
  else .error (.invalidToken "id token is missing the required 'email' claim")

/-- `parse_id_token`. -/
def parseIdToken (token : String) (jwks : Json) (issuer audience : String) :
    Except LoginFault OIDCClaims := do
  let kid ← lib.unverifiedKid token
  let keys ← lib.keySet jwks
  match keys.find? fun key => keyIdMatches key.keyId kid with
  | none => .error (.invalidToken ("no key in jwks matches kid=" ++ kidText lib kid))
  | some key =>
      if key.algorithmName ∈ allowedAlgorithms then do
        let payload ← lib.decode token key.key [key.algorithmName] issuer audience
        oidcClaims payload
      else
        .error (.invalidAlgorithm ("kid=" ++ kidText lib kid ++ " declares alg=" ++
          lib.repr key.algorithmName ++ ", not in the allowed set ['ES256', 'RS256']"))

/-- What it is for a token to be verified: the first key with the id of its header has an algorithm
that is allowed, and with it the library decodes the token for the issuer and the audience. -/
def Verifies (token : String) (jwks : Json) (issuer audience : String) (claims : OIDCClaims) :
    Prop :=
  ∃ kid keys key payload, lib.unverifiedKid token = .ok kid ∧ lib.keySet jwks = .ok keys ∧
    (keys.find? fun key => keyIdMatches key.keyId kid) = some key ∧
    key.algorithmName ∈ allowedAlgorithms ∧
    lib.decode token key.key [key.algorithmName] issuer audience = .ok payload ∧
    oidcClaims payload = .ok claims

/-- **An identity is accepted exactly if its token is verified.** -/
theorem parseIdToken_eq_ok_iff {token : String} {jwks : Json} {issuer audience : String}
    {claims : OIDCClaims} :
    parseIdToken lib token jwks issuer audience = .ok claims ↔
      Verifies lib token jwks issuer audience claims := by
  constructor
  · intro h
    obtain ⟨kid, hkid, h⟩ := bind_eq_ok_iff.1 h
    obtain ⟨keys, hkeys, h⟩ := bind_eq_ok_iff.1 h
    cases hfind : keys.find? fun key => keyIdMatches key.keyId kid with
    | none =>
        rw [hfind] at h
        cases h
    | some key =>
        rw [hfind] at h
        dsimp only at h
        by_cases halgorithm : key.algorithmName ∈ allowedAlgorithms
        · rw [if_pos halgorithm] at h
          obtain ⟨payload, hdecode, hclaims⟩ := bind_eq_ok_iff.1 h
          exact ⟨kid, keys, key, payload, hkid, hkeys, hfind, halgorithm, hdecode, hclaims⟩
        · rw [if_neg halgorithm] at h
          cases h
  · rintro ⟨kid, keys, key, payload, hkid, hkeys, hfind, halgorithm, hdecode, hclaims⟩
    refine bind_eq_ok_iff.2 ⟨kid, hkid, bind_eq_ok_iff.2 ⟨keys, hkeys, ?_⟩⟩
    rw [hfind]
    dsimp only
    rw [if_pos halgorithm]
    exact bind_eq_ok_iff.2 ⟨payload, hdecode, hclaims⟩

/-- The issuer that a token has to name. -/
def expectedIssuer (config : OIDCDeviceClientConfig) (issuer : String) : String :=
  if issuer = "" then config.issuer else issuer

/-- `parse_device_id_token`: the issuer is the one that was discovered, if it is not empty. -/
def parseDeviceIdToken (tokens : TokenSet) (jwks : Json) (config : OIDCDeviceClientConfig)
    (issuer : String) : Except LoginFault OIDCClaims :=
  parseIdToken lib tokens.idToken jwks (expectedIssuer config issuer) config.audience

end

/-! ### Grants and sessions -/

/-- A grant to approve. -/
structure ApprovalGrant where
  scope : Scope
  maxCapability : Capability
  deriving DecidableEq

/-- A group whose members may approve.  No other type of grant is supported. -/
structure GroupGrantMapping where
  group : String
  grantType : String
  scope : Scope
  capability : Capability
  grantType_eq : grantType = "approval"

/-- The grants of a user, and why they have them. -/
structure GrantResolution where
  executionGrants : List ExecutionGrant
  approvalGrants : List ApprovalGrant
  evidence : List String

/-- A part of a scope, or what stands for all of them. -/
def orStar : Option String → String
  | some part => if part = "" then "*" else part
  | none => "*"

/-- Why the members of a group have a grant. -/
def GroupGrantMapping.evidence (lib : LoginLibrary) (mapping : GroupGrantMapping) : String :=
  "group " ++ lib.repr mapping.group ++ " resolved to approval grant for " ++ mapping.scope.org ++
    ":" ++ mapping.scope.bu ++ "/" ++ orStar mapping.scope.project ++ "/" ++
    orStar mapping.scope.workspace

/-- `resolve_group_grants`. -/
def resolveGroupGrants (lib : LoginLibrary) (groups : List String)
    (mappings : List GroupGrantMapping) : GrantResolution :=
  mappings.foldl (fun result mapping =>
    if mapping.group ∈ groups then
      { result with
        approvalGrants := result.approvalGrants ++ [⟨mapping.scope, mapping.capability⟩]
        evidence := result.evidence ++ [mapping.evidence lib] }
    else result) ⟨[], [], []⟩

/-- A session as it is issued: what others read of it, and the rest. -/
structure IssuedActorSession where
  session : ActorSession
  approvalGrants : List ApprovalGrant
  groups : List String
  resolvedAt : ℕ
  createdAt : ℕ
  deriving DecidableEq

/-- `build_actor_session`, with grants. -/
def issueActorSession (claims : OIDCClaims) (executionGrants : List ExecutionGrant)
    (approvalGrants : List ApprovalGrant) (sessionId : String) (issuedAt : ℕ) : IssuedActorSession where
  session := ⟨sessionId, ⟨claims.sub, claims.email, executionGrants⟩, issuedAt + 3600 * second⟩
  approvalGrants := approvalGrants
  groups := claims.groups
  resolvedAt := issuedAt
  createdAt := issuedAt

/-- **The grants are those of the groups**, in the order of the mappings, and none of them is one to
execute. -/
theorem resolveGroupGrants_eq (lib : LoginLibrary) (groups : List String)
    (mappings : List GroupGrantMapping) :
    resolveGroupGrants lib groups mappings =
      ⟨[], (mappings.filter (·.group ∈ groups)).map fun m => ⟨m.scope, m.capability⟩,
        (mappings.filter (·.group ∈ groups)).map fun m => m.evidence lib⟩ := by
  unfold resolveGroupGrants
  induction mappings using List.reverseRecOn with
  | nil => rfl
  | append_singleton mappings mapping ih =>
      rw [List.foldl_concat, ih, List.filter_append]
      by_cases hmember : mapping.group ∈ groups
      · rw [if_pos hmember]
        simp [hmember]
      · rw [if_neg hmember]
        simp [hmember]

end PlatformOps
