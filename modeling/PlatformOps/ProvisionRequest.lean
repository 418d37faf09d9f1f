/-
**Preparing a provision request.**

The first slice of the provision workflow changes nothing: it resolves the scope of the request
against the known workspaces and the caller's grants, lets the model select a profile, and lets it
extract the request's fields.  It stops at the first node that asks a question or finds the target
unavailable.

Main definitions:

* `Scope`, `ScopeHint`, `Capability`, `ExecutionGrant` — targets and grants;
* `resolveExecutionCapability`, `resolveScope` — the grants that match a scope, and its resolution;
* `selectProfile`, `extractProfileRequest`, `prepareProvisionRequest` — the nodes and the workflow.

Main results:

* `resolveScope_eq_resolved_iff` — a scope is resolved exactly if it is complete, known and granted;
* `prepareProvisionRequest_cases` — **a draft asks one question, is unavailable, or is a request for
  a known scope the caller has a grant for**.
-/

import PlatformOps.Intake

set_option relaxedAutoImplicit false
set_option autoImplicit false

namespace PlatformOps

/-! ### Scopes and grants -/

/-- A target. -/
structure Scope where
  org : String
  bu : String
  project : Option String
  workspace : Option String
  deriving DecidableEq

/-- The tenant of a run. -/
structure TenantRef where
  org : String
  bu : String
  orgNonempty : org ≠ ""
  buNonempty : bu ≠ ""
  deriving DecidableEq

/-- The tenant that has a policy. -/
def aiqTenant : TenantRef := ⟨"aiq", "it", by decide, by decide⟩

/-- The organization and the business unit of a tenant. -/
def TenantRef.orgBu (t : TenantRef) : String := t.org ++ ":" ++ t.bu

/-- A target as a user interface gives it. -/
structure ScopeHint where
  tenant : TenantRef
  project : Option String
  workspace : Option String
  deriving DecidableEq

/-- The capability ladder. -/
inductive Capability
  | none
  | describe
  | plan
  | proposeChange
  | applyLimited
  | applyFull
  | admin
  deriving DecidableEq

/-- The place of a capability on the ladder. -/
def Capability.rank : Capability → ℕ
  | .none => 0
  | .describe => 1
  | .plan => 2
  | .proposeChange => 3
  | .applyLimited => 4
  | .applyFull => 5
  | .admin => 6

/-- The lower of two capabilities. -/
def Capability.min (c d : Capability) : Capability := if c.rank ≤ d.rank then c else d

/-- What a provider lets an actor do on a scope. -/
structure ExecutionGrant where
  scope : Scope
  provider : String
  capability : Capability
  deriving DecidableEq

/-- A part of a stored scope that matches anything. -/
def isWildcard (part : Option String) : Bool := part = none ∨ part = some "*"

/-- How many parts of a stored scope are exact. -/
def specificity (scope : Scope) : ℕ :=
  (if isWildcard scope.project then 0 else 1) + (if isWildcard scope.workspace then 0 else 1)

/-- A stored scope matches a queried one. -/
def scopeMatches (entry query : Scope) : Bool :=
  entry.org = query.org && entry.bu = query.bu &&
    (isWildcard entry.project || entry.project = query.project) &&
    (isWildcard entry.workspace || entry.workspace = query.workspace)

/-- The lowest capability among the most specific grants that match a scope. -/
def resolveExecutionCapability (scope : Scope) (grants : List ExecutionGrant) : Capability :=
  match grants.filter fun g => scopeMatches g.scope scope with
  | [] => .none
  | first :: rest =>
      let top := rest.foldl (fun n g => max n (specificity g.scope)) (specificity first.scope)
      let tied := (first :: rest).filter fun g => specificity g.scope = top
      tied.foldl (fun c g => c.min g.capability) .admin

/-! ### Resolving the scope -/

/-- How a scope hint is resolved. -/
inductive ScopeResolution
  | resolved (scope : Scope)
  | clarificationRequired (question : ClarificationQuestion)
  | unavailable (reason : String)
  deriving DecidableEq

/-- The question about the scope. -/
def scopeQuestion : ClarificationQuestion :=
  ⟨"scope", "Select the project and workspace for this request.", []⟩

/-- What is said of a target that does not exist or is not granted. -/
def targetUnavailable : String := "target not found or not accessible"

/-- The scope a complete hint names. -/
def ScopeHint.scope (hint : ScopeHint) : Scope :=
  ⟨hint.tenant.org, hint.tenant.bu, hint.project, hint.workspace⟩

/-- Resolve an exact workspace that is known and granted, or ask for what is missing. -/
def resolveScope (hint : ScopeHint) (known : List Scope) (grants : List ExecutionGrant) :
    ScopeResolution :=
  if hint.project = none ∨ hint.workspace = none then .clarificationRequired scopeQuestion
  else if hint.scope ∉ known ∨ resolveExecutionCapability hint.scope grants = .none then
    .unavailable targetUnavailable
  else .resolved hint.scope

theorem resolveScope_eq_resolved_iff {hint : ScopeHint} {known : List Scope}
    {grants : List ExecutionGrant} {scope : Scope} :
    resolveScope hint known grants = .resolved scope ↔
      hint.project ≠ none ∧ hint.workspace ≠ none ∧ scope = hint.scope ∧ scope ∈ known ∧
        resolveExecutionCapability scope grants ≠ .none := by
  unfold resolveScope
  by_cases hpart : hint.project = none ∨ hint.workspace = none
  · rw [if_pos hpart]
    constructor
    · intro h
      cases h
    · rintro ⟨hproject, hworkspace, -⟩
      exact absurd hpart (by simp [hproject, hworkspace])
  · rw [if_neg hpart]
    push Not at hpart
    by_cases hno : hint.scope ∉ known ∨ resolveExecutionCapability hint.scope grants = .none
    · rw [if_pos hno]
      constructor
      · intro h
        cases h
      · rintro ⟨-, -, rfl, hmem, hcap⟩
        exact absurd hno (by simp [hmem, hcap])
    · rw [if_neg hno]
      push Not at hno
      constructor
      · intro h
        cases h
        exact ⟨hpart.1, hpart.2, rfl, hno.1, hno.2⟩
      · rintro ⟨-, -, rfl, -, -⟩
        rfl

/-- One reason is given for an unknown target and for one that is not granted. -/
theorem eq_targetUnavailable {hint : ScopeHint} {known : List Scope} {grants : List ExecutionGrant}
    {reason : String} (h : resolveScope hint known grants = .unavailable reason) :
    reason = targetUnavailable := by
  unfold resolveScope at h
  split at h
  · cases h
  · split at h
    · cases h
      rfl
    · cases h

/-! ### Requests and drafts -/

/-- A request handed to the provision workflow. -/
structure ProvisionInvocation where
  rawText : String
  scopeHint : ScopeHint
  nonempty : rawText ≠ ""
  deriving DecidableEq

/-- Build an invocation; an empty text fails validation. -/
def provisionInvocation (rawText : String) (scopeHint : ScopeHint) :
    Except Fault ProvisionInvocation :=
  if h : rawText ≠ "" then .ok ⟨rawText, scopeHint, h⟩
  else .error (.validationError "ProvisionInvocation" "raw_text")

/-- The only profile there is. -/
def awsStaticWeb : String := "aws-static-web"

/-- The request of the static web profile. -/
structure AwsStaticWebProvisionRequest where
  profileId : String
  scope : Scope
  frontendArtifactUri : String
  frontendHostname : String
  profileLiteral : profileId = awsStaticWeb
  artifactNonempty : frontendArtifactUri ≠ ""
  hostnameNonempty : frontendHostname ≠ ""
  deriving DecidableEq

/-- Validate the fields of a request: two strings that are not empty, on a scope; the profile is the
default. -/
def applicationRequest (scope : Option Scope) (artifact hostname : Option Json) :
    Option AwsStaticWebProvisionRequest :=
  match scope, artifact, hostname with
  | some scope, some (.str artifact), some (.str hostname) =>
      if h : artifact ≠ "" ∧ hostname ≠ "" then
        some ⟨awsStaticWeb, scope, artifact, hostname, rfl, h.1, h.2⟩
      else none
  | _, _, _ => none

/-- What the workflow has prepared so far. -/
structure ProvisionDraft where
  scope : Option Scope
  profileId : Option String
  applicationRequest : Option AwsStaticWebProvisionRequest
  clarificationQuestions : List ClarificationQuestion
  unavailableReason : Option String
  deriving DecidableEq

/-- The draft with the defaults of every field. -/
def ProvisionDraft.blank : ProvisionDraft := ⟨none, none, none, [], none⟩

/-- The draft asks this question instead of going on. -/
def ProvisionDraft.ask (draft : ProvisionDraft) (question : ClarificationQuestion) :
    ProvisionDraft :=
  { draft with clarificationQuestions := [question] }

/-- `continue_if_ready` stops at this draft. -/
def ProvisionDraft.stops (draft : ProvisionDraft) : Bool :=
  !draft.clarificationQuestions.isEmpty || draft.unavailableReason.getD "" ≠ ""

/-! ### The nodes -/

/-- The first node: the scope of the request. -/
def resolveScopeNode (known : List Scope) (grants : List ExecutionGrant)
    (invocation : ProvisionInvocation) : ProvisionDraft :=
  match resolveScope invocation.scopeHint known grants with
  | .resolved scope => { ProvisionDraft.blank with scope := some scope }
  | .clarificationRequired question => ProvisionDraft.blank.ask question
  | .unavailable reason => { ProvisionDraft.blank with unavailableReason := some reason }

/-- The prompt of the profile selection. -/
def profilePrompt (rawText : String) : List (String × String) :=
  [("system",
    "Select exactly one reviewed deployment profile. The only available profile is " ++
      "aws-static-web. Call select_deployment_profile exactly once; do not provide units, " ++
      "edges, credentials, account IDs, or infrastructure code."),
    ("user", rawText)]

/-- The question about the profile. -/
def profileQuestion : ClarificationQuestion :=
  ⟨"profile_id", "Select a supported deployment profile.", [awsStaticWeb]⟩

/-- A valid profile selection: an object that names the profile. -/
def isProfileSelection (v : Json) : Bool :=
  match v.asObject with
  | some fields => (fields.get? "profile_id").bind Json.asString = some awsStaticWeb
  | none => false

/-- Read the profile selection: one call of the tool, with a valid selection. -/
def readSelection (draft : ProvisionDraft) (calls : List ToolCall) : Except Fault ProvisionDraft :=
  match calls with
  | [call] =>
      if call.named "select_deployment_profile" then
        match call.args.asObject with
        | none => .error (.attributeError "get")
        | some args =>
            if isProfileSelection ((args.get? "selection").getD call.args) then
              .ok { draft with profileId := some awsStaticWeb }
            else .ok (draft.ask profileQuestion)
      else .ok (draft.ask profileQuestion)
  | _ => .ok (draft.ask profileQuestion)

/-- The second node: the profile. -/
def selectProfile (model : Model) (invocation : ProvisionInvocation) (draft : ProvisionDraft) :
    Except Fault ProvisionDraft := do
  let response ← model (profilePrompt invocation.rawText)
  readSelection draft response.toolCalls

/-- The prompt of the extraction. -/
def extractionPrompt (rawText : String) : List (String × String) :=
  [("system",
    "Extract frontend_artifact_uri and frontend_hostname for the selected aws-static-web " ++
      "profile. Call extract_aws_static_web_request exactly once. If either value is missing, " ++
      "set clarifying_question instead of guessing."),
    ("user", rawText)]

/-- The question asked where the model gave none. -/
def staticWebInputQuestion : String :=
  "To prepare this static website, provide two details: 1) where the built frontend package is, " ++
    "for example s3://releases/invoices-ui.tar.gz, and 2) the website address users should " ++
    "open, for example invoices.dev.example.com. If you do not have a custom domain yet, say that."

/-- Ask for the fields of the request. -/
def askApplication (draft : ProvisionDraft) (given : Option Json) : Except Fault ProvisionDraft :=
  (fun question => draft.ask ⟨"application_request", question, []⟩) <$>
    questionText given staticWebInputQuestion

/-- A field the model gave that is not empty. -/
def isGiven (field : Option Json) : Bool := (field.map Json.truthy).getD false

/-- Read the fields of the request: one call of the tool, with two strings that are not empty. -/
def readExtraction (draft : ProvisionDraft) (calls : List ToolCall) : Except Fault ProvisionDraft :=
  match calls with
  | [call] =>
      let args := call.args.asObject.getD .empty
      let artifact := args.get? "frontend_artifact_uri"
      let hostname := args.get? "frontend_hostname"
      let given := args.get? "clarifying_question"
      if !call.named "extract_aws_static_web_request" || !isGiven artifact || !isGiven hostname then
        askApplication draft given
      else
        match applicationRequest draft.scope artifact hostname with
        | some request => .ok { draft with applicationRequest := some request }
        | none => askApplication draft given
  | _ => askApplication draft none

/-- The third node: the fields of the request. -/
def extractProfileRequest (model : Model) (invocation : ProvisionInvocation)
    (draft : ProvisionDraft) : Except Fault ProvisionDraft := do
  let response ← model (extractionPrompt invocation.rawText)
  readExtraction draft response.toolCalls

/-- The workflow: three nodes, with a stop after each of the first two. -/
def prepareProvisionRequest (invocation : ProvisionInvocation) (model : Model) (known : List Scope)
    (grants : List ExecutionGrant) : Except Fault ProvisionDraft :=
  let draft := resolveScopeNode known grants invocation
  if draft.stops then .ok draft
  else do
    let draft ← selectProfile model invocation draft
    if draft.stops then .ok draft else extractProfileRequest model invocation draft

/-! ### What a draft can be -/

/-- The draft asks one question and has no request. -/
def ProvisionDraft.Asks (draft : ProvisionDraft) : Prop :=
  ∃ question, draft.clarificationQuestions = [question] ∧ draft.unavailableReason = none ∧
    draft.applicationRequest = none

/-- Nothing was asked, refused or extracted so far, on this scope. -/
structure ProvisionDraft.Open (draft : ProvisionDraft) (scope : Scope) : Prop where
  scope : draft.scope = some scope
  asksNothing : draft.clarificationQuestions = []
  available : draft.unavailableReason = none
  noRequest : draft.applicationRequest = none

/-- The draft is a request for this scope. -/
structure ProvisionDraft.Requests (draft : ProvisionDraft) (scope : Scope) : Prop where
  request : ∃ request, draft.applicationRequest = some request ∧ request.scope = scope
  asksNothing : draft.clarificationQuestions = []
  available : draft.unavailableReason = none

theorem ProvisionDraft.Open.stops {draft : ProvisionDraft} {scope : Scope}
    (h : draft.Open scope) : draft.stops = false := by
  simp [ProvisionDraft.stops, h.asksNothing, h.available]

theorem ProvisionDraft.Open.asks {draft : ProvisionDraft} {scope : Scope} (h : draft.Open scope)
    (question : ClarificationQuestion) : (draft.ask question).Asks :=
  ⟨question, rfl, h.available, h.noRequest⟩

theorem ProvisionDraft.Asks.stops {draft : ProvisionDraft} (h : draft.Asks) :
    draft.stops = true := by
  obtain ⟨question, hquestion, -⟩ := h
  simp [ProvisionDraft.stops, hquestion]

/-- The first node resolves the scope, asks, or finds the target unavailable. -/
theorem resolveScopeNode_cases (known : List Scope) (grants : List ExecutionGrant)
    (invocation : ProvisionInvocation) :
    ((resolveScopeNode known grants invocation).Open invocation.scopeHint.scope ∧
        invocation.scopeHint.scope ∈ known ∧
        resolveExecutionCapability invocation.scopeHint.scope grants ≠ .none) ∨
      (resolveScopeNode known grants invocation).Asks ∨
      resolveScopeNode known grants invocation =
        { ProvisionDraft.blank with unavailableReason := some targetUnavailable } := by
  unfold resolveScopeNode
  rcases h : resolveScope invocation.scopeHint known grants with scope | question | reason
  · obtain ⟨-, -, rfl, hmem, hcap⟩ := resolveScope_eq_resolved_iff.1 h
    exact Or.inl ⟨⟨rfl, rfl, rfl, rfl⟩, hmem, hcap⟩
  · exact Or.inr (Or.inl ⟨question, rfl, rfl, rfl⟩)
  · obtain rfl := eq_targetUnavailable h
    exact Or.inr (Or.inr rfl)

/-- The second node selects the profile or asks. -/
theorem selectProfile_cases {model : Model} {invocation : ProvisionInvocation}
    {draft next : ProvisionDraft} {scope : Scope} (hopen : draft.Open scope)
    (h : selectProfile model invocation draft = .ok next) : next.Open scope ∨ next.Asks := by
  obtain ⟨response, -, hread⟩ := bind_eq_ok_iff.1 h
  have hasks : (draft.ask profileQuestion).Asks := hopen.asks _
  unfold readSelection at hread
  split at hread
  · split at hread
    · split at hread
      · cases hread
      · split at hread
        · cases hread
          exact Or.inl ⟨hopen.scope, hopen.asksNothing, hopen.available, hopen.noRequest⟩
        · cases hread
          exact Or.inr hasks
    · cases hread
      exact Or.inr hasks
  · cases hread
    exact Or.inr hasks

theorem askApplication_asks {draft next : ProvisionDraft} {scope : Scope} {given : Option Json}
    (hopen : draft.Open scope) (h : askApplication draft given = .ok next) : next.Asks := by
  obtain ⟨question, -, rfl⟩ := map_eq_ok_iff.1 h
  exact hopen.asks _

theorem scope_of_applicationRequest {scope : Option Scope} {artifact hostname : Option Json}
    {request : AwsStaticWebProvisionRequest}
    (h : applicationRequest scope artifact hostname = some request) :
    scope = some request.scope := by
  unfold applicationRequest at h
  split at h
  · split at h
    · cases h
      rfl
    · cases h
  · cases h

/-- The third node extracts the request or asks. -/
theorem extractProfileRequest_cases {model : Model} {invocation : ProvisionInvocation}
    {draft next : ProvisionDraft} {scope : Scope} (hopen : draft.Open scope)
    (h : extractProfileRequest model invocation draft = .ok next) :
    next.Requests scope ∨ next.Asks := by
  obtain ⟨response, -, hread⟩ := bind_eq_ok_iff.1 h
  unfold readExtraction at hread
  split at hread
  · dsimp only at hread
    split at hread
    · exact Or.inr (askApplication_asks hopen hread)
    · split at hread
      · rename_i request hrequest
        cases hread
        have hscope : draft.scope = some request.scope := scope_of_applicationRequest hrequest
        rw [hopen.scope] at hscope
        have hsame : request.scope = scope := (Option.some.inj hscope).symm
        exact Or.inl ⟨⟨request, rfl, hsame⟩, hopen.asksNothing, hopen.available⟩
      · exact Or.inr (askApplication_asks hopen hread)
  · exact Or.inr (askApplication_asks hopen hread)

/-- **A draft asks one question, is unavailable, or is a request for a known scope the caller has a
grant for.** -/
theorem prepareProvisionRequest_cases {invocation : ProvisionInvocation} {model : Model}
    {known : List Scope} {grants : List ExecutionGrant} {draft : ProvisionDraft}
    (h : prepareProvisionRequest invocation model known grants = .ok draft) :
    draft.Asks ∨
      draft = { ProvisionDraft.blank with unavailableReason := some targetUnavailable } ∨
      draft.Requests invocation.scopeHint.scope ∧ invocation.scopeHint.scope ∈ known ∧
        resolveExecutionCapability invocation.scopeHint.scope grants ≠ .none := by
  unfold prepareProvisionRequest at h
  -- only an open draft is passed on to the next node
  rcases resolveScopeNode_cases known grants invocation with ⟨hopen, hmem, hcap⟩ | hasks | hno
  · simp only [hopen.stops, Bool.false_eq_true, if_false] at h
    obtain ⟨selected, hselect, hrest⟩ := bind_eq_ok_iff.1 h
    rcases selectProfile_cases hopen hselect with hselected | hasks
    · simp only [hselected.stops, Bool.false_eq_true, if_false] at hrest
      rcases extractProfileRequest_cases hselected hrest with hrequest | hasks
      · exact Or.inr (Or.inr ⟨hrequest, hmem, hcap⟩)
      · exact Or.inl hasks
    · simp only [hasks.stops, if_true] at hrest
      cases hrest
      exact Or.inl hasks
  · simp only [hasks.stops, if_true] at h
    cases h
    exact Or.inl hasks
  · rw [hno] at h
    cases h
    exact Or.inr (Or.inl rfl)

end PlatformOps
