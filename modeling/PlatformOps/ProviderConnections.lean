/-
**Attaching and bootstrapping containers over a provider connection.**

An organization owns connections to cloud providers.  Over an active connection a container of its
boundary can be attached to a scope, and a container can be created.  Both are requested by one
actor and approved by another: the services compare the two before they ask who may approve.

Main definitions:

* `ProviderConnection`, `ProviderContainerCandidate` — connections, and what is found behind them;
* `ContainerAttachmentRequest`, `requestAttachment`, `approveAttachment` — attaching a container;
* `ProviderContainerBootstrapRequest`, `requestBootstrap`, `approveBootstrap`, `createContainer` —
  creating one.

Main results:

* `approveAttachment_eq_ok_iff`, `approveBootstrap_eq_ok_iff` — **what is approved, and by whom**;
* `createContainer_parties` — a creation does not change who asked and who approved.
-/

import PlatformOps.ContainerBindings
import PlatformOps.Intake
import PlatformOps.PythonText

set_option relaxedAutoImplicit false
set_option autoImplicit false

namespace PlatformOps.ProviderConnections

/-! ### Records -/

/-- The states of a connection. -/
inductive ProviderConnectionState
  | pending
  | verified
  | active
  | suspended
  deriving DecidableEq

/-- A connection of an organization to a provider. -/
@[ext] structure ProviderConnection where
  connectionId : String
  organizationId : String
  provider : CloudProvider
  boundaryRef : String
  discoveryIdentityRef : String
  state : ProviderConnectionState
  version : ℕ
  connectionId_length : 7 ≤ connectionId.length
  organizationId_length : 1 ≤ organizationId.length
  boundaryRef_length : 1 ≤ boundaryRef.length
  discoveryIdentityRef_length : 1 ≤ discoveryIdentityRef.length
  version_pos : 1 ≤ version

instance : DecidableEq ProviderConnection := fun _ _ =>
  decidable_of_iff _ ProviderConnection.ext_iff.symm

/-- A container that a provider reports. -/
@[ext] structure ProviderContainerCandidate where
  provider : CloudProvider
  boundaryRef : String
  containerRef : String
  displayName : String
  boundaryRef_length : 1 ≤ boundaryRef.length
  containerRef_length : 1 ≤ containerRef.length
  displayName_length : 1 ≤ displayName.length

instance : DecidableEq ProviderContainerCandidate := fun _ _ =>
  decidable_of_iff _ ProviderContainerCandidate.ext_iff.symm

/-- The states of the request for an attachment. -/
inductive ContainerAttachmentState
  | pendingReview
  | approved
  | rejected
  deriving DecidableEq

/-- A request to attach a container to a scope. -/
@[ext] structure ContainerAttachmentRequest where
  requestId : String
  resourceScopeId : String
  connectionId : String
  candidate : ProviderContainerCandidate
  requestedBy : String
  state : ContainerAttachmentState
  reviewedBy : Option String
  version : ℕ
  requestId_length : 8 ≤ requestId.length
  resourceScopeId_length : 1 ≤ resourceScopeId.length
  connectionId_length : 7 ≤ connectionId.length
  requestedBy_length : 1 ≤ requestedBy.length
  version_pos : 1 ≤ version

instance : DecidableEq ContainerAttachmentRequest := fun _ _ =>
  decidable_of_iff _ ContainerAttachmentRequest.ext_iff.symm

/-- What an approved attachment results in. -/
@[ext] structure CloudResourceContainerBinding where
  bindingId : String
  resourceScopeId : String
  connectionId : String
  candidate : ProviderContainerCandidate
  attachmentRequestId : String
  version : ℕ
  bindingId_length : 9 ≤ bindingId.length
  resourceScopeId_length : 1 ≤ resourceScopeId.length
  connectionId_length : 7 ≤ connectionId.length
  attachmentRequestId_length : 8 ≤ attachmentRequestId.length
  version_pos : 1 ≤ version

instance : DecidableEq CloudResourceContainerBinding := fun _ _ =>
  decidable_of_iff _ CloudResourceContainerBinding.ext_iff.symm

/-- The states of the request for a container. -/
inductive ProviderContainerBootstrapState
  | pendingApproval
  | approved
  | created
  deriving DecidableEq

/-- A request to create a container. -/
@[ext] structure ProviderContainerBootstrapRequest where
  requestId : String
  connectionId : String
  requestedDisplayName : String
  requestedBy : String
  state : ProviderContainerBootstrapState
  approvedBy : Option String
  createdCandidate : Option ProviderContainerCandidate
  version : ℕ
  requestId_length : 11 ≤ requestId.length
  connectionId_length : 7 ≤ connectionId.length
  requestedDisplayName_length : 1 ≤ requestedDisplayName.length
  requestedBy_length : 1 ≤ requestedBy.length
  version_pos : 1 ≤ version

instance : DecidableEq ProviderContainerBootstrapRequest := fun _ _ =>
  decidable_of_iff _ ProviderContainerBootstrapRequest.ext_iff.symm

/-- The digits of a generated identifier. -/
structure GeneratedHex where
  hex : String
  hex_length : hex.length = 32

/-- An identifier with generated digits. -/
def GeneratedHex.prefixed (generated : GeneratedHex) (kind : String) : String :=
  kind ++ generated.hex

theorem GeneratedHex.prefixed_length (generated : GeneratedHex) (kind : String) :
    32 ≤ (generated.prefixed kind).length := by
  unfold prefixed
  rw [String.length_append, generated.hex_length]
  exact Nat.le_add_left 32 _

/-- What the services raise. -/
inductive ConnectionFault
  /-- `ProviderConnectionUnavailable` of a connection that is not active. -/
  | notActive (connectionId : String)
  /-- `ProviderConnectionUnavailable` of a provider without an adapter. -/
  | noAdapter (provider : CloudProvider)
  /-- `ProviderConnectionAccessDenied`. -/
  | accessDenied (detail : String)
  | valueError (detail : String)
  | validationError (error : ValidationError)
  /-- What the adapter of a provider raises. -/
  | adapterError (detail : String)
  deriving DecidableEq

/-! ### Checks -/

/-- `require_active`. -/
def requireActive (connection : ProviderConnection) : Except ConnectionFault Unit :=
  if connection.state = .active then .ok () else .error (.notActive connection.connectionId)

/-- The container is of the boundary of the connection. -/
def ProviderContainerCandidate.Within (candidate : ProviderContainerCandidate)
    (connection : ProviderConnection) : Prop :=
  candidate.provider = connection.provider ∧ candidate.boundaryRef = connection.boundaryRef

instance (candidate : ProviderContainerCandidate) (connection : ProviderConnection) :
    Decidable (candidate.Within connection) :=
  inferInstanceAs (Decidable (_ ∧ _))

/-- `_require_connection_candidate`. -/
def requireConnectionCandidate (connection : ProviderConnection)
    (candidate : ProviderContainerCandidate) : Except ConnectionFault Unit :=
  if candidate.Within connection then .ok ()
  else .error (.valueError "container candidate is outside the connection boundary")

/-- Raise unless the condition holds. -/
def require (condition : Prop) [Decidable condition] (fault : ConnectionFault) :
    Except ConnectionFault Unit :=
  if condition then .ok () else .error fault

theorem requireActive_eq (connection : ProviderConnection) :
    requireActive connection =
      require (connection.state = .active) (.notActive connection.connectionId) := rfl

theorem requireConnectionCandidate_eq (connection : ProviderConnection)
    (candidate : ProviderContainerCandidate) :
    requireConnectionCandidate connection candidate = require (candidate.Within connection)
      (.valueError "container candidate is outside the connection boundary") := rfl

/-- **A check that is followed by something** passes, and the rest succeeds. -/
theorem require_bind_eq_ok_iff {α : Type} {condition : Prop} [Decidable condition]
    {fault : ConnectionFault} {f : Unit → Except ConnectionFault α} {a : α} :
    (require condition fault >>= f) = .ok a ↔ condition ∧ f () = .ok a := by
  unfold require
  by_cases h : condition
  · rw [if_pos h]
    exact (and_iff_right h).symm
  · rw [if_neg h]
    exact iff_of_false (fun hrun => by cases hrun) fun hrun => h hrun.1

/-! ### Attachments -/

/-- Who may propose and approve attachments. -/
structure ProviderContainerAttachmentAuthorizer where
  mayRequestContainerAttachment (actorId organizationId resourceScopeId : String) : Bool
  mayReviewContainerAttachment (actorId organizationId resourceScopeId : String) : Bool

/-- `request_attachment`. -/
def requestAttachment (authorizer : ProviderContainerAttachmentAuthorizer)
    (generated : GeneratedHex) (actorId : String) (connection : ProviderConnection)
    (resourceScopeId : String) (candidate : ProviderContainerCandidate) :
    Except ConnectionFault ContainerAttachmentRequest := do
  requireActive connection
  requireConnectionCandidate connection candidate
  require (authorizer.mayRequestContainerAttachment actorId connection.organizationId
      resourceScopeId = true)
    (.accessDenied "scope administrator permission is required to request attachment")
  if hscope : 1 ≤ resourceScopeId.length then
    if hactor : 1 ≤ actorId.length then
      .ok ⟨generated.prefixed "attach_", resourceScopeId, connection.connectionId, candidate,
        actorId, .pendingReview, none, 1,
        le_trans (by decide) (generated.prefixed_length "attach_"), hscope,
        connection.connectionId_length, hactor, Nat.one_pos⟩
    else .error (.validationError ⟨"ContainerAttachmentRequest", "requested_by"⟩)
  else .error (.validationError ⟨"ContainerAttachmentRequest", "resource_scope_id"⟩)

/-- A new request has no reviewer. -/
theorem reviewedBy_of_requestAttachment {authorizer : ProviderContainerAttachmentAuthorizer}
    {generated : GeneratedHex} {actorId : String} {connection : ProviderConnection}
    {resourceScopeId : String} {candidate : ProviderContainerCandidate}
    {request : ContainerAttachmentRequest}
    (h : requestAttachment authorizer generated actorId connection resourceScopeId candidate =
      .ok request) : request.reviewedBy = none := by
  unfold requestAttachment at h
  rw [requireActive_eq, requireConnectionCandidate_eq] at h
  iterate 3 rw [require_bind_eq_ok_iff] at h
  obtain ⟨-, -, -, h⟩ := h
  split_ifs at h
  cases h
  rfl

/-- The request as it is approved. -/
def ContainerAttachmentRequest.approvedBy (request : ContainerAttachmentRequest)
    (actorId : String) : ContainerAttachmentRequest :=
  { request with
    state := .approved
    reviewedBy := some actorId
    version := request.version + 1
    version_pos := Nat.le_add_left 1 request.version }

/-- The binding of an approved request. -/
def ContainerAttachmentRequest.binding (request : ContainerAttachmentRequest)
    (generated : GeneratedHex) : CloudResourceContainerBinding :=
  ⟨generated.prefixed "binding_", request.resourceScopeId, request.connectionId, request.candidate,
    request.requestId, 1, le_trans (by decide) (generated.prefixed_length "binding_"),
    request.resourceScopeId_length, request.connectionId_length, request.requestId_length,
    Nat.one_pos⟩

/-- `approve_attachment`. -/
def approveAttachment (authorizer : ProviderContainerAttachmentAuthorizer)
    (generated : GeneratedHex) (actorId : String) (connection : ProviderConnection)
    (request : ContainerAttachmentRequest) :
    Except ConnectionFault (ContainerAttachmentRequest × CloudResourceContainerBinding) := do
  requireActive connection
  require (request.state = .pendingReview)
    (.valueError "only a pending attachment request can be approved")
  require (request.connectionId = connection.connectionId)
    (.valueError "attachment request does not belong to this connection")
  require (actorId ≠ request.requestedBy)
    (.accessDenied "requester cannot approve their own attachment")
  requireConnectionCandidate connection request.candidate
  require (authorizer.mayReviewContainerAttachment actorId connection.organizationId
      request.resourceScopeId = true)
    (.accessDenied "scope administrator permission is required to approve attachment")
  let approved := request.approvedBy actorId
  .ok (approved, approved.binding generated)

/-- **An attachment is approved exactly if** it is pending over the active connection, and another
actor approves it who may. -/
theorem approveAttachment_eq_ok_iff {authorizer : ProviderContainerAttachmentAuthorizer}
    {generated : GeneratedHex} {actorId : String} {connection : ProviderConnection}
    {request : ContainerAttachmentRequest}
    {result : ContainerAttachmentRequest × CloudResourceContainerBinding} :
    approveAttachment authorizer generated actorId connection request = .ok result ↔
      connection.state = .active ∧ request.state = .pendingReview ∧
        request.connectionId = connection.connectionId ∧ actorId ≠ request.requestedBy ∧
        request.candidate.Within connection ∧
        authorizer.mayReviewContainerAttachment actorId connection.organizationId
          request.resourceScopeId = true ∧
        result = (request.approvedBy actorId, (request.approvedBy actorId).binding generated) := by
  unfold approveAttachment
  rw [requireActive_eq, requireConnectionCandidate_eq]
  iterate 6 rw [require_bind_eq_ok_iff]
  rw [Except.ok.injEq, eq_comm (b := result)]

/-! ### Bootstraps -/

/-- Who may request and approve containers. -/
structure ProviderContainerBootstrapAuthorizer where
  mayRequestContainerBootstrap (actorId organizationId : String) : Bool
  mayApproveContainerBootstrap (actorId organizationId : String) : Bool

/-- `request_bootstrap`. -/
def requestBootstrap (authorizer : ProviderContainerBootstrapAuthorizer)
    (allowsContainerBootstrap : ProviderConnection → Bool) (generated : GeneratedHex)
    (actorId : String) (connection : ProviderConnection) (displayName : String) :
    Except ConnectionFault ProviderContainerBootstrapRequest := do
  requireActive connection
  require (allowsContainerBootstrap connection = true)
    (.accessDenied "organization policy does not permit provider-container bootstrap")
  require (authorizer.mayRequestContainerBootstrap actorId connection.organizationId = true)
    (.accessDenied "organization administrator permission is required to request bootstrap")
  if hname : 1 ≤ displayName.length then
    if hactor : 1 ≤ actorId.length then
      .ok ⟨generated.prefixed "bootstrap_", connection.connectionId, displayName, actorId,
        .pendingApproval, none, none, 1,
        le_trans (by decide) (generated.prefixed_length "bootstrap_"),
        connection.connectionId_length, hname, hactor, Nat.one_pos⟩
    else .error (.validationError ⟨"ProviderContainerBootstrapRequest", "requested_by"⟩)
  else .error (.validationError ⟨"ProviderContainerBootstrapRequest", "requested_display_name"⟩)

/-- A new request has no approver. -/
theorem approvedBy_of_requestBootstrap {authorizer : ProviderContainerBootstrapAuthorizer}
    {allowsContainerBootstrap : ProviderConnection → Bool} {generated : GeneratedHex}
    {actorId : String} {connection : ProviderConnection} {displayName : String}
    {request : ProviderContainerBootstrapRequest}
    (h : requestBootstrap authorizer allowsContainerBootstrap generated actorId connection
      displayName = .ok request) : request.approvedBy = none := by
  unfold requestBootstrap at h
  rw [requireActive_eq] at h
  iterate 3 rw [require_bind_eq_ok_iff] at h
  obtain ⟨-, -, -, h⟩ := h
  split_ifs at h
  cases h
  rfl

/-- The request as it is approved. -/
def ProviderContainerBootstrapRequest.approve (request : ProviderContainerBootstrapRequest)
    (actorId : String) : ProviderContainerBootstrapRequest :=
  { request with
    state := .approved
    approvedBy := some actorId
    version := request.version + 1
    version_pos := Nat.le_add_left 1 request.version }

/-- `approve_bootstrap`. -/
def approveBootstrap (authorizer : ProviderContainerBootstrapAuthorizer) (actorId : String)
    (connection : ProviderConnection) (request : ProviderContainerBootstrapRequest) :
    Except ConnectionFault ProviderContainerBootstrapRequest := do
  requireActive connection
  require (request.connectionId = connection.connectionId)
    (.valueError "bootstrap request does not belong to this connection")
  require (request.state = .pendingApproval)
    (.valueError "only a pending bootstrap request can be approved")
  require (actorId ≠ request.requestedBy)
    (.accessDenied "requester cannot approve their own bootstrap")
  require (authorizer.mayApproveContainerBootstrap actorId connection.organizationId = true)
    (.accessDenied "organization administrator permission is required to approve bootstrap")
  .ok (request.approve actorId)

/-- **A bootstrap is approved exactly if** it is pending over the active connection, and another
actor approves it who may. -/
theorem approveBootstrap_eq_ok_iff {authorizer : ProviderContainerBootstrapAuthorizer}
    {actorId : String} {connection : ProviderConnection}
    {request approved : ProviderContainerBootstrapRequest} :
    approveBootstrap authorizer actorId connection request = .ok approved ↔
      connection.state = .active ∧ request.connectionId = connection.connectionId ∧
        request.state = .pendingApproval ∧ actorId ≠ request.requestedBy ∧
        authorizer.mayApproveContainerBootstrap actorId connection.organizationId = true ∧
        approved = request.approve actorId := by
  unfold approveBootstrap
  rw [requireActive_eq]
  iterate 5 rw [require_bind_eq_ok_iff]
  rw [Except.ok.injEq, eq_comm (b := approved)]

/-- Creates a container of the boundary with this name. -/
abbrev ProviderContainerBootstrapAdapter : Type :=
  ProviderConnection → String → Except ConnectionFault ProviderContainerCandidate

/-- `for_connection`. -/
def forConnection (adapters : CloudProvider → Option ProviderContainerBootstrapAdapter)
    (connection : ProviderConnection) :
    Except ConnectionFault ProviderContainerBootstrapAdapter := do
  requireActive connection
  match adapters connection.provider with
  | none => .error (.noAdapter connection.provider)
  | some createContainer => .ok createContainer

/-- The request as its container is created. -/
def ProviderContainerBootstrapRequest.create (request : ProviderContainerBootstrapRequest)
    (candidate : ProviderContainerCandidate) : ProviderContainerBootstrapRequest :=
  { request with
    state := .created
    createdCandidate := some candidate
    version := request.version + 1
    version_pos := Nat.le_add_left 1 request.version }

/-- `create_container`. -/
def createContainer (adapters : CloudProvider → Option ProviderContainerBootstrapAdapter)
    (connection : ProviderConnection) (request : ProviderContainerBootstrapRequest) :
    Except ConnectionFault ProviderContainerBootstrapRequest := do
  requireActive connection
  require (request.connectionId = connection.connectionId)
    (.valueError "bootstrap request does not belong to this connection")
  require (request.state = .approved)
    (.valueError "bootstrap request requires recorded approval")
  let create ← forConnection adapters connection
  let candidate ← create connection request.requestedDisplayName
  requireConnectionCandidate connection candidate
  .ok (request.create candidate)

/-- A creation does not change who asked and who approved. -/
theorem createContainer_parties
    {adapters : CloudProvider → Option ProviderContainerBootstrapAdapter}
    {connection : ProviderConnection} {request created : ProviderContainerBootstrapRequest}
    (h : createContainer adapters connection request = .ok created) :
    created.requestedBy = request.requestedBy ∧ created.approvedBy = request.approvedBy := by
  unfold createContainer at h
  rw [requireActive_eq] at h
  iterate 3 rw [require_bind_eq_ok_iff] at h
  obtain ⟨-, -, -, h⟩ := h
  obtain ⟨create, -, h⟩ := bind_eq_ok_iff.1 h
  obtain ⟨candidate, -, h⟩ := bind_eq_ok_iff.1 h
  rw [requireConnectionCandidate_eq] at h
  obtain ⟨-, h⟩ := require_bind_eq_ok_iff.1 h
  cases h
  exact ⟨rfl, rfl⟩

end PlatformOps.ProviderConnections
