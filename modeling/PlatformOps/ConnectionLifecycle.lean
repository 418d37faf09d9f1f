/-
**The life of requests over a provider connection.**

An attachment is requested and approved; a container is requested, approved and created.  Nothing is
stored in between: whoever holds a record can present it again, over any connection and to services
with other authorizers, policies and adapters.  A chain of calls starts without records, and a call
is made on a record that an earlier one returned.

Main definitions:

* `createContainerProgram` — `create_container`, with the call of the adapter awaited;
* `ConnectionCall`, `connectionRun` — the calls of the two services, and what a chain of them
  returned;
* `ConnectionCall.Permitted`, `ConnectionCall.Changes` — the checks of a call, and what it may
  change;
* `BoundIn`, `ApprovedIn`, `CreatedIn` — what a binding, an approval and a container derive from.

Main results:

* `drive_createContainerProgram` — driven by the adapters, the program is `create_container`;
* `permitted_iff` — a call returns a record exactly if its checks pass;
* `connection_lifecycle` — **every binding, approval and container derives from a pending request
  through an approval by another actor, whatever the chain**.
-/

import PlatformOps.Coroutine
import PlatformOps.ProviderConnections

set_option relaxedAutoImplicit false
set_option autoImplicit false

namespace PlatformOps.ProviderConnections

/-! ### Creating a container -/

/-- A program that may call the adapter of a provider with a connection and a name. -/
abbrev AdapterProgram :=
  Coroutine Unit (ProviderConnection × String) (Except ConnectionFault ProviderContainerCandidate)
    ConnectionFault

/-- `create_container`, with the call of the adapter awaited. -/
def createContainerProgram (configured : CloudProvider → Bool) (connection : ProviderConnection)
    (request : ProviderContainerBootstrapRequest) :
    AdapterProgram ProviderContainerBootstrapRequest := do
  .ofExcept (requireActive connection)
  .ofExcept (require (request.connectionId = connection.connectionId)
    (.valueError "bootstrap request does not belong to this connection"))
  .ofExcept (require (request.state = .approved)
    (.valueError "bootstrap request requires recorded approval"))
  .ofExcept (requireActive connection)
  .ofExcept (require (configured connection.provider = true) (.noAdapter connection.provider))
  let candidate ← .await (connection, request.requestedDisplayName) .ofExcept
  .ofExcept (requireConnectionCandidate connection candidate)
  return request.create candidate

/-- What the registered adapters answer. -/
def askAdapter (adapters : CloudProvider → Option ProviderContainerBootstrapAdapter)
    (asked : ProviderConnection × String) : Except ConnectionFault ProviderContainerCandidate :=
  match adapters asked.1.provider with
  | some createContainer => createContainer asked.1 asked.2
  | none => .error (.noAdapter asked.1.provider)

theorem ofExcept_require_bind {α : Type} {condition : Prop} [Decidable condition]
    {fault : ConnectionFault} {f : Unit → AdapterProgram α} :
    (Coroutine.ofExcept (require condition fault) >>= f) =
      if condition then f () else .raise fault := by
  unfold require
  split
  · rfl
  · rfl

/-- What is made of the adapter's answer. -/
def createFrom (connection : ProviderConnection) (request : ProviderContainerBootstrapRequest)
    (answer : Except ConnectionFault ProviderContainerCandidate) :
    Except ConnectionFault ProviderContainerBootstrapRequest := do
  let candidate ← answer
  requireConnectionCandidate connection candidate
  return request.create candidate

/-- The checks before the adapter is called. -/
structure MayCreate (configured : CloudProvider → Bool) (connection : ProviderConnection)
    (request : ProviderContainerBootstrapRequest) : Prop where
  active : connection.state = .active
  own : request.connectionId = connection.connectionId
  approved : request.state = .approved
  configured : configured connection.provider = true

variable {configured : CloudProvider → Bool} {connection : ProviderConnection}
  {request : ProviderContainerBootstrapRequest}

/-- Where the checks pass, the adapter is called. -/
theorem createContainerProgram_of_mayCreate (h : MayCreate configured connection request) :
    createContainerProgram configured connection request =
      .await (connection, request.requestedDisplayName)
        fun answer => .ofExcept (createFrom connection request answer) := by
  unfold createContainerProgram
  simp only [requireActive_eq, ofExcept_require_bind, if_pos h.active, if_pos h.own,
    if_pos h.approved, if_pos h.configured]
  show Coroutine.await _ _ = Coroutine.await _ _
  congr 1
  funext answer
  cases answer with
  | error fault => rfl
  | ok candidate =>
      show (Coroutine.ofExcept (requireConnectionCandidate connection candidate) >>=
          fun _ => pure (request.create candidate)) = _
      rw [Coroutine.ofExcept_bind_pure]
      show _ = Coroutine.ofExcept (requireConnectionCandidate connection candidate >>= fun _ =>
        .ok (request.create candidate))
      cases requireConnectionCandidate connection candidate with
      | error fault => rfl
      | ok _ => rfl

/-- Where one fails, the program raises before the adapter is called. -/
theorem createContainerProgram_of_not (h : ¬ MayCreate configured connection request) :
    ∃ fault, createContainerProgram configured connection request = .raise fault := by
  unfold createContainerProgram
  simp only [requireActive_eq, ofExcept_require_bind]
  by_cases hactive : connection.state = .active
  · by_cases hown : request.connectionId = connection.connectionId
    · by_cases happroved : request.state = .approved
      · by_cases hconfigured : configured connection.provider = true
        · exact absurd ⟨hactive, hown, happroved, hconfigured⟩ h
        · rw [if_pos hactive, if_pos hown, if_pos happroved, if_pos hactive, if_neg hconfigured]
          exact ⟨_, rfl⟩
      · rw [if_pos hactive, if_pos hown, if_neg happroved]
        exact ⟨_, rfl⟩
    · rw [if_pos hactive, if_neg hown]
      exact ⟨_, rfl⟩
  · rw [if_neg hactive]
    exact ⟨_, rfl⟩

theorem drive_ofExcept_bind {α β : Type} (x : Except ConnectionFault α)
    (f : α → AdapterProgram β)
    (answer : ProviderConnection × String → Except ConnectionFault ProviderContainerCandidate) :
    ((Coroutine.ofExcept x >>= f).drive answer ()).1 =
      x >>= fun a => ((f a).drive answer ()).1 := by
  cases x with
  | ok a => rfl
  | error fault => rfl

/-- **Driven by the adapters, the program is `create_container`.** -/
theorem drive_createContainerProgram
    (adapters : CloudProvider → Option ProviderContainerBootstrapAdapter)
    (connection : ProviderConnection) (request : ProviderContainerBootstrapRequest) :
    ((createContainerProgram (fun provider => (adapters provider).isSome) connection request).drive
        (askAdapter adapters) ()).1 = createContainer adapters connection request := by
  unfold createContainerProgram createContainer forConnection
  simp only [drive_ofExcept_bind, bind_assoc]
  refine bind_congr fun _ => bind_congr fun _ => bind_congr fun _ => bind_congr fun _ => ?_
  rcases Option.eq_none_or_eq_some (adapters connection.provider) with hadapter | ⟨create, hadapter⟩
  · have hrefused : require ((adapters connection.provider).isSome = true)
        (.noAdapter connection.provider) = .error (.noAdapter connection.provider) :=
      if_neg (by simp [hadapter])
    rw [hrefused, hadapter]
    rfl
  · have hpasses : require ((adapters connection.provider).isSome = true)
        (.noAdapter connection.provider) = .ok () := if_pos (by simp [hadapter])
    have hasked : askAdapter adapters (connection, request.requestedDisplayName) =
        create connection request.requestedDisplayName := by
      unfold askAdapter
      rw [hadapter]
    rw [hpasses, hadapter]
    show ((Coroutine.ofExcept (askAdapter adapters (connection, request.requestedDisplayName)) >>=
      _ : AdapterProgram _).drive _ ()).1 = create connection request.requestedDisplayName >>= _
    rw [drive_ofExcept_bind, hasked]
    refine bind_congr fun candidate => ?_
    rw [drive_ofExcept_bind]
    rfl

/-! ### Calls and what they return -/

/-- A call of one of the services.  The adapter of the provider, where one is configured, would
answer as given. -/
inductive ConnectionCall
  | requestAttachment (authorizer : ProviderContainerAttachmentAuthorizer)
      (generated : GeneratedHex) (actorId : String) (connection : ProviderConnection)
      (resourceScopeId : String) (candidate : ProviderContainerCandidate)
  | approveAttachment (authorizer : ProviderContainerAttachmentAuthorizer)
      (generated : GeneratedHex) (actorId : String) (connection : ProviderConnection)
      (request : ContainerAttachmentRequest)
  | requestBootstrap (authorizer : ProviderContainerBootstrapAuthorizer)
      (allowsContainerBootstrap : ProviderConnection → Bool) (generated : GeneratedHex)
      (actorId : String) (connection : ProviderConnection) (displayName : String)
  | approveBootstrap (authorizer : ProviderContainerBootstrapAuthorizer) (actorId : String)
      (connection : ProviderConnection) (request : ProviderContainerBootstrapRequest)
  | createContainer (configured : CloudProvider → Bool)
      (answer : Except ConnectionFault ProviderContainerCandidate)
      (connection : ProviderConnection) (request : ProviderContainerBootstrapRequest)

/-- What a call returns. -/
inductive ReturnedRecord
  | attachment (request : ContainerAttachmentRequest)
  | binding (approved : ContainerAttachmentRequest) (binding : CloudResourceContainerBinding)
  | bootstrap (request : ProviderContainerBootstrapRequest)

/-- What a call returns or raises. -/
def ConnectionCall.perform : ConnectionCall → Except ConnectionFault ReturnedRecord
  | requestAttachment authorizer generated actorId connection resourceScopeId candidate =>
      .attachment <$> ProviderConnections.requestAttachment authorizer generated actorId connection
        resourceScopeId candidate
  | approveAttachment authorizer generated actorId connection request =>
      (fun result => .binding result.1 result.2) <$>
        ProviderConnections.approveAttachment authorizer generated actorId connection request
  | requestBootstrap authorizer allowsContainerBootstrap generated actorId connection displayName =>
      .bootstrap <$> ProviderConnections.requestBootstrap authorizer allowsContainerBootstrap
        generated actorId connection displayName
  | approveBootstrap authorizer actorId connection request =>
      .bootstrap <$> ProviderConnections.approveBootstrap authorizer actorId connection request
  | createContainer configured answer connection request =>
      .bootstrap <$> ((createContainerProgram configured connection request).drive
        (fun _ => answer) ()).1

/-- What a call asks of the adapter. -/
def ConnectionCall.asked : ConnectionCall → List (ProviderConnection × String)
  | createContainer configured answer connection request =>
      (createContainerProgram configured connection request).awaited (fun _ => answer) ()
  | _ => []

/-- The checks of a call. -/
def ConnectionCall.Permitted : ConnectionCall → Prop
  | requestAttachment authorizer _ actorId connection resourceScopeId candidate =>
      connection.state = .active ∧ candidate.Within connection ∧
        authorizer.mayRequestContainerAttachment actorId connection.organizationId
          resourceScopeId = true ∧ resourceScopeId ≠ "" ∧ actorId ≠ ""
  | approveAttachment authorizer _ actorId connection request =>
      connection.state = .active ∧ request.state = .pendingReview ∧
        request.connectionId = connection.connectionId ∧ actorId ≠ request.requestedBy ∧
        request.candidate.Within connection ∧
        authorizer.mayReviewContainerAttachment actorId connection.organizationId
          request.resourceScopeId = true
  | requestBootstrap authorizer allowsContainerBootstrap _ actorId connection displayName =>
      connection.state = .active ∧ allowsContainerBootstrap connection = true ∧
        authorizer.mayRequestContainerBootstrap actorId connection.organizationId = true ∧
        displayName ≠ "" ∧ actorId ≠ ""
  | approveBootstrap authorizer actorId connection request =>
      connection.state = .active ∧ request.connectionId = connection.connectionId ∧
        request.state = .pendingApproval ∧ actorId ≠ request.requestedBy ∧
        authorizer.mayApproveContainerBootstrap actorId connection.organizationId = true
  | createContainer configured answer connection request =>
      MayCreate configured connection request ∧
        ∃ candidate, answer = .ok candidate ∧ candidate.Within connection

/-! ### What a call changes -/

/-- A review changes the state, the reviewer and the version. -/
structure ContainerAttachmentRequest.ReviewedAs (request approved : ContainerAttachmentRequest)
    (actorId : String) : Prop where
  version : approved.version = request.version + 1
  state : approved.state = .approved
  reviewedBy : approved.reviewedBy = some actorId
  requestId : approved.requestId = request.requestId
  resourceScopeId : approved.resourceScopeId = request.resourceScopeId
  connectionId : approved.connectionId = request.connectionId
  candidate : approved.candidate = request.candidate
  requestedBy : approved.requestedBy = request.requestedBy

/-- A binding is on what the request names. -/
structure CloudResourceContainerBinding.Of (binding : CloudResourceContainerBinding)
    (request : ContainerAttachmentRequest) : Prop where
  resourceScopeId : binding.resourceScopeId = request.resourceScopeId
  connectionId : binding.connectionId = request.connectionId
  candidate : binding.candidate = request.candidate
  attachmentRequestId : binding.attachmentRequestId = request.requestId
  version : binding.version = 1

/-- An approval changes the state, the approver and the version. -/
structure ProviderContainerBootstrapRequest.ApprovedAs
    (request approved : ProviderContainerBootstrapRequest) (actorId : String) : Prop where
  version : approved.version = request.version + 1
  state : approved.state = .approved
  approvedBy : approved.approvedBy = some actorId
  requestId : approved.requestId = request.requestId
  connectionId : approved.connectionId = request.connectionId
  requestedDisplayName : approved.requestedDisplayName = request.requestedDisplayName
  requestedBy : approved.requestedBy = request.requestedBy
  createdCandidate : approved.createdCandidate = request.createdCandidate

/-- A creation changes the state, the container and the version. -/
structure ProviderContainerBootstrapRequest.CreatedAs
    (request created : ProviderContainerBootstrapRequest)
    (candidate : ProviderContainerCandidate) : Prop where
  version : created.version = request.version + 1
  state : created.state = .created
  createdCandidate : created.createdCandidate = some candidate
  requestId : created.requestId = request.requestId
  connectionId : created.connectionId = request.connectionId
  requestedDisplayName : created.requestedDisplayName = request.requestedDisplayName
  requestedBy : created.requestedBy = request.requestedBy
  approvedBy : created.approvedBy = request.approvedBy

/-- What a call returns, against the record it was made on. -/
def ConnectionCall.Changes : ConnectionCall → ReturnedRecord → Prop
  | requestAttachment _ _ actorId connection resourceScopeId candidate, .attachment request =>
      request.state = .pendingReview ∧ request.reviewedBy = none ∧ request.version = 1 ∧
        request.requestedBy = actorId ∧ request.connectionId = connection.connectionId ∧
        request.resourceScopeId = resourceScopeId ∧ request.candidate = candidate
  | approveAttachment _ _ actorId _ request, .binding approved binding =>
      request.ReviewedAs approved actorId ∧ binding.Of request
  | requestBootstrap _ _ _ actorId connection displayName, .bootstrap request =>
      request.state = .pendingApproval ∧ request.approvedBy = none ∧
        request.createdCandidate = none ∧ request.version = 1 ∧ request.requestedBy = actorId ∧
        request.connectionId = connection.connectionId ∧ request.requestedDisplayName = displayName
  | approveBootstrap _ actorId _ request, .bootstrap approved => request.ApprovedAs approved actorId
  | createContainer _ answer _ request, .bootstrap created =>
      ∃ candidate, answer = .ok candidate ∧ request.CreatedAs created candidate
  | _, _ => False

/-! ### Each call -/

theorem requestAttachment_isOk_iff {authorizer : ProviderContainerAttachmentAuthorizer}
    {generated : GeneratedHex} {actorId resourceScopeId : String}
    {candidate : ProviderContainerCandidate} :
    (∃ request, requestAttachment authorizer generated actorId connection resourceScopeId
        candidate = .ok request) ↔
      (ConnectionCall.requestAttachment authorizer generated actorId connection resourceScopeId
        candidate).Permitted := by
  unfold requestAttachment ConnectionCall.Permitted
  rw [requireActive_eq, requireConnectionCandidate_eq]
  simp only [require_bind_eq_ok_iff, ← one_le_length_iff, exists_and_left]
  refine and_congr_right fun _ => and_congr_right fun _ => and_congr_right fun _ => ?_
  by_cases hscope : 1 ≤ resourceScopeId.length
  · by_cases hactor : 1 ≤ actorId.length
    · simp [hscope, hactor]
    · simp [hscope, hactor]
  · simp [hscope]

/-- A new request is pending, of its actor and over its connection. -/
theorem changes_requestAttachment {authorizer : ProviderContainerAttachmentAuthorizer}
    {generated : GeneratedHex} {actorId resourceScopeId : String}
    {candidate : ProviderContainerCandidate} {request : ContainerAttachmentRequest}
    (h : requestAttachment authorizer generated actorId connection resourceScopeId candidate =
      .ok request) :
    (ConnectionCall.requestAttachment authorizer generated actorId connection resourceScopeId
      candidate).Changes (.attachment request) := by
  unfold requestAttachment at h
  rw [requireActive_eq, requireConnectionCandidate_eq] at h
  simp only [require_bind_eq_ok_iff] at h
  obtain ⟨-, -, -, h⟩ := h
  split_ifs at h
  cases h
  exact ⟨rfl, rfl, rfl, rfl, rfl, rfl, rfl⟩

theorem requestBootstrap_isOk_iff {authorizer : ProviderContainerBootstrapAuthorizer}
    {allowsContainerBootstrap : ProviderConnection → Bool} {generated : GeneratedHex}
    {actorId displayName : String} :
    (∃ request, requestBootstrap authorizer allowsContainerBootstrap generated actorId connection
        displayName = .ok request) ↔
      (ConnectionCall.requestBootstrap authorizer allowsContainerBootstrap generated actorId
        connection displayName).Permitted := by
  unfold requestBootstrap ConnectionCall.Permitted
  rw [requireActive_eq]
  simp only [require_bind_eq_ok_iff, ← one_le_length_iff, exists_and_left]
  refine and_congr_right fun _ => and_congr_right fun _ => and_congr_right fun _ => ?_
  by_cases hname : 1 ≤ displayName.length
  · by_cases hactor : 1 ≤ actorId.length
    · simp [hname, hactor]
    · simp [hname, hactor]
  · simp [hname]

/-- A new request is pending, of its actor and over its connection. -/
theorem changes_requestBootstrap {authorizer : ProviderContainerBootstrapAuthorizer}
    {allowsContainerBootstrap : ProviderConnection → Bool} {generated : GeneratedHex}
    {actorId displayName : String} {request : ProviderContainerBootstrapRequest}
    (h : requestBootstrap authorizer allowsContainerBootstrap generated actorId connection
      displayName = .ok request) :
    (ConnectionCall.requestBootstrap authorizer allowsContainerBootstrap generated actorId
      connection displayName).Changes (.bootstrap request) := by
  unfold requestBootstrap at h
  rw [requireActive_eq] at h
  simp only [require_bind_eq_ok_iff] at h
  obtain ⟨-, -, -, h⟩ := h
  split_ifs at h
  cases h
  exact ⟨rfl, rfl, rfl, rfl, rfl, rfl, rfl⟩

theorem createFrom_eq_ok_iff {answer : Except ConnectionFault ProviderContainerCandidate}
    {created : ProviderContainerBootstrapRequest} :
    createFrom connection request answer = .ok created ↔
      ∃ candidate, answer = .ok candidate ∧ candidate.Within connection ∧
        created = request.create candidate := by
  unfold createFrom
  rw [bind_eq_ok_iff]
  refine exists_congr fun candidate => and_congr_right fun _ => ?_
  rw [requireConnectionCandidate_eq, require_bind_eq_ok_iff]
  refine and_congr_right fun _ => ?_
  exact ⟨fun h => (Except.ok.inj h).symm, fun h => congrArg Except.ok h.symm⟩

/-- **A container is created exactly if** the checks pass and the adapter answers with a container
within the boundary. -/
theorem drive_createContainerProgram_eq_ok_iff
    {answer : Except ConnectionFault ProviderContainerCandidate}
    {created : ProviderContainerBootstrapRequest} :
    ((createContainerProgram configured connection request).drive (fun _ => answer) ()).1 =
        .ok created ↔
      MayCreate configured connection request ∧
        ∃ candidate, answer = .ok candidate ∧ candidate.Within connection ∧
          created = request.create candidate := by
  by_cases h : MayCreate configured connection request
  · rw [createContainerProgram_of_mayCreate h, Coroutine.drive_await, Coroutine.drive_ofExcept,
      createFrom_eq_ok_iff, and_iff_right h]
  · obtain ⟨fault, hfault⟩ := createContainerProgram_of_not h
    rw [hfault]
    exact iff_of_false (fun hraised => by cases hraised) fun hpasses => h hpasses.1

/-- **A call returns a record exactly if its checks pass.** -/
theorem permitted_iff (call : ConnectionCall) :
    call.Permitted ↔ ∃ returned, call.perform = .ok returned := by
  cases call with
  | requestAttachment => exact (map_isOk_iff.trans requestAttachment_isOk_iff).symm
  | approveAttachment authorizer generated actorId connection request =>
      refine (map_isOk_iff.trans ?_).symm
      simp only [approveAttachment_eq_ok_iff, exists_and_left, exists_eq, and_true]
      rfl
  | requestBootstrap => exact (map_isOk_iff.trans requestBootstrap_isOk_iff).symm
  | approveBootstrap authorizer actorId connection request =>
      refine (map_isOk_iff.trans ?_).symm
      simp only [approveBootstrap_eq_ok_iff, exists_and_left, exists_eq, and_true]
      rfl
  | createContainer configured answer connection request =>
      refine (map_isOk_iff.trans ?_).symm
      simp only [drive_createContainerProgram_eq_ok_iff, exists_and_left]
      refine and_congr_right fun _ => ?_
      rw [exists_comm]
      simp only [exists_and_left, exists_eq, and_true]

/-- **A call changes only what its step is about.** -/
theorem changes_of_perform {call : ConnectionCall} {returned : ReturnedRecord}
    (h : call.perform = .ok returned) : call.Changes returned := by
  cases call with
  | requestAttachment =>
      obtain ⟨request, hrequest, rfl⟩ := map_eq_ok_iff.1 h
      exact changes_requestAttachment hrequest
  | approveAttachment authorizer generated actorId connection request =>
      obtain ⟨result, hresult, rfl⟩ := map_eq_ok_iff.1 h
      obtain ⟨-, -, -, -, -, -, rfl⟩ := approveAttachment_eq_ok_iff.1 hresult
      exact ⟨⟨rfl, rfl, rfl, rfl, rfl, rfl, rfl, rfl⟩, ⟨rfl, rfl, rfl, rfl, rfl⟩⟩
  | requestBootstrap =>
      obtain ⟨request, hrequest, rfl⟩ := map_eq_ok_iff.1 h
      exact changes_requestBootstrap hrequest
  | approveBootstrap authorizer actorId connection request =>
      obtain ⟨approved, happroved, rfl⟩ := map_eq_ok_iff.1 h
      obtain ⟨-, -, -, -, -, rfl⟩ := approveBootstrap_eq_ok_iff.1 happroved
      exact ⟨rfl, rfl, rfl, rfl, rfl, rfl, rfl, rfl⟩
  | createContainer configured answer connection request =>
      obtain ⟨created, hcreated, rfl⟩ := map_eq_ok_iff.1 h
      obtain ⟨-, candidate, hanswer, -, rfl⟩ := drive_createContainerProgram_eq_ok_iff.1 hcreated
      exact ⟨candidate, hanswer, rfl, rfl, rfl, rfl, rfl, rfl, rfl, rfl⟩

/-- **The adapter is called** with an approved request over its own active connection only. -/
theorem asked_ne_nil {call : ConnectionCall} (h : call.asked ≠ []) :
    ∃ configured answer connection request,
      call = .createContainer configured answer connection request ∧
        MayCreate configured connection request := by
  cases call with
  | createContainer configured answer connection request =>
      refine ⟨configured, answer, connection, request, rfl, ?_⟩
      by_contra hno
      obtain ⟨fault, hfault⟩ := createContainerProgram_of_not hno
      refine h ?_
      show (createContainerProgram configured connection request).awaited _ () = []
      rw [hfault]
      rfl
  | _ => exact absurd rfl h

/-! ### Chains of calls -/

/-- What the services returned so far. -/
structure ConnectionRecords where
  attachments : List ContainerAttachmentRequest
  bindings : List CloudResourceContainerBinding
  bootstraps : List ProviderContainerBootstrapRequest

/-- Nothing was returned. -/
def ConnectionRecords.empty : ConnectionRecords := ⟨[], [], []⟩

/-- The records with what a call returned. -/
def ConnectionRecords.add (s : ConnectionRecords) : ReturnedRecord → ConnectionRecords
  | .attachment request => { s with attachments := s.attachments ++ [request] }
  | .binding approved binding =>
      { s with attachments := s.attachments ++ [approved], bindings := s.bindings ++ [binding] }
  | .bootstrap request => { s with bootstraps := s.bootstraps ++ [request] }

/-- The record a call is made on was returned before. -/
def ConnectionCall.Presents (s : ConnectionRecords) : ConnectionCall → Prop
  | approveAttachment _ _ _ _ request => request ∈ s.attachments
  | approveBootstrap _ _ _ request => request ∈ s.bootstraps
  | createContainer _ _ _ request => request ∈ s.bootstraps
  | _ => True

instance ConnectionCall.decidablePresents (s : ConnectionRecords) :
    (call : ConnectionCall) → Decidable (call.Presents s)
  | requestAttachment .. => isTrue trivial
  | approveAttachment _ _ _ _ request => inferInstanceAs (Decidable (request ∈ s.attachments))
  | requestBootstrap .. => isTrue trivial
  | approveBootstrap _ _ _ request => inferInstanceAs (Decidable (request ∈ s.bootstraps))
  | createContainer _ _ _ request => inferInstanceAs (Decidable (request ∈ s.bootstraps))

/-- The records after a call; a record that no service returned is not presented. -/
def ConnectionRecords.call (s : ConnectionRecords) (call : ConnectionCall) : ConnectionRecords :=
  if call.Presents s then
    match call.perform with
    | .ok returned => s.add returned
    | .error _ => s
  else s

/-- The records after a chain of calls. -/
def connectionRun (calls : List ConnectionCall) : ConnectionRecords :=
  calls.foldl ConnectionRecords.call .empty

/-- The request was created by a call of the chain, by the actor it names. -/
def AttachmentRequestedIn (calls : List ConnectionCall) (request : ContainerAttachmentRequest) :
    Prop :=
  ∃ authorizer generated connection,
    ConnectionCall.requestAttachment authorizer generated request.requestedBy connection
      request.resourceScopeId request.candidate ∈ calls ∧
    requestAttachment authorizer generated request.requestedBy connection request.resourceScopeId
      request.candidate = .ok request

/-- **What a binding derives from**: a pending request of the chain, and a later call in which
another actor, whom the authorizer allowed, approved it over its own active connection. -/
def BoundIn (calls : List ConnectionCall) (binding : CloudResourceContainerBinding) : Prop :=
  ∃ before authorizer generated actorId connection request after,
    calls = before ++
      ConnectionCall.approveAttachment authorizer generated actorId connection request :: after ∧
    AttachmentRequestedIn before request ∧
    (ConnectionCall.approveAttachment authorizer generated actorId connection request).Permitted ∧
    binding.Of request ∧ binding.candidate.Within connection

/-- The request was created by a call of the chain, by the actor it names. -/
def BootstrapRequestedIn (calls : List ConnectionCall)
    (request : ProviderContainerBootstrapRequest) : Prop :=
  ∃ authorizer allowsContainerBootstrap generated connection,
    ConnectionCall.requestBootstrap authorizer allowsContainerBootstrap generated
      request.requestedBy connection request.requestedDisplayName ∈ calls ∧
    requestBootstrap authorizer allowsContainerBootstrap generated request.requestedBy connection
      request.requestedDisplayName = .ok request

/-- **What an approval derives from**: a pending request of the chain, and a later call in which
another actor, whom the authorizer allowed, approved it over its own active connection. -/
def ApprovedIn (calls : List ConnectionCall) (approved : ProviderContainerBootstrapRequest) :
    Prop :=
  ∃ before authorizer actorId connection request after,
    calls = before ++
      ConnectionCall.approveBootstrap authorizer actorId connection request :: after ∧
    BootstrapRequestedIn before request ∧
    (ConnectionCall.approveBootstrap authorizer actorId connection request).Permitted ∧
    request.ApprovedAs approved actorId

/-- **What a container derives from**: an approval of the chain, and a later call over the same
active connection, within whose boundary the container is. -/
def CreatedIn (calls : List ConnectionCall) (created : ProviderContainerBootstrapRequest) : Prop :=
  ∃ before configured connection approved candidate after,
    calls = before ++
      ConnectionCall.createContainer configured (.ok candidate) connection approved :: after ∧
    ApprovedIn before approved ∧ MayCreate configured connection approved ∧
    candidate.Within connection ∧ approved.CreatedAs created candidate

/-! ### What a chain returns -/

theorem connectionRun_concat (calls : List ConnectionCall) (call : ConnectionCall) :
    connectionRun (calls ++ [call]) = (connectionRun calls).call call := by
  unfold connectionRun
  rw [List.foldl_append]
  rfl

theorem AttachmentRequestedIn.append {calls : List ConnectionCall}
    {request : ContainerAttachmentRequest} (h : AttachmentRequestedIn calls request)
    (more : List ConnectionCall) : AttachmentRequestedIn (calls ++ more) request := by
  obtain ⟨authorizer, generated, connection, hmem, hrequest⟩ := h
  exact ⟨authorizer, generated, connection, List.mem_append_left _ hmem, hrequest⟩

theorem BoundIn.append {calls : List ConnectionCall} {binding : CloudResourceContainerBinding}
    (h : BoundIn calls binding) (more : List ConnectionCall) : BoundIn (calls ++ more) binding := by
  obtain ⟨before, authorizer, generated, actorId, connection, request, after, rfl, hbound⟩ := h
  exact ⟨before, authorizer, generated, actorId, connection, request, after ++ more, by simp,
    hbound⟩

theorem BootstrapRequestedIn.append {calls : List ConnectionCall}
    {request : ProviderContainerBootstrapRequest} (h : BootstrapRequestedIn calls request)
    (more : List ConnectionCall) : BootstrapRequestedIn (calls ++ more) request := by
  obtain ⟨authorizer, allows, generated, connection, hmem, hrequest⟩ := h
  exact ⟨authorizer, allows, generated, connection, List.mem_append_left _ hmem, hrequest⟩

theorem ApprovedIn.append {calls : List ConnectionCall}
    {approved : ProviderContainerBootstrapRequest} (h : ApprovedIn calls approved)
    (more : List ConnectionCall) : ApprovedIn (calls ++ more) approved := by
  obtain ⟨before, authorizer, actorId, connection, request, after, rfl, happroved⟩ := h
  exact ⟨before, authorizer, actorId, connection, request, after ++ more, by simp, happroved⟩

theorem CreatedIn.append {calls : List ConnectionCall}
    {created : ProviderContainerBootstrapRequest} (h : CreatedIn calls created)
    (more : List ConnectionCall) : CreatedIn (calls ++ more) created := by
  obtain ⟨before, configured, connection, approved, candidate, after, rfl, hcreated⟩ := h
  exact ⟨before, configured, connection, approved, candidate, after ++ more, by simp, hcreated⟩

/-- What a bootstrap record derives from, by its state. -/
def BootstrapDerivesFrom (calls : List ConnectionCall)
    (record : ProviderContainerBootstrapRequest) : Prop :=
  match record.state with
  | .pendingApproval => BootstrapRequestedIn calls record
  | .approved => ApprovedIn calls record
  | .created => CreatedIn calls record

section
variable {calls : List ConnectionCall} {record : ProviderContainerBootstrapRequest}

theorem bootstrapDerivesFrom_of_pending (h : record.state = .pendingApproval) :
    BootstrapDerivesFrom calls record ↔ BootstrapRequestedIn calls record := by
  unfold BootstrapDerivesFrom
  rw [h]

theorem bootstrapDerivesFrom_of_approved (h : record.state = .approved) :
    BootstrapDerivesFrom calls record ↔ ApprovedIn calls record := by
  unfold BootstrapDerivesFrom
  rw [h]

theorem bootstrapDerivesFrom_of_created (h : record.state = .created) :
    BootstrapDerivesFrom calls record ↔ CreatedIn calls record := by
  unfold BootstrapDerivesFrom
  rw [h]

theorem BootstrapDerivesFrom.append (h : BootstrapDerivesFrom calls record)
    (more : List ConnectionCall) : BootstrapDerivesFrom (calls ++ more) record := by
  unfold BootstrapDerivesFrom at h ⊢
  split
  · rename_i hstate
    rw [hstate] at h
    exact BootstrapRequestedIn.append h more
  · rename_i hstate
    rw [hstate] at h
    exact ApprovedIn.append h more
  · rename_i hstate
    rw [hstate] at h
    exact CreatedIn.append h more

end

/-- What is known of the records of a chain. -/
structure ConnectionRecords.DeriveFrom (s : ConnectionRecords) (calls : List ConnectionCall) :
    Prop where
  attachments : ∀ request ∈ s.attachments, request.state = .pendingReview →
    AttachmentRequestedIn calls request
  bindings : ∀ binding ∈ s.bindings, BoundIn calls binding
  bootstraps : ∀ record ∈ s.bootstraps, BootstrapDerivesFrom calls record

/-- A longer chain explains what a shorter one does. -/
theorem ConnectionRecords.DeriveFrom.append {s : ConnectionRecords} {calls : List ConnectionCall}
    (h : s.DeriveFrom calls) (more : List ConnectionCall) : s.DeriveFrom (calls ++ more) where
  attachments := fun request hmem hstate => (h.attachments request hmem hstate).append more
  bindings := fun binding hmem => (h.bindings binding hmem).append more
  bootstraps := fun record hmem => (h.bootstraps record hmem).append more

theorem forall_mem_concat {α : Type} {P : α → Prop} {l : List α} {a : α} (h : ∀ b ∈ l, P b)
    (ha : P a) : ∀ b ∈ l ++ [a], P b :=
  List.forall_mem_append.2 ⟨h, List.forall_mem_singleton.2 ha⟩

/-- **What a call returns derives from the chain with it.** -/
theorem ConnectionRecords.DeriveFrom.add {s : ConnectionRecords} {calls : List ConnectionCall}
    (h : s.DeriveFrom calls) {call : ConnectionCall} (hpresents : call.Presents s)
    {returned : ReturnedRecord} (hperform : call.perform = .ok returned) :
    (s.add returned).DeriveFrom (calls ++ [call]) := by
  have hpermitted : call.Permitted := (permitted_iff call).2 ⟨returned, hperform⟩
  have hchanges : call.Changes returned := changes_of_perform hperform
  have hbefore := h.append [call]
  have hlast : call ∈ calls ++ [call] := List.mem_append_right _ (List.mem_singleton_self call)
  cases call with
  | requestAttachment authorizer generated actorId connection resourceScopeId candidate =>
      obtain ⟨request, hrequest, rfl⟩ := map_eq_ok_iff.1 hperform
      obtain ⟨-, -, -, rfl, -, rfl, rfl⟩ := hchanges
      exact { hbefore with
        attachments := forall_mem_concat hbefore.attachments
          fun _ => ⟨authorizer, generated, connection, hlast, hrequest⟩ }
  | approveAttachment authorizer generated actorId connection request =>
      obtain ⟨result, -, rfl⟩ := map_eq_ok_iff.1 hperform
      obtain ⟨hreviewed, hof⟩ := hchanges
      obtain ⟨-, hpending, -, -, hwithin, -⟩ := id hpermitted
      have hbound : BoundIn (calls ++ [_]) result.2 :=
        ⟨calls, authorizer, generated, actorId, connection, request, [], rfl,
          h.attachments request hpresents hpending, hpermitted, hof, hof.candidate ▸ hwithin⟩
      refine { hbefore with
        attachments := forall_mem_concat hbefore.attachments fun hstate => ?_
        bindings := forall_mem_concat hbefore.bindings hbound }
      rw [hreviewed.state] at hstate
      cases hstate
  | requestBootstrap authorizer allows generated actorId connection displayName =>
      obtain ⟨request, hrequest, rfl⟩ := map_eq_ok_iff.1 hperform
      obtain ⟨hstate, -, -, -, rfl, -, rfl⟩ := hchanges
      have hrequested : BootstrapRequestedIn (calls ++ [_]) request :=
        ⟨authorizer, allows, generated, connection, hlast, hrequest⟩
      exact { hbefore with
        bootstraps := forall_mem_concat hbefore.bootstraps
          ((bootstrapDerivesFrom_of_pending hstate).2 hrequested) }
  | approveBootstrap authorizer actorId connection request =>
      obtain ⟨approved, -, rfl⟩ := map_eq_ok_iff.1 hperform
      have happroved : request.ApprovedAs approved actorId := hchanges
      obtain ⟨-, -, hpending, -⟩ := id hpermitted
      have hrequested : BootstrapRequestedIn calls request :=
        (bootstrapDerivesFrom_of_pending hpending).1 (h.bootstraps request hpresents)
      have hderives : ApprovedIn (calls ++ [_]) approved :=
        ⟨calls, authorizer, actorId, connection, request, [], rfl, hrequested, hpermitted,
          happroved⟩
      exact { hbefore with
        bootstraps := forall_mem_concat hbefore.bootstraps
          ((bootstrapDerivesFrom_of_approved happroved.state).2 hderives) }
  | createContainer configured answer connection request =>
      obtain ⟨created, hdrive, rfl⟩ := map_eq_ok_iff.1 hperform
      obtain ⟨hmay, candidate, rfl, hwithin, -⟩ := drive_createContainerProgram_eq_ok_iff.1 hdrive
      obtain ⟨candidate', hsame, hcreated⟩ := hchanges
      obtain rfl := Except.ok.inj hsame
      have happroved : ApprovedIn calls request :=
        (bootstrapDerivesFrom_of_approved hmay.approved).1 (h.bootstraps request hpresents)
      have hderives : CreatedIn (calls ++ [_]) created :=
        ⟨calls, configured, connection, request, candidate, [], rfl, happroved, hmay, hwithin,
          hcreated⟩
      exact { hbefore with
        bootstraps := forall_mem_concat hbefore.bootstraps
          ((bootstrapDerivesFrom_of_created hcreated.state).2 hderives) }

/-- A refused call leaves the records as they are. -/
theorem ConnectionRecords.call_of_not_permitted {call : ConnectionCall} (h : ¬ call.Permitted) :
    (∃ fault, call.perform = .error fault) ∧ ∀ s : ConnectionRecords, s.call call = s := by
  rw [permitted_iff] at h
  cases hperform : call.perform with
  | ok returned => exact absurd ⟨returned, hperform⟩ h
  | error fault =>
      refine ⟨⟨fault, rfl⟩, fun s => ?_⟩
      unfold ConnectionRecords.call
      rw [hperform]
      split
      · rfl
      · rfl

/-- **The records of a chain derive from it.** -/
theorem deriveFrom_connectionRun (calls : List ConnectionCall) :
    (connectionRun calls).DeriveFrom calls := by
  induction calls using List.reverseRecOn with
  | nil =>
      exact ⟨List.forall_mem_nil _, List.forall_mem_nil _, List.forall_mem_nil _⟩
  | append_singleton calls call ih =>
      rw [connectionRun_concat]
      unfold ConnectionRecords.call
      split
      · rename_i hpresents
        cases hperform : call.perform with
        | ok returned => exact ih.add hpresents hperform
        | error fault => exact ih.append [call]
      · exact ih.append [call]

/-- **Every binding, approval and container derives from a pending request through an approval by
another actor.**  A call whose checks pass changes only what its step is about; every other one
raises and returns no record; and the adapter is called for an approved request only. -/
theorem connection_lifecycle :
    -- what a chain returns
    (∀ calls : List ConnectionCall,
      (∀ binding ∈ (connectionRun calls).bindings, BoundIn calls binding) ∧
      ∀ record ∈ (connectionRun calls).bootstraps,
        (record.state = .approved → ApprovedIn calls record) ∧
          (record.state = .created → CreatedIn calls record)) ∧
    -- each step
    (∀ call : ConnectionCall,
      (call.Permitted → ∃ returned, call.perform = .ok returned ∧ call.Changes returned) ∧
      (¬ call.Permitted → (∃ fault, call.perform = .error fault) ∧
        ∀ s : ConnectionRecords, s.call call = s)) ∧
    -- the adapter
    ∀ (calls : List ConnectionCall) (call : ConnectionCall), call.Presents (connectionRun calls) →
      call.asked ≠ [] → ∃ configured answer connection approved,
        call = .createContainer configured answer connection approved ∧
          MayCreate configured connection approved ∧ ApprovedIn calls approved := by
  refine ⟨fun calls => ?_, fun call => ⟨fun hpermitted => ?_, fun hno => ?_⟩, ?_⟩
  · have hderive := deriveFrom_connectionRun calls
    refine ⟨hderive.bindings, fun record hmem => ⟨fun hstate => ?_, fun hstate => ?_⟩⟩
    · exact (bootstrapDerivesFrom_of_approved hstate).1 (hderive.bootstraps record hmem)
    · exact (bootstrapDerivesFrom_of_created hstate).1 (hderive.bootstraps record hmem)
  · obtain ⟨returned, hperform⟩ := (permitted_iff call).1 hpermitted
    exact ⟨returned, hperform, changes_of_perform hperform⟩
  · exact ConnectionRecords.call_of_not_permitted hno
  · intro calls call hpresents hasked
    obtain ⟨configured, answer, connection, approved, rfl, hmay⟩ := asked_ne_nil hasked
    have hderives := (deriveFrom_connectionRun calls).bootstraps approved hpresents
    exact ⟨configured, answer, connection, approved, rfl, hmay,
      (bootstrapDerivesFrom_of_approved hmay.approved).1 hderives⟩

end PlatformOps.ProviderConnections
