/-
**The protocol of the remote terminal.**

A terminal client remembers, for its thread, the interrupts that the last run left open.  It builds
an input for a new message only while none is open, and a resume only if the responses address each
open interrupt exactly once.  What it remembers changes with the events it observes: an event of
another thread is refused, one that ends no run is passed over, and one that ends a run replaces
what was remembered, whichever run it is of.

Events are whatever the gateway sent.  The helpers read them as mappings, and fail where they are
none.

Main definitions:

* `RemoteTUIState`, `RemoteFault` — what a client remembers, and what its helpers raise;
* `buildUserRunInput`, `observeAguiEvent`, `buildResumeRunInput` — the helpers;
* `RunEnds` — an event ends a run of a thread and leaves these interrupts open;
* `observeAll` — a client that observes events one after another.

Main results:

* `observeAguiEvent_of_ends`, `observeAguiEvent_of_not_ends` — an event that ends a run replaces
  what is remembered, and no other event changes it;
* `remote_client_follows_last_end` — **a client builds messages and resumes for the last end of a
  run that it observed**.
-/

import Mathlib.Data.List.Dedup
import PlatformOps.TuiAnswers

set_option relaxedAutoImplicit false
set_option autoImplicit false

namespace PlatformOps

/-! ### Reading values -/

/-- What the helpers raise. -/
inductive RemoteFault
  | valueError (message : String)
  | attributeError (name : String)
  | typeError
  deriving DecidableEq

/-- `value.get`: only a mapping has it. -/
def getOf (value : Json) (key : String) : Except RemoteFault Json :=
  match value.asObject with
  | some fields => .ok ((fields.get? key).getD .null)
  | none => .error (.attributeError "get")

/-- The items a loop goes through: those of a list, the keys of a mapping, or the characters of a
text. -/
def itemsOf : Json → Except RemoteFault (List Json)
  | .arr items => .ok items
  | .obj fields => .ok (fields.map fun p => .str p.1)
  | .str text => .ok (text.toList.map fun c => .str (String.ofList [c]))
  | _ => .error .typeError

/-- The value can be an element of a set. -/
def isHashable : Json → Bool
  | .arr _ => false
  | .obj _ => false
  | _ => true

/-! ### The client -/

/-- What a client remembers of its thread.  The ids and the run id are whatever an event had. -/
structure RemoteTUIState where
  threadId : String
  pendingInterruptIds : List Json
  interruptedRunId : Json

/-- A new client. -/
def RemoteTUIState.new (threadId : String) : RemoteTUIState := ⟨threadId, [], .null⟩

def RemoteTUIState.hasPendingInterrupts (state : RemoteTUIState) : Bool :=
  !state.pendingInterruptIds.isEmpty

/-- `_interrupt_id`. -/
def interruptIdOf (interrupt : Json) : Except RemoteFault Json := do
  let interruptId ← getOf interrupt "id"
  if interruptId.truthy then pure interruptId
  else .error (.valueError "interrupt is missing its id")

/-- The input of a run that starts with a message. -/
def userRunInput (threadId runId message : String) : Json :=
  .obj [("threadId", .str threadId), ("runId", .str runId),
    ("messages", .arr [.obj [("role", .str "user"), ("content", .str message)]])]

/-- The input of a run that resumes interrupts. -/
def resumeRunInput (texts : Interaction.DatetimeTexts) (threadId runId : String)
    (responses : List Interaction.HITLResponse) : Json :=
  .obj [("threadId", .str threadId), ("runId", .str runId),
    ("resume", .arr (responses.map (Interaction.hitlResponseToResumeEntry texts)))]

def buildUserRunInput (state : RemoteTUIState) (runId message : String) :
    Except RemoteFault Json :=
  if state.hasPendingInterrupts then
    .error (.valueError "pending interrupts must be resumed before sending new input")
  else .ok (userRunInput state.threadId runId message)

/-- The value is there, and is another text than this one. -/
def isOther (value : Json) (text : String) : Bool :=
  !Interaction.isNull value && value.asString ≠ some text

def observeAguiEvent (state : RemoteTUIState) (event : Json) :
    Except RemoteFault RemoteTUIState := do
  let threadId ← getOf event "threadId"
  if isOther threadId state.threadId then
    .error (.valueError "AG-UI event threadId does not match remote TUI thread")
  else do
    let type ← getOf event "type"
    if type.asString ≠ some "RUN_FINISHED" then pure state
    else do
      let given ← getOf event "outcome"
      let outcome := if given.truthy then given else .obj [("type", .str "success")]
      let outcomeType ← getOf outcome "type"
      if outcomeType.asString = some "interrupt" then do
        let given ← getOf outcome "interrupts"
        let interrupts ← itemsOf (if given.truthy then given else .arr [])
        let interruptIds ← interrupts.mapM interruptIdOf
        if interruptIds.isEmpty then
          .error (.valueError "interrupt outcome must carry at least one interrupt")
        else do
          let runId ← getOf event "runId"
          pure { state with pendingInterruptIds := interruptIds, interruptedRunId := runId }
      else pure { state with pendingInterruptIds := [], interruptedRunId := .null }

/-- The responses and the open interrupts have the same ids, which have to be hashable. -/
def sameIds (responseIds : List String) (pendingIds : List Json) : Except RemoteFault Bool :=
  if pendingIds.all isHashable then
    .ok (responseIds.all (fun id => pendingIds.any fun p => p.asString = some id) &&
      pendingIds.all fun p => responseIds.any fun id => p.asString = some id)
  else .error .typeError

def buildResumeRunInput (texts : Interaction.DatetimeTexts) (state : RemoteTUIState)
    (runId : String) (responses : List Interaction.HITLResponse) : Except RemoteFault Json :=
  if !state.hasPendingInterrupts then .error (.valueError "no pending interrupts to resume")
  else do
    let responseIds := responses.map Interaction.HITLResponse.eventId
    let same ← sameIds responseIds state.pendingInterruptIds
    if !same then .error (.valueError "resume must address every pending interrupt exactly once")
    else if responseIds.length ≠ responseIds.dedup.length then
      .error (.valueError "resume contains duplicate interrupt responses")
    else pure (resumeRunInput texts state.threadId runId responses)

/-! ### Events that end a run -/

/-- The event is a mapping, ends a run, and names this thread or none. -/
structure EndsRun (threadId : String) (event : Json) : Prop where
  thread : ∃ value, getOf event "threadId" = .ok value ∧ isOther value threadId = false
  type : getOf event "type" = .ok (.str "RUN_FINISHED")

/-- The event ends a run of this thread, and leaves these interrupts of this run open: those its
outcome lists, or none. -/
inductive RunEnds (threadId : String) (event : Json) : List Json → Json → Prop
  | success (ends : EndsRun threadId event) {outcome : Json}
      (given : getOf event "outcome" = .ok outcome)
      (plain : outcome.truthy = true →
        ∃ type, getOf outcome "type" = .ok type ∧ type ≠ .str "interrupt") :
      RunEnds threadId event [] .null
  | interrupt (ends : EndsRun threadId event) {outcome given runId : Json}
      {interrupts ids : List Json} (outcomeGiven : getOf event "outcome" = .ok outcome)
      (isInterrupt : getOf outcome "type" = .ok (.str "interrupt"))
      (listed : getOf outcome "interrupts" = .ok given)
      (items : itemsOf given = .ok interrupts)
      (named : interrupts.mapM interruptIdOf = .ok ids) (nonempty : ids ≠ [])
      (run : getOf event "runId" = .ok runId) : RunEnds threadId event ids runId

/-- A client after it observed these events.  What is raised leaves it as it is. -/
def observeAll (threadId : String) (events : List Json) : RemoteTUIState :=
  events.foldl (fun state event => (observeAguiEvent state event).toOption.getD state)
    (.new threadId)

/-- The last of the events that ends a run leaves these interrupts of this run open. -/
def LastEnd (threadId : String) (events : List Json) (ids : List Json) (runId : Json) : Prop :=
  (∃ before event after, events = before ++ event :: after ∧ RunEnds threadId event ids runId ∧
      ∀ other ∈ after, ∀ ids' runId', ¬ RunEnds threadId other ids' runId') ∨
    ((∀ event ∈ events, ∀ ids' runId', ¬ RunEnds threadId event ids' runId') ∧
      ids = [] ∧ runId = .null)

/-! ### What an event changes -/

variable {threadId : String} {state state' : RemoteTUIState} {event : Json}

theorem ite_error_eq_ok_iff {ε α : Type} {p : Prop} [Decidable p] {e : ε} {x : Except ε α} {a : α} :
    (if p then .error e else x) = .ok a ↔ ¬ p ∧ x = .ok a := by
  by_cases h : p
  · simp [h]
  · simp [h]

/-- Only a mapping has something under a key. -/
theorem getOf_eq_ok {value result : Json} {key : String} (h : getOf value key = .ok result) :
    ∃ fields, value = .obj fields := by
  cases value with
  | obj fields => exact ⟨fields, rfl⟩
  | _ => cases h

/-- A mapping that has something that is not null is true. -/
theorem truthy_of_getOf {value result : Json} {key : String} (h : getOf value key = .ok result)
    (hresult : result ≠ .null) : value.truthy = true := by
  obtain ⟨fields, rfl⟩ := getOf_eq_ok h
  cases fields with
  | nil =>
      cases h
      exact absurd rfl hresult
  | cons field fields => rfl

/-- What has items with ids is true. -/
theorem truthy_of_items {given : Json} {interrupts ids : List Json}
    (items : itemsOf given = .ok interrupts) (named : interrupts.mapM interruptIdOf = .ok ids)
    (nonempty : ids ≠ []) : given.truthy = true := by
  have hne : interrupts ≠ [] := by
    rintro rfl
    cases named
    exact nonempty rfl
  cases given with
  | arr l =>
      cases l with
      | nil =>
          cases items
          exact absurd rfl hne
      | cons => rfl
  | obj l =>
      cases l with
      | nil =>
          cases items
          exact absurd rfl hne
      | cons => rfl
  | str text =>
      cases items
      have htext : text ≠ "" := by
        rintro rfl
        exact hne rfl
      simpa [Json.truthy] using htext
  | _ => cases items

/-- **An event that ends a run replaces what is remembered.** -/
theorem observeAguiEvent_of_ends {ids : List Json} {runId : Json}
    (h : RunEnds state.threadId event ids runId) :
    observeAguiEvent state event =
      .ok { state with pendingInterruptIds := ids, interruptedRunId := runId } := by
  have finished : ¬ (Json.str "RUN_FINISHED").asString ≠ some "RUN_FINISHED" := not_not.2 rfl
  have interrupted : (Json.str "interrupt").asString = some "interrupt" := rfl
  unfold observeAguiEvent
  cases h with
  | success ends given plain =>
      rename_i outcome
      obtain ⟨value, hvalue, hthread⟩ := ends.thread
      have houtcome : ∃ type, getOf (if outcome.truthy then outcome else
          .obj [("type", .str "success")]) "type" = .ok type ∧ type ≠ .str "interrupt" := by
        by_cases htrue : outcome.truthy = true
        · rw [if_pos htrue]
          exact plain htrue
        · rw [if_neg htrue]
          exact ⟨.str "success", rfl, by simp⟩
      obtain ⟨type, htype, hne⟩ := houtcome
      refine bind_eq_ok_iff.2 ⟨value, hvalue, ite_error_eq_ok_iff.2 ⟨by simp [hthread], ?_⟩⟩
      refine bind_eq_ok_iff.2 ⟨_, ends.type, ?_⟩
      rw [if_neg finished]
      refine bind_eq_ok_iff.2 ⟨outcome, given, bind_eq_ok_iff.2 ⟨type, htype, ?_⟩⟩
      rw [if_neg fun h => hne (Json.asString_eq_some.1 h)]
      rfl
  | interrupt ends outcomeGiven isInterrupt listed items named nonempty run =>
      rename_i outcome given interrupts
      obtain ⟨value, hvalue, hthread⟩ := ends.thread
      have houtcome : outcome.truthy = true := truthy_of_getOf isInterrupt (by simp)
      refine bind_eq_ok_iff.2 ⟨value, hvalue, ite_error_eq_ok_iff.2 ⟨by simp [hthread], ?_⟩⟩
      refine bind_eq_ok_iff.2 ⟨_, ends.type, ?_⟩
      rw [if_neg finished]
      refine bind_eq_ok_iff.2 ⟨outcome, outcomeGiven, ?_⟩
      rw [if_pos houtcome]
      refine bind_eq_ok_iff.2 ⟨_, isInterrupt, ?_⟩
      rw [if_pos interrupted]
      refine bind_eq_ok_iff.2 ⟨given, listed, ?_⟩
      rw [if_pos (truthy_of_items items named nonempty)]
      refine bind_eq_ok_iff.2 ⟨interrupts, items, bind_eq_ok_iff.2 ⟨ids, named, ?_⟩⟩
      refine ite_error_eq_ok_iff.2 ⟨fun h => nonempty (List.isEmpty_iff.1 h), ?_⟩
      exact bind_eq_ok_iff.2 ⟨runId, run, rfl⟩

/-- **An event that is accepted ends a run, or changes nothing.** -/
theorem observeAguiEvent_eq_ok (h : observeAguiEvent state event = .ok state') :
    state' = state ∨ ∃ ids runId, RunEnds state.threadId event ids runId := by
  unfold observeAguiEvent at h
  obtain ⟨value, hvalue, h⟩ := bind_eq_ok_iff.1 h
  obtain ⟨hthread, h⟩ := ite_error_eq_ok_iff.1 h
  obtain ⟨type, htype, h⟩ := bind_eq_ok_iff.1 h
  by_cases hends : type.asString = some "RUN_FINISHED"
  swap
  · rw [if_pos hends] at h
    cases h
    exact .inl rfl
  rw [if_neg (not_not.2 hends)] at h
  obtain rfl := Json.asString_eq_some.1 hends
  have ends : EndsRun state.threadId event :=
    ⟨⟨value, hvalue, Bool.eq_false_iff.2 hthread⟩, htype⟩
  obtain ⟨given, hgiven, h⟩ := bind_eq_ok_iff.1 h
  obtain ⟨outcomeType, houtcome, h⟩ := bind_eq_ok_iff.1 h
  by_cases hinterrupt : outcomeType.asString = some "interrupt"
  swap
  · refine .inr ⟨_, _, .success ends hgiven fun htrue => ⟨outcomeType, ?_, ?_⟩⟩
    · rwa [if_pos htrue] at houtcome
    · rintro rfl
      exact hinterrupt rfl
  rw [if_pos hinterrupt] at h
  obtain rfl := Json.asString_eq_some.1 hinterrupt
  have htrue : given.truthy = true := by
    by_contra hfalse
    rw [if_neg hfalse] at houtcome
    exact absurd (Json.str.inj (Except.ok.inj houtcome) : "success" = "interrupt") (by decide)
  rw [if_pos htrue] at houtcome h
  obtain ⟨listed, hlisted, h⟩ := bind_eq_ok_iff.1 h
  obtain ⟨interrupts, hitems, h⟩ := bind_eq_ok_iff.1 h
  obtain ⟨ids, hids, h⟩ := bind_eq_ok_iff.1 h
  obtain ⟨hnonempty, h⟩ := ite_error_eq_ok_iff.1 h
  obtain ⟨runId, hrun, -⟩ := bind_eq_ok_iff.1 h
  have hne : ids ≠ [] := by
    rintro rfl
    exact hnonempty rfl
  by_cases hlistedTrue : listed.truthy = true
  · rw [if_pos hlistedTrue] at hitems
    exact .inr ⟨ids, runId, .interrupt ends hgiven houtcome hlisted hitems hids hne hrun⟩
  · -- what is false lists no interrupts
    rw [if_neg hlistedTrue] at hitems
    cases hitems
    cases hids
    exact absurd rfl hne

/-- An event that ends no run of the thread changes nothing. -/
theorem observeAguiEvent_of_not_ends (h : ∀ ids runId, ¬ RunEnds state.threadId event ids runId) :
    (observeAguiEvent state event).toOption.getD state = state := by
  cases hobserve : observeAguiEvent state event with
  | error fault => rfl
  | ok state' =>
      rcases observeAguiEvent_eq_ok hobserve with rfl | ⟨ids, runId, hends⟩
      · rfl
      · exact absurd hends (h ids runId)

/-! ### What is built -/

/-- A message is built exactly while no interrupt is open. -/
theorem buildUserRunInput_eq_ok_iff {runId message : String} {body : Json} :
    buildUserRunInput state runId message = .ok body ↔
      state.pendingInterruptIds = [] ∧ body = userRunInput state.threadId runId message := by
  unfold buildUserRunInput RemoteTUIState.hasPendingInterrupts
  rw [ite_error_eq_ok_iff, Except.ok.injEq, Bool.not_eq_true', Bool.not_eq_false,
    List.isEmpty_iff]
  exact and_congr_right fun _ => eq_comm

theorem length_dedup_eq_iff {l : List String} : l.length = l.dedup.length ↔ l.Nodup := by
  constructor
  · intro h
    rw [← (List.dedup_sublist l).eq_of_length h.symm]
    exact List.nodup_dedup l
  · intro h
    rw [h.dedup]

/-- The ids agree exactly if each of the responses is open, and each of the open ones, which are
texts then, has a response. -/
theorem sameIds_eq_true_iff {responseIds : List String} {pendingIds : List Json} :
    sameIds responseIds pendingIds = .ok true ↔
      (∀ id ∈ responseIds, .str id ∈ pendingIds) ∧
        ∀ pending ∈ pendingIds, ∃ id ∈ responseIds, pending = .str id := by
  unfold sameIds
  by_cases hhash : pendingIds.all isHashable = true
  · rw [if_pos hhash]
    simp [Json.asString_eq_some]
  · rw [if_neg hhash]
    refine iff_of_false (by simp) fun h => hhash (List.all_eq_true.2 fun pending hpending => ?_)
    obtain ⟨id, -, rfl⟩ := h.2 pending hpending
    rfl

/-- The responses address each of these interrupts once, and nothing else. -/
structure AddressesEach (responses : List Interaction.HITLResponse) (ids : List Json) : Prop where
  once : (responses.map Interaction.HITLResponse.eventId).Nodup
  opened : ∀ response ∈ responses, .str response.eventId ∈ ids
  each : ∀ pending ∈ ids, ∃ response ∈ responses, pending = .str response.eventId

theorem addressesEach_iff {responses : List Interaction.HITLResponse} {ids : List Json} :
    AddressesEach responses ids ↔
      (responses.map Interaction.HITLResponse.eventId).length =
          (responses.map Interaction.HITLResponse.eventId).dedup.length ∧
        sameIds (responses.map Interaction.HITLResponse.eventId) ids = .ok true := by
  rw [length_dedup_eq_iff, sameIds_eq_true_iff]
  simp only [List.mem_map, forall_exists_index, and_imp, forall_apply_eq_imp_iff₂,
    exists_exists_and_eq_and]
  exact ⟨fun h => ⟨h.once, h.opened, h.each⟩, fun h => ⟨h.1, h.2.1, h.2.2⟩⟩

/-- **A resume is built exactly if its responses address each open interrupt once.** -/
theorem buildResumeRunInput_eq_ok_iff {texts : Interaction.DatetimeTexts} {runId : String}
    {responses : List Interaction.HITLResponse} {body : Json} :
    buildResumeRunInput texts state runId responses = .ok body ↔
      state.pendingInterruptIds ≠ [] ∧ AddressesEach responses state.pendingInterruptIds ∧
        body = resumeRunInput texts state.threadId runId responses := by
  rw [addressesEach_iff]
  unfold buildResumeRunInput RemoteTUIState.hasPendingInterrupts
  constructor
  · intro h
    obtain ⟨hpending, h⟩ := ite_error_eq_ok_iff.1 h
    obtain ⟨same, hids, h⟩ := bind_eq_ok_iff.1 h
    obtain ⟨htrue, h⟩ := ite_error_eq_ok_iff.1 h
    obtain ⟨hlength, h⟩ := ite_error_eq_ok_iff.1 h
    have hsame : same = true := by simpa using htrue
    rw [hsame] at hids
    exact ⟨by simpa using hpending, ⟨not_not.1 hlength, hids⟩, (Except.ok.inj h).symm⟩
  · rintro ⟨hpending, ⟨hlength, hids⟩, rfl⟩
    refine ite_error_eq_ok_iff.2 ⟨by simpa using hpending, ?_⟩
    refine bind_eq_ok_iff.2 ⟨true, hids, ite_error_eq_ok_iff.2 ⟨by simp, ?_⟩⟩
    exact ite_error_eq_ok_iff.2 ⟨not_not.2 hlength, rfl⟩

/-! ### Runs of a client -/

theorem observeAll_concat (threadId : String) (events : List Json) (event : Json) :
    observeAll threadId (events ++ [event]) =
      (observeAguiEvent (observeAll threadId events) event).toOption.getD
        (observeAll threadId events) := by
  simp [observeAll]

/-- A client stays with its thread. -/
theorem threadId_observeAll (threadId : String) (events : List Json) :
    (observeAll threadId events).threadId = threadId := by
  induction events using List.reverseRecOn with
  | nil => rfl
  | append_singleton events event ih =>
      rw [observeAll_concat]
      by_cases h : ∃ ids runId, RunEnds (observeAll threadId events).threadId event ids runId
      · obtain ⟨ids, runId, hends⟩ := h
        rw [observeAguiEvent_of_ends hends]
        exact ih
      · rw [observeAguiEvent_of_not_ends fun ids runId hends => h ⟨ids, runId, hends⟩]
        exact ih

/-- What a client remembers is what the last end of a run left. -/
theorem lastEnd_observeAll (threadId : String) (events : List Json) :
    LastEnd threadId events (observeAll threadId events).pendingInterruptIds
      (observeAll threadId events).interruptedRunId := by
  induction events using List.reverseRecOn with
  | nil => exact .inr ⟨by simp, rfl, rfl⟩
  | append_singleton events event ih =>
      rw [observeAll_concat]
      by_cases h : ∃ ids runId, RunEnds threadId event ids runId
      · obtain ⟨ids, runId, hends⟩ := h
        rw [observeAguiEvent_of_ends (by rwa [threadId_observeAll])]
        exact .inl ⟨events, event, [], rfl, hends, by simp⟩
      · have hnot : ∀ ids runId, ¬ RunEnds threadId event ids runId :=
          fun ids runId hends => h ⟨ids, runId, hends⟩
        rw [observeAguiEvent_of_not_ends (by rwa [threadId_observeAll])]
        rcases ih with ⟨before, last, after, hsplit, hends, hafter⟩ | ⟨hnone, hids, hrun⟩
        · refine .inl ⟨before, last, after ++ [event], by simp [hsplit], hends, ?_⟩
          intro other hother
          rcases List.mem_append.1 hother with hold | hnew
          · exact hafter other hold
          · rw [List.mem_singleton.1 hnew]
            exact hnot
        · refine .inr ⟨?_, hids, hrun⟩
          intro other hother
          rcases List.mem_append.1 hother with hold | hnew
          · exact hnone other hold
          · rw [List.mem_singleton.1 hnew]
            exact hnot

/-- **A client builds messages and resumes for the last end of a run that it observed**, whichever
run that was of, and for nothing where it observed none. -/
theorem remote_client_follows_last_end (texts : Interaction.DatetimeTexts) (threadId : String)
    (events : List Json) :
    ∃ ids runId, LastEnd threadId events ids runId ∧
      observeAll threadId events = ⟨threadId, ids, runId⟩ ∧
      (∀ newRun message body,
        buildUserRunInput (observeAll threadId events) newRun message = .ok body ↔
          ids = [] ∧ body = userRunInput threadId newRun message) ∧
      ∀ newRun responses body,
        buildResumeRunInput texts (observeAll threadId events) newRun responses = .ok body ↔
          ids ≠ [] ∧ AddressesEach responses ids ∧
            body = resumeRunInput texts threadId newRun responses := by
  have hstate : observeAll threadId events =
      ⟨threadId, (observeAll threadId events).pendingInterruptIds,
        (observeAll threadId events).interruptedRunId⟩ := by
    have hthread := threadId_observeAll threadId events
    cases hobserved : observeAll threadId events with
    | mk thread ids run =>
        rw [hobserved] at hthread
        rw [← hthread]
  refine ⟨_, _, lastEnd_observeAll threadId events, hstate, ?_, ?_⟩
  · intro newRun message body
    rw [buildUserRunInput_eq_ok_iff, threadId_observeAll]
  · intro newRun responses body
    rw [buildResumeRunInput_eq_ok_iff, threadId_observeAll]

end PlatformOps
