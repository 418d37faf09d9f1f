/-
**The threads of a browser window.**

A window keeps a registry of threads, newest first, and shows one of them.  Each thread has a client
of its own.  A card of a registered thread selects or closes it; what is typed and what is clicked
goes to the client of the selected thread.  A client that was closed is out of reach, but what it
awaits may still be answered.

The identifiers of threads come from outside, and are fresh.

Main definitions:

* `ThreadManager` with `createThread`, `closeThread`, `getThread` — the registry;
* `deriveStatus` — what a card says about its thread;
* `BrowserApp`, `BrowserAppStep`, `browserAppStep` — a window, and its steps;
* `BrowserApp.Consistent` — the registry, the order and the selection agree;
* `ThreadsApart` — what it is for the threads to be independent of one another.

Main results:

* `consistent_browserRun` — the registry, the order and the selection agree in every run;
* `pools_browserRun` — the clients are a family of instances;
* `browser_threads_apart` — **the threads of a window are independent of one another**.
-/

import PlatformOps.SystemFamily
import PlatformOps.ThreadClient

set_option relaxedAutoImplicit false
set_option autoImplicit false

namespace PlatformOps

/-! ### The registry -/

/-- The registered clients, and the order in which they are shown. -/
structure ThreadManager where
  clients : Dict String ℕ
  order : List String

def createThreadManager : ThreadManager := ⟨.empty, []⟩

namespace ThreadManager

/-- A new client is registered, and shown first. -/
def createThread (manager : ThreadManager) (id : String) (client : ℕ) : ThreadManager :=
  ⟨manager.clients.set id client, id :: manager.order⟩

def closeThread (manager : ThreadManager) (id : String) : ThreadManager :=
  ⟨manager.clients.erase id, manager.order.filter (· ≠ id)⟩

def getThread (manager : ThreadManager) (id : String) : Option ℕ := manager.clients.get? id

def getThreadIds (manager : ThreadManager) : List String := manager.order

end ThreadManager

/-! ### What a card says -/

/-- A `SessionStatus`. -/
inductive SessionStatus
  | new
  | working
  | needsInput
  | awaitingApproval
  | done
  | error
  deriving DecidableEq

def deriveStatus {Surfaces : Type} (state : ThreadState Surfaces) : SessionStatus :=
  if state.isSubmitting then .working
  else
    match state.turns.getLast? with
    | none => .new
    | some last =>
        match last.kind with
        | .clarificationRequired => .needsInput
        | .approvalRequired => .awaitingApproval
        | .error => .error
        | _ => .done

/-! ### A window -/

section

variable {Surfaces : Type}

/-- A client with the calls that were made to it. -/
abbrev ClientPool (Surfaces : Type) : Type :=
  Pool (ThreadState Surfaces) ClientRequest ClientAnswer AgentError PUnit ClientInput

/-- A step of a client. -/
abbrev ClientStep : Type := Step ClientAnswer ClientInput AgentEvent

/-- A window: the registry, the selected thread, and the clients in the order of their creation. -/
structure BrowserApp (Surfaces : Type) where
  manager : ThreadManager
  selectedId : Option String
  pools : List (ClientPool Surfaces)

/-- What happens in a window: a button or a card is clicked, something is sent or clicked in the
selected thread, a request of a client is answered, or the agent's library acts on a client. -/
inductive BrowserAppStep
  | openNewThread (id : String)
  | openCard (id : String)
  | closeCard (id : String)
  | hidePanel
  | submit (input scope : String)
  | click (action : A2uiAction)
  | answer (client task : ℕ) (answer : ClientAnswer)
  | agent (client : ℕ) (event : AgentEvent)

namespace BrowserApp

/-- A new window. -/
def new : BrowserApp Surfaces := ⟨createThreadManager, none, []⟩

/-- The client of the selected thread.  An empty identifier selects nothing. -/
def selectedClient (app : BrowserApp Surfaces) : Option ℕ :=
  match app.selectedId with
  | none => none
  | some id => if id = "" then none else app.manager.getThread id

/-- The thread has a card: it is listed, and has a client. -/
def HasCard (app : BrowserApp Surfaces) (id : String) : Prop :=
  id ∈ app.manager.getThreadIds ∧ (app.manager.getThread id).isSome = true

instance (app : BrowserApp Surfaces) (id : String) : Decidable (app.HasCard id) :=
  inferInstanceAs (Decidable (_ ∧ _))

/-- `handleSubmit`: what is typed is sent without the blanks around it, unless nothing is left or
something was submitted. -/
def submitted (app : BrowserApp Surfaces) (client : ℕ) (input scope : String) :
    List ClientStep :=
  match app.pools[client]? with
  | none => []
  | some p =>
      if JsString.trim input = "" ∨ p.world.isSubmitting = true then []
      else [.spawn (.message (JsString.trim input) scope)]

/-- The step of a client that a step of the window is, if it is one. -/
def clientStep (app : BrowserApp Surfaces) : BrowserAppStep → List (ℕ × ClientStep)
  | .submit input scope =>
      app.selectedClient.toList.flatMap fun client =>
        (app.submitted client input scope).map fun e => (client, e)
  | .click action => app.selectedClient.toList.map fun client => (client, .spawn (.action action))
  | .answer client task answer => [(client, .deliver task answer)]
  | .agent client event => [(client, .environment event)]
  | _ => []

/-- What a step of the window does to the clients. -/
def effect (app : BrowserApp Surfaces) :
    BrowserAppStep → List (FamilyStep ClientAnswer ClientInput AgentEvent)
  | .openNewThread _ => [.create]
  | e => (app.clientStep e).map fun p => .within p.1 p.2

/-- What a step of the window does to the registry and the selection. -/
def navigate (app : BrowserApp Surfaces) : BrowserAppStep → ThreadManager × Option String
  | .openNewThread id => (app.manager.createThread id app.pools.length, some id)
  | .openCard id =>
      if app.HasCard id then (app.manager, some id) else (app.manager, app.selectedId)
  | .closeCard id =>
      if app.HasCard id then
        (app.manager.closeThread id, if app.selectedId = some id then none else app.selectedId)
      else (app.manager, app.selectedId)
  | .hidePanel => (app.manager, none)
  | _ => (app.manager, app.selectedId)

end BrowserApp

variable (lib : ClientLibrary Surfaces) (noSurfaces : Surfaces)

/-- A step of a window. -/
def browserAppStep (app : BrowserApp Surfaces) (e : BrowserAppStep) : BrowserApp Surfaces :=
  ⟨(app.navigate e).1, (app.navigate e).2,
    (app.effect e).foldl ((threadSystem lib).familyStep (createThreadClient noSurfaces)) app.pools⟩

/-- A run of a new window. -/
def browserRun (steps : List BrowserAppStep) : BrowserApp Surfaces :=
  steps.foldl (browserAppStep lib noSurfaces) .new

/-- What the steps of a run do to the clients. -/
def browserEffects : List BrowserAppStep → BrowserApp Surfaces →
    List (FamilyStep ClientAnswer ClientInput AgentEvent)
  | [], _ => []
  | e :: steps, app => app.effect e ++ browserEffects steps (browserAppStep lib noSurfaces app e)

/-- The identifiers of the threads that were created, newest first. -/
def createdIds : List BrowserAppStep → List String
  | [] => []
  | .openNewThread id :: steps => createdIds steps ++ [id]
  | _ :: steps => createdIds steps

/-- The registry, the order and the selection agree: the threads that are listed are those that have
a client, newest first, each with a client of its own, and the selected one is among them. -/
structure BrowserApp.Consistent (created : List String) (app : BrowserApp Surfaces) : Prop where
  newestFirst : app.manager.order.Sublist created
  listed : ∀ id, id ∈ app.manager.order ↔ (app.manager.getThread id).isSome = true
  own : ∀ id id' n, app.manager.getThread id = some n → app.manager.getThread id' = some n →
    id = id'
  existing : ∀ id n, app.manager.getThread id = some n → n < app.pools.length
  selected : ∀ id, app.selectedId = some id → id ∈ app.manager.order

/-! ### The registry in every run -/

variable {lib} {noSurfaces} {app : BrowserApp Surfaces} {created : List String}

theorem createdIds_concat (steps : List BrowserAppStep) (e : BrowserAppStep) :
    createdIds (steps ++ [e]) = createdIds [e] ++ createdIds steps := by
  induction steps with
  | nil => simp [createdIds]
  | cons e' steps ih => cases e' <;> simp [createdIds, ih]

/-- Steps within clients create none. -/
theorem length_foldl_within (calls : List (ℕ × ClientStep)) (pools : List (ClientPool Surfaces)) :
    ((calls.map fun p => FamilyStep.within p.1 p.2).foldl
      ((threadSystem lib).familyStep (createThreadClient noSurfaces)) pools).length =
        pools.length := by
  induction calls generalizing pools with
  | nil => rfl
  | cons call calls ih => simp [ih, System.familyStep]

variable (lib) (noSurfaces) (app) in
theorem le_length_step (e : BrowserAppStep) :
    app.pools.length ≤ (browserAppStep lib noSurfaces app e).pools.length := by
  cases e with
  | openNewThread id => simp [browserAppStep, BrowserApp.effect, System.familyStep]
  | _ => exact (length_foldl_within _ _).ge

namespace BrowserApp

/-- Nothing has happened to a new window. -/
theorem consistent_new : (new : BrowserApp Surfaces).Consistent [] where
  newestFirst := List.Sublist.refl _
  listed _ := by simp [new, createThreadManager, ThreadManager.getThread]
  own _ _ _ h := by simp [new, createThreadManager, ThreadManager.getThread] at h
  existing _ _ h := by simp [new, createThreadManager, ThreadManager.getThread] at h
  selected _ h := by simp [new] at h

theorem Consistent.mono {pools : List (ClientPool Surfaces)} (h : app.Consistent created)
    (hpools : app.pools.length ≤ pools.length) {selectedId : Option String}
    (hselected : ∀ id, selectedId = some id → id ∈ app.manager.order) :
    Consistent created ⟨app.manager, selectedId, pools⟩ where
  newestFirst := h.newestFirst
  listed := h.listed
  own := h.own
  existing id n hget := (h.existing id n hget).trans_le hpools
  selected := hselected

/-- A thread with a new identifier is registered and shown. -/
theorem Consistent.open (h : app.Consistent created) {id : String} (hid : id ∉ created)
    {pools : List (ClientPool Surfaces)} (hpools : app.pools.length < pools.length) :
    Consistent (id :: created)
      ⟨app.manager.createThread id app.pools.length, some id, pools⟩ where
  newestFirst := h.newestFirst.cons_cons id
  listed id' := by
    by_cases hid' : id' = id
    · simp [ThreadManager.createThread, ThreadManager.getThread, hid']
    · simpa [ThreadManager.createThread, ThreadManager.getThread, hid', Dict.get?_set] using
        h.listed id'
  own id₁ id₂ n h₁ h₂ := by
    -- the new client is none of those that are registered
    rcases Dict.get?_set_eq_some_iff.1 h₁ with ⟨rfl, rfl⟩ | ⟨-, hold₁⟩
    · rcases Dict.get?_set_eq_some_iff.1 h₂ with ⟨rfl, -⟩ | ⟨-, hold₂⟩
      · rfl
      · exact absurd (h.existing _ _ hold₂) (Nat.lt_irrefl _)
    · rcases Dict.get?_set_eq_some_iff.1 h₂ with ⟨rfl, rfl⟩ | ⟨-, hold₂⟩
      · exact absurd (h.existing _ _ hold₁) (Nat.lt_irrefl _)
      · exact h.own _ _ _ hold₁ hold₂
  existing id' n hget := by
    rcases Dict.get?_set_eq_some_iff.1 hget with ⟨-, rfl⟩ | ⟨-, hget⟩
    · exact hpools
    · exact (h.existing _ _ hget).trans hpools
  selected id' hid' := by
    obtain rfl := Option.some.inj hid'
    exact List.mem_cons_self

/-- A thread is closed, and no longer shown. -/
theorem Consistent.close (h : app.Consistent created) (id : String) :
    Consistent created ⟨app.manager.closeThread id,
      if app.selectedId = some id then none else app.selectedId, app.pools⟩ where
  newestFirst := List.filter_sublist.trans h.newestFirst
  listed id' := by
    by_cases hid' : id' = id
    · simp [ThreadManager.closeThread, ThreadManager.getThread, hid']
    · simpa [ThreadManager.closeThread, ThreadManager.getThread, hid', Dict.get?_erase] using
        h.listed id'
  own id₁ id₂ n h₁ h₂ := h.own _ _ _ (Dict.get?_erase_eq_some_iff.1 h₁).2
    (Dict.get?_erase_eq_some_iff.1 h₂).2
  existing id' n hget := h.existing _ _ (Dict.get?_erase_eq_some_iff.1 hget).2
  selected id' hid' := by
    split at hid'
    · cases hid'
    · rename_i hne
      have hid : id' ≠ id := fun heq => hne (heq ▸ hid')
      exact List.mem_filter.2 ⟨h.selected id' hid', by simpa using hid⟩

/-- **One step keeps the registry consistent**, if the thread it creates has a new identifier. -/
theorem Consistent.step (h : app.Consistent created) {e : BrowserAppStep}
    (hfresh : ∀ id ∈ createdIds [e], id ∉ created) :
    (browserAppStep lib noSurfaces app e).Consistent (createdIds [e] ++ created) := by
  have hlength := le_length_step lib noSurfaces app e
  cases e with
  | openNewThread id =>
      refine h.open (hfresh id List.mem_cons_self) ?_
      simp [effect, System.familyStep]
  | openCard id =>
      unfold browserAppStep navigate
      by_cases hcard : app.HasCard id
      · simp only [if_pos hcard]
        exact h.mono hlength fun id' hid' => Option.some.inj hid' ▸ hcard.1
      · simp only [if_neg hcard]
        exact h.mono hlength h.selected
  | closeCard id =>
      unfold browserAppStep navigate
      by_cases hcard : app.HasCard id
      · simp only [if_pos hcard]
        exact (h.close id).mono hlength (h.close id).selected
      · simp only [if_neg hcard]
        exact h.mono hlength h.selected
  | hidePanel => exact h.mono hlength fun _ hid => by cases hid
  | submit input scope => exact h.mono hlength h.selected
  | click action => exact h.mono hlength h.selected
  | answer client task answer => exact h.mono hlength h.selected
  | agent client event => exact h.mono hlength h.selected

end BrowserApp

/-- **The registry, the order and the selection agree in every run** that creates threads with new
identifiers. -/
theorem consistent_browserRun {steps : List BrowserAppStep} (hfresh : (createdIds steps).Nodup) :
    (browserRun lib noSurfaces steps).Consistent (createdIds steps) := by
  induction steps using List.reverseRecOn with
  | nil => exact BrowserApp.consistent_new
  | append_singleton steps e ih =>
      rw [createdIds_concat] at hfresh ⊢
      obtain ⟨-, hold, hnew⟩ := List.nodup_append.1 hfresh
      unfold browserRun
      rw [List.foldl_append]
      exact (ih hold).step fun id hid hmem => hnew id hid id hmem rfl

/-! ### The clients -/

theorem foldl_browserAppStep_pools (steps : List BrowserAppStep) (app : BrowserApp Surfaces) :
    (steps.foldl (browserAppStep lib noSurfaces) app).pools =
      (browserEffects lib noSurfaces steps app).foldl
        ((threadSystem lib).familyStep (createThreadClient noSurfaces)) app.pools := by
  induction steps generalizing app with
  | nil => rfl
  | cons e steps ih => rw [List.foldl_cons, ih, browserEffects, List.foldl_append]; rfl

/-- **The clients are a family of instances**, each created as a new client. -/
theorem pools_browserRun (steps : List BrowserAppStep) :
    (browserRun lib noSurfaces steps).pools =
      (threadSystem lib).familyRun (createThreadClient noSurfaces)
        (browserEffects lib noSurfaces steps .new) :=
  foldl_browserAppStep_pools steps .new

theorem deriveStatus_eq_working_iff {state : ThreadState Surfaces} :
    deriveStatus state = .working ↔ state.isSubmitting = true := by
  unfold deriveStatus
  split
  · rename_i hsubmitting
    exact iff_of_true rfl hsubmitting
  · rename_i hidle
    refine iff_of_false ?_ hidle
    split
    · decide
    · split <;> decide

/-- What is typed or clicked goes to the selected client. -/
theorem eq_selectedClient_of_spawn {e : BrowserAppStep} {n : ℕ} {input : ClientInput}
    (h : FamilyStep.within n (.spawn input) ∈ app.effect e) : app.selectedClient = some n := by
  cases e with
  | submit text scope =>
      simp only [BrowserApp.effect, BrowserApp.clientStep, List.mem_map, List.mem_flatMap,
        Option.mem_toList] at h
      obtain ⟨_, ⟨client, hclient, step, -, rfl⟩, heq⟩ := h
      cases heq
      exact hclient
  | click action =>
      simp only [BrowserApp.effect, BrowserApp.clientStep, List.mem_map, Option.mem_toList] at h
      obtain ⟨_, ⟨client, hclient, rfl⟩, heq⟩ := h
      cases heq
      exact hclient
  | openNewThread id => simp [BrowserApp.effect] at h
  | openCard id => simp [BrowserApp.effect, BrowserApp.clientStep] at h
  | closeCard id => simp [BrowserApp.effect, BrowserApp.clientStep] at h
  | hidePanel => simp [BrowserApp.effect, BrowserApp.clientStep] at h
  | answer client task answer => simp [BrowserApp.effect, BrowserApp.clientStep] at h
  | agent client event => simp [BrowserApp.effect, BrowserApp.clientStep] at h

/-- The client was created, and no thread has it. -/
def BrowserApp.Closed (app : BrowserApp Surfaces) (n : ℕ) : Prop :=
  n < app.pools.length ∧ ∀ id, app.manager.getThread id ≠ some n

/-- **A client that was closed stays closed.** -/
theorem BrowserApp.Closed.step {n : ℕ} (h : app.Closed n) (e : BrowserAppStep) :
    (browserAppStep lib noSurfaces app e).Closed n := by
  refine ⟨h.1.trans_le (le_length_step lib noSurfaces app e), fun id hget => ?_⟩
  cases e with
  | openNewThread id' =>
      rcases Dict.get?_set_eq_some_iff.1 hget with ⟨-, rfl⟩ | ⟨-, hold⟩
      · exact Nat.lt_irrefl _ h.1
      · exact h.2 id hold
  | openCard id' =>
      unfold browserAppStep navigate at hget
      by_cases hcard : app.HasCard id'
      · simp only [if_pos hcard] at hget
        exact h.2 id hget
      · simp only [if_neg hcard] at hget
        exact h.2 id hget
  | closeCard id' =>
      unfold browserAppStep navigate at hget
      by_cases hcard : app.HasCard id'
      · simp only [if_pos hcard] at hget
        exact h.2 id (Dict.get?_erase_eq_some_iff.1 hget).2
      · simp only [if_neg hcard] at hget
        exact h.2 id hget
  | hidePanel => exact h.2 id hget
  | submit input scope => exact h.2 id hget
  | click action => exact h.2 id hget
  | answer client task answer => exact h.2 id hget
  | agent client event => exact h.2 id hget

/-- Nothing is sent to a client that was closed, and nothing clicked in it, from then on. -/
theorem BrowserApp.Closed.notMem_effects {n : ℕ} (h : app.Closed n) (input : ClientInput)
    (steps : List BrowserAppStep) :
    FamilyStep.within n (.spawn input) ∉ browserEffects lib noSurfaces steps app := by
  induction steps generalizing app with
  | nil => exact List.not_mem_nil
  | cons e steps ih =>
      intro hmem
      rcases List.mem_append.1 hmem with hnow | hlater
      · have hselected := eq_selectedClient_of_spawn hnow
        unfold selectedClient at hselected
        split at hselected
        · cases hselected
        · split at hselected
          · cases hselected
          · exact h.2 _ hselected
      · exact ih (h.step e) hlater

/-! ### Threads are independent -/

/-- The threads of a window are independent of one another: the registry, the order and the
selection agree; every client is where the steps of its own lead a new client, however they were
interleaved with those of the others; at most one request of it is in flight, and its card says that
it works exactly while one is; and a client that was closed is sent nothing from then on. -/
structure ThreadsApart (lib : ClientLibrary Surfaces) (noSurfaces : Surfaces)
    (steps : List BrowserAppStep) : Prop where
  consistent : (browserRun lib noSurfaces steps).Consistent (createdIds steps)
  own_steps : (browserRun lib noSurfaces steps).pools =
    (histories (browserEffects lib noSurfaces steps .new)).map
      ((threadSystem lib).run (createThreadClient noSurfaces))
  one_in_flight : ∀ p ∈ (browserRun lib noSurfaces steps).pools, p.inFlight.length ≤ 1
  working_iff : ∀ p ∈ (browserRun lib noSurfaces steps).pools,
    deriveStatus p.world = .working ↔ p.inFlight ≠ []
  closed : ∀ n, (browserRun lib noSurfaces steps).Closed n → ∀ more input,
    FamilyStep.within n (.spawn input) ∉
      browserEffects lib noSurfaces more (browserRun lib noSurfaces steps)

/-- **The threads of a window are independent of one another**, in every interleaving of what is
clicked, sent and answered. -/
theorem browser_threads_apart (lib : ClientLibrary Surfaces) (noSurfaces : Surfaces)
    {steps : List BrowserAppStep} (hfresh : (createdIds steps).Nodup) :
    ThreadsApart lib noSurfaces steps := by
  have hexclusion : ∀ p ∈ (browserRun lib noSurfaces steps).pools, System.Exclusion submitting p := by
    intro p hp
    rw [pools_browserRun] at hp
    exact System.familyRun_invariant
      (exclusive_threadSystem.exclusion (s := createThreadClient noSurfaces) Bool.false_ne_true) hp
  exact {
    consistent := consistent_browserRun hfresh
    own_steps := (pools_browserRun steps).trans (System.familyRun_eq_map _ _ _)
    one_in_flight := fun p hp => (hexclusion p hp).length_inFlight_le_one
    working_iff := fun p hp => deriveStatus_eq_working_iff.trans (hexclusion p hp).held_iff
    closed := fun n hclosed more input => hclosed.notMem_effects input more }

/-- A library whose runs tell nothing. -/
def quietLibrary : ClientLibrary PUnit where
  parse _ := .ok .null
  typeError _ := ⟨none, "TypeError"⟩
  buildResumeArray _ _ := .ok []
  processMessages _ := pure ⟨⟩

/-- A thread is closed while its run goes on, and another one is used. -/
theorem closed_thread_apart : ThreadsApart quietLibrary ⟨⟩
    [.openNewThread "a", .submit "deploy" "", .openNewThread "b", .closeCard "a",
      .submit "status" "", .answer 0 0 (.rejected ⟨none, "gone"⟩)] :=
  browser_threads_apart quietLibrary ⟨⟩ (by decide)

end

end PlatformOps
