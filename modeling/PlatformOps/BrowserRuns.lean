/-
**Runs that browsers post.**

A browser posts a run with the cookie of its session.  Before the body is read, the application
authenticates the request and looks the actor up whom the session stands for; what it then passes to
the harness is a call of that actor, with a session of its own that is over after five minutes.
Sessions are issued, ended and revoked meanwhile, keys are rotated, requests of all browsers are
interleaved, and the table of open questions is one for all of them.

A proposal that comes out of this went through two requests at most: one that chose the target, and
one that was answered with the proposal.

Main definitions:

* `resolveRuntimeActor`, `loadActorSession` — the actor behind a request, and its session;
* `GatewayApp`, `GatewayStep`, `gatewayStep`, `gatewayRun` — the application, and its runs;
* `LoadedRequest`, `PostedCall` — a request that was let in, and the call it made;
* `LoadedRequest.Authentic` — the cookie, the origin and the proof of a live session.

Main results:

* `gatewayTraced_run` — whatever happens, the calls of the harness are those of requests that were
  let in;
* `browser_proposals_authentic` — **every proposal is on a target that an authentic request of its
  own user has chosen, and within the grants of the request that it answers**.
-/

import PlatformOps.BrowserSessionRuns
import PlatformOps.GrantedProposals
import PlatformOps.RemoteSession

set_option relaxedAutoImplicit false
set_option autoImplicit false

namespace PlatformOps

/-! ### The actor of a request -/

/-- The store of the actors: `get_active_actor`. -/
abbrev RuntimeActorStore := String → String → Option Actor

/-- `StoredBrowserRuntimeActorResolver.resolve`; its one error is nothing. -/
def resolveRuntimeActor (store : RuntimeActorStore) (principal : ValidatedPrincipal) :
    Option Actor :=
  match store principal.issuer principal.subject with
  | none => none
  | some actor => if actor.userId ≠ principal.subject then none else some actor

/-- What a request is answered with that is not let in. -/
inductive BrowserFault
  | httpError (status : ℕ) (detail : String)
  | escapes (fault : RegistrationFault)
  deriving DecidableEq

/-- How long the session of a request lasts. -/
def requestSessionTtl : ℕ := 5 * 60 * second

/-- `_load_actor_session`, after the authentication. -/
def loadActorSession (store : RuntimeActorStore) (now : ℕ) :
    Except RegistrationFault ValidatedPrincipal → Except BrowserFault ActorSession
  | .error fault =>
      if fault = browserSessionAuthenticationError then
        .error (.httpError 401 "invalid browser session")
      else .error (.escapes fault)
  | .ok principal =>
      match resolveRuntimeActor store principal with
      | none => .error (.httpError 403 "runtime actor unavailable")
      | some actor =>
          .ok ⟨"browser-request:" ++ principal.subject, actor, now + requestSessionTtl⟩

/-- A session that is loaded is the one of a principal, and of the actor that is stored for it. -/
theorem loadActorSession_eq_ok {store : RuntimeActorStore} {now : ℕ}
    {authenticated : Except RegistrationFault ValidatedPrincipal} {session : ActorSession}
    (h : loadActorSession store now authenticated = .ok session) :
    ∃ principal, authenticated = .ok principal ∧
      store principal.issuer principal.subject = some session.actor ∧
      session.actor.userId = principal.subject ∧ session.expiresAt = now + requestSessionTtl := by
  cases authenticated with
  | error fault =>
      unfold loadActorSession at h
      dsimp only at h
      split at h
      · cases h
      · cases h
  | ok principal =>
      unfold loadActorSession resolveRuntimeActor at h
      dsimp only at h
      cases hstore : store principal.issuer principal.subject with
      | none =>
          rw [hstore] at h
          cases h
      | some actor =>
          rw [hstore] at h
          dsimp only at h
          by_cases hsame : actor.userId = principal.subject
          · rw [if_neg (not_not.2 hsame)] at h
            cases h
            exact ⟨principal, rfl, hstore, hsame, rfl⟩
          · rw [if_pos hsame] at h
            cases h

/-! ### The application -/

/-- The sessions, what the requests that were not read yet were let in with, and the harness. -/
structure GatewayApp where
  sessions : SessionWorld
  requests : List (Option ActorSession)
  harness : HarnessPool

/-- A step: something happens to the sessions, a request comes in, its body is read, a workflow
answers, or time passes. -/
inductive GatewayStep
  | session (e : SessionStep)
  | request (cookie origin csrfProof : Option String) (now later : ℤ) (store : RuntimeActorStore)
  | body (n : ℕ) (body : RequestBody)
  | deliver (n : ℕ) (answer : Answer)
  | time (elapsed : ℕ)

/-- What happens to the sessions in a step. -/
def GatewayStep.sessionStep : GatewayStep → Option SessionStep
  | .session e => some e
  | .request cookie origin csrfProof now later _ =>
      some (.authenticateMutation (cookie.getD "") origin csrfProof now later)
  | _ => none

/-- What happens to the sessions in a run. -/
def sessionSteps (steps : List GatewayStep) : List SessionStep :=
  steps.filterMap GatewayStep.sessionStep

/-- The step is a request. -/
def GatewayStep.isRequest : GatewayStep → Bool
  | .request _ _ _ _ _ _ => true
  | _ => false

section

variable (gateway : MemoryGateway) (texts : PythonTexts) (env : HarnessEnv)
  (validate : Json → Option RunAgentInput)

/-- The principal of a request, and the sessions after it was authenticated. -/
def authenticateRequest (w : SessionWorld) (cookie origin csrfProof : Option String)
    (now later : ℤ) : Except RegistrationFault ValidatedPrincipal × Dict String BrowserSession :=
  authenticateMutation gateway w.keys (cookie.getD "") origin csrfProof now later w.sessions

def gatewayStep (w : GatewayApp) : GatewayStep → GatewayApp
  | .session e => { w with sessions := (performStep gateway w.sessions e).2 }
  | .request cookie origin csrfProof now later store =>
      let (principal, sessions) :=
        authenticateRequest gateway w.sessions cookie origin csrfProof now later
      { w with
        sessions := { w.sessions with sessions := sessions }
        requests := w.requests ++
          [(loadActorSession store w.harness.world.now principal).toOption] }
  | .body n body =>
      match w.requests[n]? with
      | some (some actor) =>
          { w with
            requests := w.requests.set n none
            harness :=
              match runsCall texts validate actor body with
              | .ok call => (harness env).step w.harness (.spawn call)
              | .error _ => w.harness }
      | _ => w
  | .deliver n answer => { w with harness := (harness env).step w.harness (.deliver n answer) }
  | .time elapsed => { w with harness := (harness env).step w.harness (.environment elapsed) }

/-- A run of a new application. -/
def gatewayRun (keys : SigningKeys) (now : ℕ) (steps : List GatewayStep) : GatewayApp :=
  steps.foldl (gatewayStep gateway texts env validate) ⟨.initial keys, [], ⟨.initial now, []⟩⟩

variable {gateway texts env validate}

theorem gatewayRun_append (keys : SigningKeys) (now : ℕ) (steps more : List GatewayStep) :
    gatewayRun gateway texts env validate keys now (steps ++ more) =
      more.foldl (gatewayStep gateway texts env validate)
        (gatewayRun gateway texts env validate keys now steps) :=
  List.foldl_append

theorem gatewayRun_concat (keys : SigningKeys) (now : ℕ) (steps : List GatewayStep)
    (e : GatewayStep) :
    gatewayRun gateway texts env validate keys now (steps ++ [e]) =
      gatewayStep gateway texts env validate
        (gatewayRun gateway texts env validate keys now steps) e :=
  gatewayRun_append keys now steps [e]

end

/-! ### Requests that were let in -/

/-- A request of a run that was let in: where it stands, who was authenticated, and the session that
was loaded. -/
structure LoadedRequest (gateway : MemoryGateway) (texts : PythonTexts) (env : HarnessEnv)
    (validate : Json → Option RunAgentInput) (keys : SigningKeys) (start : ℕ)
    (steps : List GatewayStep) where
  pre : List GatewayStep
  post : List GatewayStep
  cookie : Option String
  origin : Option String
  csrfProof : Option String
  now : ℤ
  later : ℤ
  store : RuntimeActorStore
  principal : ValidatedPrincipal
  session : ActorSession
  steps_eq : steps = pre ++ .request cookie origin csrfProof now later store :: post
  authenticated : (authenticateRequest gateway
    (gatewayRun gateway texts env validate keys start pre).sessions cookie origin csrfProof now
      later).1 = .ok principal
  stored : store principal.issuer principal.subject = some session.actor
  subject_eq : session.actor.userId = principal.subject
  expiresAt_eq : session.expiresAt =
    (gatewayRun gateway texts env validate keys start pre).harness.world.now + requestSessionTtl

/-- The place of a request among those of its run. -/
def LoadedRequest.index {gateway : MemoryGateway} {texts : PythonTexts} {env : HarnessEnv}
    {validate : Json → Option RunAgentInput} {keys : SigningKeys} {start : ℕ}
    {steps : List GatewayStep} (r : LoadedRequest gateway texts env validate keys start steps) : ℕ :=
  r.pre.countP GatewayStep.isRequest

/-- A call of the harness, by a request that was let in and whose body asks for it. -/
structure PostedCall (gateway : MemoryGateway) (texts : PythonTexts) (env : HarnessEnv)
    (validate : Json → Option RunAgentInput) (keys : SigningKeys) (start : ℕ)
    (steps : List GatewayStep) extends
    LoadedRequest gateway texts env validate keys start steps where
  body : RequestBody
  call : HarnessCall
  body_mem : .body toLoadedRequest.index body ∈ post
  call_eq : runsCall texts validate session body = .ok call

section

variable {gateway : MemoryGateway} {texts : PythonTexts} {env : HarnessEnv}
  {validate : Json → Option RunAgentInput} {keys : SigningKeys}
  {start : ℕ} {steps : List GatewayStep}

/-- The request has the cookie of a session that was issued and is live, the origin of the gateway
and the proof of that session. -/
def LoadedRequest.Authentic (r : LoadedRequest gateway texts env validate keys start steps) : Prop :=
  ∃ issue, SoundAcceptance gateway (sessionsAfter gateway keys (sessionSteps r.pre))
      (r.cookie.getD "") r.now r.principal issue ∧
    r.origin = some gateway.expectedOrigin ∧ r.csrfProof = some issue.csrfProof

/-- The same request in a run that goes on. -/
def LoadedRequest.concat (r : LoadedRequest gateway texts env validate keys start steps)
    (e : GatewayStep) : LoadedRequest gateway texts env validate keys start (steps ++ [e]) :=
  { r with
    post := r.post ++ [e]
    steps_eq := (congrArg (· ++ [e]) r.steps_eq).trans (List.append_assoc ..) }

/-- The same call in a run that goes on. -/
def PostedCall.concat (p : PostedCall gateway texts env validate keys start steps)
    (e : GatewayStep) : PostedCall gateway texts env validate keys start (steps ++ [e]) :=
  { p.toLoadedRequest.concat e with
    body := p.body
    call := p.call
    body_mem := List.mem_append_left _ p.body_mem
    call_eq := p.call_eq }

/-! ### What a run consists of -/

/-- The sessions of the application are those of a run of the sessions, what waits for a body is a
request that was let in, and the calls of the harness are those of such requests. -/
structure GatewayTraced (gateway : MemoryGateway) (texts : PythonTexts) (env : HarnessEnv)
    (validate : Json → Option RunAgentInput) (keys : SigningKeys) (start : ℕ)
    (steps : List GatewayStep) (w : GatewayApp) : Prop where
  sessions : w.sessions = sessionsAfter gateway keys (sessionSteps steps)
  count : w.requests.length = steps.countP GatewayStep.isRequest
  loaded : ∀ n session, w.requests[n]? = some (some session) →
    ∃ r : LoadedRequest gateway texts env validate keys start steps,
      r.index = n ∧ r.session = session
  calls : ∃ made, w.harness = harnessRun env start made ∧ ∀ call, .spawn call ∈ made →
    ∃ p : PostedCall gateway texts env validate keys start steps, p.call = call

theorem sessionSteps_concat (steps : List GatewayStep) (e : GatewayStep) :
    sessionSteps (steps ++ [e]) = sessionSteps steps ++ e.sessionStep.toList := by
  unfold sessionSteps
  rw [List.filterMap_append]
  cases h : e.sessionStep with
  | none => simp [h]
  | some step => simp [h]

theorem eq_ok_of_toOption {ε α : Type} {x : Except ε α} {a : α} (h : x.toOption = some a) :
    x = .ok a := by
  cases x with
  | error fault => cases h
  | ok b => exact congrArg Except.ok (Option.some.inj h)

/-- What a step does to the sessions. -/
theorem sessions_gatewayStep (w : GatewayApp) (e : GatewayStep) :
    (gatewayStep gateway texts env validate w e).sessions =
      sessionsFrom gateway w.sessions e.sessionStep.toList := by
  cases e with
  | session e => rfl
  | request cookie origin csrfProof now later store => rfl
  | body n body =>
      unfold gatewayStep
      dsimp only
      split
      · rfl
      · rfl
  | deliver n answer => rfl
  | time elapsed => rfl

theorem sessionsFrom_sessionsAfter (keys : SigningKeys) (steps more : List SessionStep) :
    sessionsFrom gateway (sessionsAfter gateway keys steps) more =
      sessionsAfter gateway keys (steps ++ more) :=
  List.foldl_append.symm

/-- A run that goes on without a request or a body. -/
theorem GatewayTraced.concat {w : GatewayApp}
    (h : GatewayTraced gateway texts env validate keys start steps w)
    {e : GatewayStep} (hrequest : e.isRequest = false)
    (hrequests : (gatewayStep gateway texts env validate w e).requests = w.requests)
    {made : List HarnessStep} (hmade : ∀ call, .spawn call ∉ made)
    (hharness : (gatewayStep gateway texts env validate w e).harness =
      (harness env).runFrom w.harness made) :
    GatewayTraced gateway texts env validate keys start (steps ++ [e])
      (gatewayStep gateway texts env validate w e) where
  sessions := by
    rw [sessions_gatewayStep, h.sessions, sessionSteps_concat, sessionsFrom_sessionsAfter]
  count := by
    rw [hrequests, h.count, List.countP_append]
    simp [hrequest]
  loaded n session hloaded := by
    rw [hrequests] at hloaded
    obtain ⟨r, hindex, hsession⟩ := h.loaded n session hloaded
    exact ⟨r.concat e, hindex, hsession⟩
  calls := by
    obtain ⟨before, hbefore, hposted⟩ := h.calls
    refine ⟨before ++ made, ?_, fun call hcall => ?_⟩
    · rw [hharness, hbefore]
      exact (System.run_append _ _ _).symm
    · rcases List.mem_append.1 hcall with hold | hnew
      · obtain ⟨p, hp⟩ := hposted call hold
        exact ⟨p.concat e, hp⟩
      · exact absurd hnew (hmade call)

/-- A run that goes on with a request: it is let in with a session, or refused. -/
theorem GatewayTraced.request
    (h : GatewayTraced gateway texts env validate keys start steps
      (gatewayRun gateway texts env validate keys start steps))
    (cookie origin csrfProof : Option String) (now later : ℤ) (store : RuntimeActorStore) :
    GatewayTraced gateway texts env validate keys start
      (steps ++ [.request cookie origin csrfProof now later store])
      (gatewayStep gateway texts env validate
        (gatewayRun gateway texts env validate keys start steps)
        (.request cookie origin csrfProof now later store)) where
  sessions := by
    rw [sessions_gatewayStep, h.sessions, sessionSteps_concat, sessionsFrom_sessionsAfter]
  count := by
    show (_ ++ [_]).length = _
    rw [List.length_append, h.count, List.countP_append]
    rfl
  loaded n session hloaded := by
    replace hloaded : (_ ++ [_])[n]? = some (some session) := hloaded
    rcases Nat.lt_or_ge n (gatewayRun gateway texts env validate keys start steps).requests.length
      with hlt | hge
    · rw [List.getElem?_append_left hlt] at hloaded
      obtain ⟨r, hindex, hsession⟩ := h.loaded n session hloaded
      exact ⟨r.concat _, hindex, hsession⟩
    · rw [List.getElem?_append_right hge, List.getElem?_singleton] at hloaded
      split at hloaded
      · rename_i hn
        have hindex :
            n = (gatewayRun gateway texts env validate keys start steps).requests.length := by
          omega
        have hsession := eq_ok_of_toOption (Option.some.inj hloaded)
        obtain ⟨principal, hauthenticated, hstored, hsubject, hexpires⟩ :=
          loadActorSession_eq_ok hsession
        exact ⟨⟨steps, [], cookie, origin, csrfProof, now, later, store, principal, session, rfl,
          hauthenticated, hstored, hsubject, hexpires⟩, (hindex.trans h.count).symm, rfl⟩
      · cases hloaded
  calls := by
    obtain ⟨made, hmade, hposted⟩ := h.calls
    refine ⟨made, hmade, fun call hcall => ?_⟩
    obtain ⟨p, hp⟩ := hposted call hcall
    exact ⟨p.concat _, hp⟩

/-- A run that goes on with the body of a request that was let in. -/
theorem GatewayTraced.body
    (h : GatewayTraced gateway texts env validate keys start steps
      (gatewayRun gateway texts env validate keys start steps)) (n : ℕ)
    (body : RequestBody) {actor : ActorSession}
    (hactor : (gatewayRun gateway texts env validate keys start steps).requests[n]? =
      some (some actor)) :
    GatewayTraced gateway texts env validate keys start (steps ++ [.body n body])
      (gatewayStep gateway texts env validate
        (gatewayRun gateway texts env validate keys start steps) (.body n body)) := by
  obtain ⟨r, hindex, rfl⟩ := h.loaded n actor hactor
  have hstep : gatewayStep gateway texts env validate
      (gatewayRun gateway texts env validate keys start steps) (.body n body) =
        { gatewayRun gateway texts env validate keys start steps with
          requests := (gatewayRun gateway texts env validate keys start steps).requests.set n none
          harness :=
            match runsCall texts validate r.session body with
            | .ok call => (harness env).step
                (gatewayRun gateway texts env validate keys start steps).harness (.spawn call)
            | .error _ => (gatewayRun gateway texts env validate keys start steps).harness } := by
    simp only [gatewayStep, hactor]
  refine ⟨?_, ?_, ?_, ?_⟩
  · rw [sessions_gatewayStep, h.sessions, sessionSteps_concat, sessionsFrom_sessionsAfter]
  · rw [hstep, List.length_set, h.count, List.countP_append]
    rfl
  · intro m session hloaded
    rw [hstep] at hloaded
    dsimp only at hloaded
    rw [List.getElem?_set] at hloaded
    split at hloaded
    · split at hloaded
      · cases hloaded
      · cases hloaded
    · obtain ⟨r', hindex', hsession⟩ := h.loaded m session hloaded
      exact ⟨r'.concat _, hindex', hsession⟩
  · obtain ⟨made, hmade, hposted⟩ := h.calls
    rw [hstep]
    dsimp only
    cases hcall : runsCall texts validate r.session body with
    | error fault =>
        refine ⟨made, hmade, fun call hmem => ?_⟩
        obtain ⟨p, hp⟩ := hposted call hmem
        exact ⟨p.concat _, hp⟩
    | ok call =>
        refine ⟨made ++ [.spawn call], ?_, fun call' hmem => ?_⟩
        · dsimp only
          rw [hmade, harnessRun_concat]
        · rcases List.mem_append.1 hmem with hold | hnew
          · obtain ⟨p, hp⟩ := hposted call' hold
            exact ⟨p.concat _, hp⟩
          · cases List.mem_singleton.1 hnew
            have hbody : .body (r.concat (.body n body)).index body ∈ r.post ++ [.body n body] := by
              rw [show (r.concat (.body n body)).index = n from hindex]
              exact List.mem_append_right _ List.mem_cons_self
            exact ⟨⟨r.concat (.body n body), body, call, hbody, hcall⟩, rfl⟩

/-- **Every run is traced**: whatever happens, the calls of the harness are those of requests that
were let in. -/
theorem gatewayTraced_run (gateway : MemoryGateway) (texts : PythonTexts) (env : HarnessEnv)
    (validate : Json → Option RunAgentInput) (keys : SigningKeys) (start : ℕ)
    (steps : List GatewayStep) :
    GatewayTraced gateway texts env validate keys start steps
      (gatewayRun gateway texts env validate keys start steps) := by
  induction steps using List.reverseRecOn with
  | nil =>
      refine ⟨rfl, rfl, fun n session hloaded => ?_, [], rfl, fun call hcall => ?_⟩
      · cases hloaded
      · cases hcall
  | append_singleton steps e ih =>
      rw [gatewayRun_concat]
      cases e with
      | session e => exact ih.concat rfl rfl (fun call => List.not_mem_nil) rfl
      | request cookie origin csrfProof now later store =>
          exact ih.request cookie origin csrfProof now later store
      | deliver n answer =>
          have hmade : ∀ call, .spawn call ∉ ([.deliver n answer] : List HarnessStep) := by
            intro call hcall
            cases List.mem_singleton.1 hcall
          exact ih.concat rfl rfl hmade rfl
      | time elapsed =>
          have hmade : ∀ call, .spawn call ∉ ([.environment elapsed] : List HarnessStep) := by
            intro call hcall
            cases List.mem_singleton.1 hcall
          exact ih.concat rfl rfl hmade rfl
      | body n body =>
          rcases hactor : (gatewayRun gateway texts env validate keys start steps).requests[n]?
            with _ | _ | actor
          · have hidle : gatewayStep gateway texts env validate
                (gatewayRun gateway texts env validate keys start steps) (.body n body) =
                  gatewayRun gateway texts env validate keys start steps := by
              simp only [gatewayStep, hactor]
            exact ih.concat rfl (by rw [hidle]) (fun call => List.not_mem_nil) (by rw [hidle]; rfl)
          · have hidle : gatewayStep gateway texts env validate
                (gatewayRun gateway texts env validate keys start steps) (.body n body) =
                  gatewayRun gateway texts env validate keys start steps := by
              simp only [gatewayStep, hactor]
            exact ih.concat rfl (by rw [hidle]) (fun call => List.not_mem_nil) (by rw [hidle]; rfl)
          · exact ih.body n body hactor

/-! ### Authentic requests -/

/-- The sessions of a run up to a request, and from there on. -/
theorem LoadedRequest.sessionSteps_eq
    (r : LoadedRequest gateway texts env validate keys start steps) :
    sessionSteps steps = sessionSteps r.pre ++
      .authenticateMutation (r.cookie.getD "") r.origin r.csrfProof r.now r.later ::
        sessionSteps r.post := by
  have hsteps := congrArg sessionSteps r.steps_eq
  rw [hsteps]
  unfold sessionSteps
  rw [List.filterMap_append]
  rfl

/-- The sessions believe the cookie of a request that was let in. -/
theorem LoadedRequest.accepts (r : LoadedRequest gateway texts env validate keys start steps) :
    Accepts gateway (sessionsAfter gateway keys (sessionSteps r.pre))
      (.authenticateMutation (r.cookie.getD "") r.origin r.csrfProof r.now r.later)
      (r.cookie.getD "") r.now r.principal := by
  refine ⟨rfl, ?_⟩
  have hauthenticated := r.authenticated
  rw [(gatewayTraced_run gateway texts env validate keys start r.pre).sessions] at hauthenticated
  exact congrArg (Except.map SessionResult.principal) hauthenticated

theorem authenticateRequest_of_performStep {w w' : SessionWorld}
    {cookie origin csrfProof : Option String} {now later : ℕ} {principal : ValidatedPrincipal}
    (h : performStep gateway w
      (.authenticateMutation (cookie.getD "") origin csrfProof now later) =
        (.ok (.principal principal), w')) :
    authenticateRequest gateway w cookie origin csrfProof now later =
      (.ok principal, w'.sessions) := by
  obtain ⟨accepted, sessions, haction, hsame⟩ := act_eq_ok (congrArg Prod.fst h)
  cases hsame
  have hworld : sessions = w'.sessions :=
    (congrArg Prod.snd haction).symm.trans (congrArg (fun r => r.2.sessions) h)
  exact hworld ▸ haction

/-- **A request that was let in is authentic.** -/
theorem LoadedRequest.authentic (hmemory : gateway.repository = inMemorySessions)
    (hideal : Ideal gateway keys (sessionSteps steps))
    (r : LoadedRequest gateway texts env validate keys start steps) : r.Authentic := by
  obtain ⟨issue, hsound⟩ := sound_of_accepts hmemory hideal r.sessionSteps_eq r.accepts
  obtain ⟨horigin, hproof⟩ :=
    proof_of_mutation hmemory hideal r.sessionSteps_eq r.accepts hsound
  exact ⟨issue, hsound, horigin, hproof⟩

/-- The principal of an authentic request, by the subject. -/
theorem LoadedRequest.Authentic.principal_eq
    {r : LoadedRequest gateway texts env validate keys start steps}
    (h : r.Authentic) : r.principal = ⟨platformopsBrowserSessionIssuer, r.session.actor.userId⟩ := by
  obtain ⟨issue, hsound, -⟩ := h
  rw [r.subject_eq, hsound.principal]

/-- A call is one of the actor of its request. -/
theorem PostedCall.actor_eq (p : PostedCall gateway texts env validate keys start steps) :
    p.call.actor = p.session := by
  have hcall := p.call_eq
  unfold runsCall at hcall
  obtain ⟨input, -, hcall⟩ := bind_eq_ok_iff.1 hcall
  obtain ⟨request, -, hcall⟩ := bind_eq_ok_iff.1 hcall
  rw [← Except.ok.inj hcall]
  cases request with
  | resume interruptId answer => rfl
  | start text scopeHint => rfl

/-- **Every proposal is authentic**: the call that returns it was posted by a request with the
cookie, the origin and the proof of a live session, and its target was chosen by such a request of
the same principal on the same thread; it keeps to that target, and to the grants that the store of
the actors had for the principal when the call's own request came in. -/
theorem browser_proposals_authentic (hmemory : gateway.repository = inMemorySessions)
    (hideal : Ideal gateway keys (sessionSteps steps)) {n : ℕ} {call : HarnessCall}
    {event : HarnessEvent} {proposal : Json}
    (htask : (gatewayRun gateway texts env validate keys start steps).harness.tasks[n]? =
      some ⟨call, .returned event⟩)
    (hproposal : event.proposal = some proposal) :
    ∃ (answered chosen : PostedCall gateway texts env validate keys start steps) (text : String)
      (hint : ScopeHint),
      answered.call = call ∧ answered.Authentic ∧ chosen.Authentic ∧
      chosen.principal = answered.principal ∧
      chosen.call = .start chosen.session call.requestId text (some hint) ∧
      ProposedWithin answered.session hint proposal := by
  obtain ⟨made, hmade, hposted⟩ :=
    (gatewayTraced_run gateway texts env validate keys start steps).calls
  rw [hmade] at htask
  obtain ⟨answered, hanswered⟩ := hposted call (System.spawn_mem_of_task htask)
  have hactor : call.actor = answered.session := hanswered ▸ answered.actor_eq
  cases (poolChosen_run start made).tasks n call _ htask with
  | returned h =>
      obtain ⟨hint, ⟨actor, text, hchosen, huser⟩, hwithin⟩ := h proposal hproposal
      obtain ⟨chosen, hcall⟩ := hposted _ hchosen
      have hchooser : actor = chosen.session := by
        have heq := chosen.actor_eq
        rw [hcall] at heq
        exact heq
      have hanswers := answered.toLoadedRequest.authentic hmemory hideal
      have hchooses := chosen.toLoadedRequest.authentic hmemory hideal
      refine ⟨answered, chosen, text, hint, hanswered, hanswers, hchooses, ?_, ?_, ?_⟩
      · rw [hchooses.principal_eq, hanswers.principal_eq, ← hchooser, ← hactor, huser]
        rfl
      · rw [hcall, hchooser]
      · rw [← hactor]
        exact hwithin

end

/-! ### A run whose session ends -/

variable {gateway : MemoryGateway}

/-- What is stored about Ann. -/
def annActor : Actor := ⟨"usr_ann", "ann@example.com", [devGrant]⟩

/-- The store of the actors, with Ann. -/
def annStore : RuntimeActorStore := fun issuer subject =>
  if issuer = "platformops" ∧ subject = "usr_ann" then some annActor else none

/-- What Ann posts. -/
def annBody : Json :=
  .obj [("threadId", .str "thread"), ("runId", .str "run-1"), ("state", .obj []),
    ("messages", .arr [.obj [("id", .str "msg-1"), ("role", .str "user"),
      ("content", .str "set this up")]]),
    ("tools", .arr []), ("context", .arr []),
    ("forwardedProps", .obj [("scope", .str "aiq:it/invoices/dev")])]

/-- The request of Ann. -/
def annRequest : GatewayStep :=
  .request (some annToken) (some "https://ops.example") (some "proof") (annTime + second)
    (annTime + second) annStore

/-- Ann ends her session while her run waits for the provision workflow. -/
def annRuns : List GatewayStep :=
  [.session annIssue] ++ [annRequest] ++
    [.body 0 (.ok annBody), .deliver 0 (.ok selectingModel), .session annLogout,
      .deliver 0 (.ok (staticWebModel "set this up")), .session annReplay]

/-- The session of her request. -/
def annRequestSession : ActorSession :=
  ⟨"browser-request:usr_ann", annActor, requestSessionTtl⟩

theorem authenticateRequest_ann :
    authenticateRequest annGateway annWorld (some annToken) (some "https://ops.example")
      (some "proof") (annTime + second) (annTime + second) =
        (.ok ⟨"platformops", "usr_ann"⟩, annWorld.sessions) :=
  authenticateRequest_of_performStep performStep_annMutation

theorem gatewayRun_annIssue (texts : PythonTexts) (env : HarnessEnv)
    (validate : Json → Option RunAgentInput) :
    gatewayRun annGateway texts env validate annKeys 0 [.session annIssue] =
      ⟨annWorld, [], ⟨.initial 0, []⟩⟩ := by
  have hsessions :=
    (gatewayTraced_run annGateway texts env validate annKeys 0 [.session annIssue]).sessions
  rw [show sessionSteps [.session annIssue] = [annIssue] from rfl, sessionsAfter_annIssue]
    at hsessions
  exact congrArg (fun sessions => (⟨sessions, [], ⟨.initial 0, []⟩⟩ : GatewayApp)) hsessions

theorem gatewayStep_annRequest (texts : PythonTexts) (env : HarnessEnv)
    (validate : Json → Option RunAgentInput) {w : SessionWorld}
    (h : authenticateRequest gateway w (some annToken) (some "https://ops.example") (some "proof")
      (annTime + second) (annTime + second) = (.ok ⟨"platformops", "usr_ann"⟩, w.sessions)) :
    gatewayStep gateway texts env validate ⟨w, [], ⟨.initial 0, []⟩⟩ annRequest =
      ⟨w, [some annRequestSession], ⟨.initial 0, []⟩⟩ := by
  unfold annRequest gatewayStep
  dsimp only
  rw [h]
  rfl

theorem gatewayRun_annRequest (texts : PythonTexts) (env : HarnessEnv)
    (validate : Json → Option RunAgentInput) :
    gatewayRun annGateway texts env validate annKeys 0 ([.session annIssue] ++ [annRequest]) =
      ⟨annWorld, [some annRequestSession], ⟨.initial 0, []⟩⟩ := by
  rw [gatewayRun_concat, gatewayRun_annIssue]
  exact gatewayStep_annRequest texts env validate authenticateRequest_ann

set_option maxRecDepth 8000 in
/-- **Ann is proposed what she chose**, though her session has ended since. -/
theorem ann_proposed_authentic :
    ∃ (answered chosen : PostedCall annGateway plainTexts countingEnv sampleValidate annKeys 0
        annRuns) (hint : ScopeHint),
      answered.Authentic ∧ chosen.Authentic ∧ chosen.principal = answered.principal ∧
      ProposedWithin answered.session hint (requestPayload invoicesRequest) := by
  have hharness : ∃ event, (gatewayRun annGateway plainTexts countingEnv sampleValidate annKeys 0
      annRuns).harness.tasks[0]? =
        some ⟨.start annRequestSession "thread" "set this up" (some devHint), .returned event⟩ ∧
      event.proposal = some (requestPayload invoicesRequest) := by
    rw [annRuns, gatewayRun_append, gatewayRun_annRequest]
    exact ⟨_, rfl, rfl⟩
  obtain ⟨event, htask, hproposal⟩ := hharness
  obtain ⟨answered, chosen, text, hint, -, hanswered, hchosen, hsame, -, hwithin⟩ :=
    browser_proposals_authentic rfl ideal_annSteps htask hproposal
  exact ⟨answered, chosen, hint, hanswered, hchosen, hsame, hwithin⟩

end PlatformOps
