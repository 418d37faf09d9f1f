/-
**Clients that run one transaction after another.**

The transactions of `PlatformOps/ReadCommitted.lean` belong to clients.  A client opens a
transaction, waits for its end, and goes on with what the transaction has returned, or with the news
that it was aborted; in between it may ask an oracle.  The steps of the clients and of the server
come in any order, a client may stop anywhere, and the oracle may answer a question one way now and
another way later.

A client opens a transaction for a reason: the answers it has had and what its earlier transactions
have returned.  Whoever looks at the database finds these reasons again: the answers were given, and
the earlier transactions have committed.

Main definitions:

* `Workflow`, `Client` — what a client does, and where it is;
* `Application`, `AppState`, `AppStep` — the server with its clients, and their steps;
* `Application.Effect` — what a step can do;
* `Workflow.Ensures` — every transaction that is opened has its reasons.

Main results:

* `Application.justified_after` — **over every run, every transaction has its reasons**;
* `Application.exists_after` — what the clients make of the database is a run of the server;
* `Application.history_step` — only a commit changes what is committed.
-/

import PlatformOps.ProgramRules

set_option relaxedAutoImplicit false
set_option autoImplicit false

namespace PlatformOps

namespace ReadCommitted

universe u

/-! ### Clients -/

/-- What a client does: it ends, asks the oracle, or runs a transaction.  It goes on without a value
if the transaction is aborted. -/
inductive Workflow (α κ ρ γ : Type u) (β : γ → Type u)
  | done (result : ρ)
  | ask (question : γ) (next : β question → Workflow α κ ρ γ β)
  | transact (call : κ) (next : Option α → Workflow α κ ρ γ β)

/-- Where a client is: before its next step, or waiting for the end of a transaction. -/
inductive Client (α κ ρ γ : Type u) (β : γ → Type u)
  | ready (workflow : Workflow α κ ρ γ β)
  | waiting (t : ℕ) (next : Option α → Workflow α κ ρ γ β)

/-- A server, and what a client does that enters. -/
structure Application (L K R α κ ρ γ : Type u) (β : γ → Type u) (ι : Type u) where
  server : Server L K R α κ
  handler : ι → Workflow α κ ρ γ β

/-- The database, the clients, and what the oracle has answered so far. -/
structure AppState (L R α κ ρ γ : Type u) (β : γ → Type u) where
  db : Database L R α κ
  clients : ℕ → Option (Client α κ ρ γ β)
  answers : List (Sigma β)

/-- A step of a client, or of the server.  The oracle answers as it is at that moment. -/
inductive AppStep (κ γ : Type u) (β : γ → Type u) (ι : Type u)
  | enter (c : ℕ) (entry : ι)
  | answer (c : ℕ) (oracle : ∀ question, β question)
  | submit (c t : ℕ)
  | resume (c : ℕ)
  | serve (e : Step κ)

variable {L K R α κ ρ γ ι : Type u} {β : γ → Type u}

namespace AppState

/-- Nothing has happened. -/
def init : AppState L R α κ ρ γ β := ⟨.empty, fun _ => none, []⟩

/-- The state with a client somewhere else. -/
def setClient (σ : AppState L R α κ ρ γ β) (c : ℕ) (client : Client α κ ρ γ β) :
    AppState L R α κ ρ γ β :=
  { σ with clients := Function.update σ.clients c (some client) }

theorem clients_setClient_cases {σ : AppState L R α κ ρ γ β} {c c' : ℕ}
    {client client' : Client α κ ρ γ β} (h : (σ.setClient c client).clients c' = some client') :
    c' = c ∧ client' = client ∨ σ.clients c' = some client' := by
  by_cases hc : c' = c
  · subst hc
    have hself : (σ.setClient c' client).clients c' = some client := Function.update_self ..
    rw [hself] at h
    cases h
    exact Or.inl ⟨rfl, rfl⟩
  · exact Or.inr ((Function.update_of_ne hc ..).symm.trans h)

end AppState

/-! ### Steps -/

namespace Application

variable [DecidableEq L] [DecidableEq K] (app : Application L K R α κ ρ γ β ι)

/-- A step.  What cannot be done leaves the state as it is. -/
def step (σ : AppState L R α κ ρ γ β) : AppStep κ γ β ι → AppState L R α κ ρ γ β
  | .enter c entry =>
      match σ.clients c with
      | none => σ.setClient c (.ready (app.handler entry))
      | some _ => σ
  | .answer c oracle =>
      match σ.clients c with
      | some (.ready (.ask question next)) =>
          { σ.setClient c (.ready (next (oracle question))) with
            answers := ⟨question, oracle question⟩ :: σ.answers }
      | _ => σ
  | .submit c t =>
      match σ.clients c, σ.db.transactions t with
      | some (.ready (.transact call next)), none =>
          { σ.setClient c (.waiting t next) with
            db := σ.db.setTransaction t ⟨call, .ready (app.server.main call), 0⟩ }
      | _, _ => σ
  | .resume c =>
      match σ.clients c with
      | some (.waiting t next) =>
          match σ.db.transactions t with
          | some ⟨_, .committed a, _⟩ => σ.setClient c (.ready (next (some a)))
          | some ⟨_, .aborted, _⟩ => σ.setClient c (.ready (next none))
          | _ => σ
      | _ => σ
  | .serve (.begin _ _) => σ
  | .serve e => { σ with db := app.server.step σ.db e }

/-- The state after some steps. -/
def after (steps : List (AppStep κ γ β ι)) : AppState L R α κ ρ γ β :=
  steps.foldl app.step .init

theorem after_concat (steps : List (AppStep κ γ β ι)) (e : AppStep κ γ β ι) :
    app.after (steps ++ [e]) = app.step (app.after steps) e := by
  unfold after
  rw [List.foldl_append]
  rfl

/-- What a step can do. -/
inductive Effect (σ : AppState L R α κ ρ γ β) :
    AppStep κ γ β ι → AppState L R α κ ρ γ β → Prop
  | none (e : AppStep κ γ β ι) : Effect σ e σ
  | entered {c : ℕ} {entry : ι} :
      Effect σ (.enter c entry) (σ.setClient c (.ready (app.handler entry)))
  | answered {c : ℕ} {question : γ} {next : β question → Workflow α κ ρ γ β}
      (oracle : ∀ question, β question) (here : σ.clients c = some (.ready (.ask question next))) :
      Effect σ (.answer c oracle) { σ.setClient c (.ready (next (oracle question))) with
        answers := ⟨question, oracle question⟩ :: σ.answers }
  | submitted {c t : ℕ} {call : κ} {next : Option α → Workflow α κ ρ γ β}
      (here : σ.clients c = some (.ready (.transact call next)))
      (fresh : σ.db.transactions t = .none) :
      Effect σ (.submit c t) { σ.setClient c (.waiting t next) with
        db := σ.db.setTransaction t ⟨call, .ready (app.server.main call), 0⟩ }
  | returned {c t snapshot : ℕ} {call : κ} {a : α} {next : Option α → Workflow α κ ρ γ β}
      (here : σ.clients c = some (.waiting t next))
      (ended : σ.db.transactions t = some ⟨call, .committed a, snapshot⟩) :
      Effect σ (.resume c) (σ.setClient c (.ready (next (some a))))
  | failed {c t : ℕ} {next : Option α → Workflow α κ ρ γ β}
      (here : σ.clients c = some (.waiting t next)) :
      Effect σ (.resume c) (σ.setClient c (.ready (next .none)))
  | served {e : Step κ} {db : Database L R α κ} (later : ∀ t call, e ≠ .begin t call)
      (stepped : db = app.server.step σ.db e) : Effect σ (.serve e) { σ with db := db }

variable {app}

/-- **A step has one of the effects.** -/
theorem step_effect (σ : AppState L R α κ ρ γ β) (e : AppStep κ γ β ι) :
    app.Effect σ e (app.step σ e) := by
  cases e with
  | enter c entry =>
      simp only [step]
      cases σ.clients c with
      | none => exact .entered
      | some client => exact .none _
  | answer c oracle =>
      simp only [step]
      rcases here : σ.clients c with _ | ⟨workflow | _⟩
      · exact .none _
      · cases workflow with
        | done result => exact .none _
        | ask question next => exact .answered oracle here
        | transact call next => exact .none _
      · exact .none _
  | submit c t =>
      simp only [step]
      rcases here : σ.clients c with _ | ⟨workflow | _⟩
      · exact .none _
      · cases workflow with
        | done result => exact .none _
        | ask question next => exact .none _
        | transact call next =>
            cases fresh : σ.db.transactions t with
            | none => exact .submitted here fresh
            | some transaction => exact .none _
      · exact .none _
  | resume c =>
      simp only [step]
      rcases here : σ.clients c with _ | ⟨workflow | ⟨t, next⟩⟩
      · exact .none _
      · exact .none _
      · dsimp only
        rcases ended : σ.db.transactions t with _ | ⟨call, phase, snapshot⟩
        · exact .none _
        · cases phase with
          | ready program => exact .none _
          | updating targets filter set returned next => exact .none _
          | committed a => exact .returned here ended
          | aborted => exact .failed here
  | serve e =>
      cases e with
      | begin t call => exact .none _
      | statement t => exact .served (fun _ _ h => by cases h) rfl
      | row t i => exact .served (fun _ _ h => by cases h) rfl
      | commit t => exact .served (fun _ _ h => by cases h) rfl
      | abort t => exact .served (fun _ _ h => by cases h) rfl

/-- **What every effect keeps holds after every run.** -/
theorem after_invariant {I : AppState L R α κ ρ γ β → Prop} (hinit : I .init)
    (heffect : ∀ σ e σ', I σ → app.Effect σ e σ' → I σ') (steps : List (AppStep κ γ β ι)) :
    I (app.after steps) := by
  induction steps using List.reverseRecOn with
  | nil => exact hinit
  | append_singleton steps e ih =>
      rw [after_concat]
      exact heffect _ e _ ih (step_effect _ e)

/-- **What the clients make of the database is a run of the server.** -/
theorem exists_after (steps : List (AppStep κ γ β ι)) :
    ∃ served, (app.after steps).db = app.server.after served := by
  refine after_invariant (I := fun σ => ∃ served, σ.db = app.server.after served) ⟨[], rfl⟩ ?_ steps
  rintro σ e σ' ⟨served, hdb⟩ heffect
  cases heffect with
  | none => exact ⟨served, hdb⟩
  | entered => exact ⟨served, hdb⟩
  | answered oracle here => exact ⟨served, hdb⟩
  | submitted here fresh =>
      rename_i c t call next
      refine ⟨served ++ [.begin t call], ?_⟩
      rw [Server.after_concat, ← hdb]
      simp only [Server.step, fresh]
  | returned here ended => exact ⟨served, hdb⟩
  | failed here => exact ⟨served, hdb⟩
  | served later stepped =>
      rename_i e db
      refine ⟨served ++ [e], ?_⟩
      rw [Server.after_concat, ← hdb]
      exact stepped

end Application

/-! ### What stays of a transaction -/

/-- A transaction of this call has committed and returned this value. -/
def Database.Returned (db : Database L R α κ) (call : κ) (a : α) : Prop :=
  ∃ t snapshot, db.transactions t = some ⟨call, .committed a, snapshot⟩

/-- What has been returned once a transaction commits is what it returns, or was returned before. -/
theorem Database.returned_commit_cases {db : Database L R α κ} {t snapshot : ℕ} {call call' : κ}
    {a a' : α} (h : (db.commit t call a snapshot).Returned call' a') :
    call' = call ∧ a' = a ∨ db.Returned call' a' := by
  obtain ⟨t', snapshot', h⟩ := h
  rcases transactions_commit_cases h with ⟨-, hset⟩ | ⟨-, hold⟩
  · cases hset
    exact Or.inl ⟨rfl, rfl⟩
  · exact Or.inr ⟨t', snapshot', hold⟩

/-- What was returned stays so when a transaction commits. -/
theorem Database.Returned.commit {db : Database L R α κ} {t snapshot : ℕ} {call call' : κ} {a a' : α}
    (here : db.transactions t = some ⟨call, .ready (.ret a), snapshot⟩)
    (h : db.Returned call' a') : (db.commit t call a snapshot).Returned call' a' := by
  obtain ⟨t', snapshot', h⟩ := h
  have ht : t' ≠ t := by
    rintro rfl
    rw [here] at h
    cases h
  exact ⟨t', snapshot', (transactions_commit_of_ne _ _ ht ..).trans h⟩

/-- The call of a transaction. -/
def Database.call? (db : Database L R α κ) (t : ℕ) : Option κ :=
  (db.transactions t).map Transaction.call

namespace Server

variable [DecidableEq L] {server : Server L K R α κ} {db db' : Database L R α κ} {e : Step κ}

/-- A transaction that is open keeps its call. -/
theorem call?_effect (later : ∀ t call, e ≠ .begin t call) (heffect : server.Effect db e db')
    (t : ℕ) : db'.call? t = db.call? t := by
  have hset : ∀ {t' : ℕ} {call : κ} {phase phase' : Phase L R α} {snapshot snapshot' : ℕ},
      db.transactions t' = some ⟨call, phase, snapshot⟩ →
      ((Function.update db.transactions t' (some ⟨call, phase', snapshot'⟩)) t).map
        Transaction.call = db.call? t := by
    intro t' call phase phase' snapshot snapshot' here
    by_cases ht : t = t'
    · subst ht
      rw [Function.update_self, Database.call?, here]
      rfl
    · rw [Function.update_of_ne ht]
      rfl
  cases heffect with
  | none => rfl
  | began fresh => exact absurd rfl (later _ _)
  | locked here free => exact hset here
  | selected here => exact hset here
  | started here => exact hset here
  | wrote here target free seen matched => exact hset here
  | skipped here target free unmatched => exact hset here
  | ended here => exact hset here
  | inserted here free accepts => exact hset here
  | committed here => exact hset here
  | aborted here going => exact hset here

/-- What was returned stays so. -/
theorem returned_effect (hwell : db.WellFormed) (heffect : server.Effect db e db') {call : κ} {a : α}
    (h : db.Returned call a) : db'.Returned call a := by
  rcases history_effect hwell heffect with ⟨t', call', a', snapshot', -, here, rfl⟩ | ⟨-, hsame⟩
  · exact h.commit here
  · obtain ⟨t, snapshot, h⟩ := h
    exact ⟨t, snapshot, (hsame t call a snapshot).2 h⟩

end Server

/-! ### Reasons -/

/-- Every transaction that is opened has its reasons, in the answers that were given and in what was
returned before. -/
def Workflow.Ensures (P : Set (Sigma β) → Set (κ × α) → κ → Prop) :
    Workflow α κ ρ γ β → Set (Sigma β) → Set (κ × α) → Prop
  | .done _, _, _ => True
  | .ask question next, asked, told =>
      ∀ b, (next b).Ensures P (insert ⟨question, b⟩ asked) told
  | .transact call next, asked, told => P asked told call ∧ (next none).Ensures P asked told ∧
      ∀ a, (next (some a)).Ensures P asked (insert (call, a) told)

namespace AppState

variable {σ σ' : AppState L R α κ ρ γ β} {asked : Set (Sigma β)} {told : Set (κ × α)}

/-- The answers were given, and the transactions have returned. -/
structure Heard (σ : AppState L R α κ ρ γ β) (asked : Set (Sigma β)) (told : Set (κ × α)) :
    Prop where
  asked : ∀ x ∈ asked, x ∈ σ.answers
  told : ∀ x ∈ told, σ.db.Returned x.1 x.2

theorem heard_empty : σ.Heard ∅ ∅ :=
  ⟨fun _ h => absurd h (Set.notMem_empty _), fun _ h => absurd h (Set.notMem_empty _)⟩

/-- Nothing is forgotten. -/
structure Extends (σ σ' : AppState L R α κ ρ γ β) : Prop where
  answers : σ.answers ⊆ σ'.answers
  returned : ∀ call a, σ.db.Returned call a → σ'.db.Returned call a

theorem Heard.mono (h : σ.Heard asked told) (hextends : σ.Extends σ') : σ'.Heard asked told :=
  ⟨fun x hx => hextends.answers (h.asked x hx), fun x hx => hextends.returned _ _ (h.told x hx)⟩

/-- A client resumes: what its transaction has returned is one reason more. -/
theorem Heard.insert_returned {t snapshot : ℕ} {call call' : κ} {a : α}
    (hheard : σ.Heard asked told)
    (hcall : σ.db.call? t = some call)
    (ended : σ.db.transactions t = some ⟨call', .committed a, snapshot⟩) :
    σ.Heard asked (insert (call, a) told) := by
  rw [Database.call?, ended] at hcall
  cases hcall
  refine ⟨hheard.asked, ?_⟩
  rintro x (rfl | hx)
  · exact ⟨t, snapshot, ended⟩
  · exact hheard.told x hx

/-- The transactions have their reasons, and so have those that the clients may still open. -/
structure Justified (P : Set (Sigma β) → Set (κ × α) → κ → Prop) (σ : AppState L R α κ ρ γ β) :
    Prop where
  calls : ∀ t call, σ.db.call? t = some call → ∃ asked told, σ.Heard asked told ∧ P asked told call
  ready : ∀ c workflow, σ.clients c = some (.ready workflow) →
    ∃ asked told, σ.Heard asked told ∧ workflow.Ensures P asked told
  waiting : ∀ c t next, σ.clients c = some (.waiting t next) →
    ∃ call asked told, σ.db.call? t = some call ∧ σ.Heard asked told ∧
      (next none).Ensures P asked told ∧ ∀ a, (next (some a)).Ensures P asked (insert (call, a) told)

variable {P : Set (Sigma β) → Set (κ × α) → κ → Prop}

/-- What is known of the calls and of the clients stays where nothing is forgotten and the
transactions keep their calls. -/
theorem Justified.mono (h : σ.Justified P) (hextends : σ.Extends σ')
    (hcalls : ∀ t, σ'.db.call? t = σ.db.call? t) (hclients : σ'.clients = σ.clients) :
    σ'.Justified P := by
  constructor
  · intro t call hcall
    rw [hcalls] at hcall
    obtain ⟨asked, told, hheard, hreason⟩ := h.calls t call hcall
    exact ⟨asked, told, hheard.mono hextends, hreason⟩
  · intro c workflow here
    rw [hclients] at here
    obtain ⟨asked, told, hheard, hensures⟩ := h.ready c workflow here
    exact ⟨asked, told, hheard.mono hextends, hensures⟩
  · intro c t next here
    rw [hclients] at here
    obtain ⟨call, asked, told, hcall, hheard, hnext⟩ := h.waiting c t next here
    exact ⟨call, asked, told, (hcalls t).trans hcall, hheard.mono hextends, hnext⟩

/-- A client goes on with a workflow that has its reasons. -/
theorem Justified.setReady (h : σ.Justified P) (c : ℕ) {workflow : Workflow α κ ρ γ β}
    (hheard : σ.Heard asked told) (hensures : workflow.Ensures P asked told) :
    (σ.setClient c (.ready workflow)).Justified P := by
  have hextends : σ.Extends (σ.setClient c (.ready workflow)) :=
    ⟨List.Subset.refl _, fun _ _ hreturned => hreturned⟩
  constructor
  · intro t call hcall
    obtain ⟨asked', told', hheard', hreason⟩ := h.calls t call hcall
    exact ⟨asked', told', hheard'.mono hextends, hreason⟩
  · intro c' workflow' here
    rcases clients_setClient_cases here with ⟨-, hsame⟩ | hold
    · cases hsame
      exact ⟨asked, told, hheard.mono hextends, hensures⟩
    · obtain ⟨asked', told', hheard', hensures'⟩ := h.ready c' workflow' hold
      exact ⟨asked', told', hheard'.mono hextends, hensures'⟩
  · intro c' t next here
    rcases clients_setClient_cases here with ⟨-, hsame⟩ | hold
    · cases hsame
    · obtain ⟨call, asked', told', hcall, hheard', hnext⟩ := h.waiting c' t next hold
      exact ⟨call, asked', told', hcall, hheard'.mono hextends, hnext⟩

/-- A client opens a transaction for which it has its reasons. -/
theorem Justified.submit (h : σ.Justified P) {c t : ℕ} {call : κ}
    {next : Option α → Workflow α κ ρ γ β} (program : Program L R α)
    (here : σ.clients c = some (.ready (.transact call next)))
    (fresh : σ.db.transactions t = none) :
    AppState.Justified P { σ.setClient c (.waiting t next) with
      db := σ.db.setTransaction t ⟨call, .ready program, 0⟩ } := by
  obtain ⟨asked, told, hheard, hreason, hnext⟩ := h.ready c _ here
  have hold : ∀ {t' call' a snapshot},
      σ.db.transactions t' = some ⟨call', .committed a, snapshot⟩ → t' ≠ t := by
    rintro t' call' a snapshot hcommitted rfl
    rw [fresh] at hcommitted
    cases hcommitted
  set σ' : AppState L R α κ ρ γ β := { σ.setClient c (.waiting t next) with
    db := σ.db.setTransaction t ⟨call, .ready program, 0⟩ } with hσ'
  have hextends : σ.Extends σ' := by
    refine ⟨List.Subset.refl _, ?_⟩
    rintro call' a ⟨t', snapshot, hcommitted⟩
    exact ⟨t', snapshot,
      (Database.transactions_setTransaction_of_ne _ _ _ (hold hcommitted)).trans hcommitted⟩
  have hself : σ'.db.call? t = some call := by
    rw [Database.call?, hσ', Database.transactions_setTransaction_self]
    rfl
  have hother : ∀ {t'}, t' ≠ t → σ'.db.call? t' = σ.db.call? t' := by
    intro t' ht
    rw [Database.call?, hσ', Database.transactions_setTransaction_of_ne _ _ _ ht]
    rfl
  constructor
  · intro t' call' hcall
    by_cases ht : t' = t
    · subst ht
      rw [hself] at hcall
      cases hcall
      exact ⟨asked, told, hheard.mono hextends, hreason⟩
    · rw [hother ht] at hcall
      obtain ⟨asked', told', hheard', hreason'⟩ := h.calls t' call' hcall
      exact ⟨asked', told', hheard'.mono hextends, hreason'⟩
  · intro c' workflow here'
    rcases clients_setClient_cases here' with ⟨-, hsame⟩ | hold'
    · cases hsame
    · obtain ⟨asked', told', hheard', hensures⟩ := h.ready c' workflow hold'
      exact ⟨asked', told', hheard'.mono hextends, hensures⟩
  · intro c' t' next' here'
    rcases clients_setClient_cases here' with ⟨-, hsame⟩ | hold'
    · cases hsame
      exact ⟨call, asked, told, hself, hheard.mono hextends, hnext⟩
    · obtain ⟨call', asked', told', hcall, hheard', hnext'⟩ := h.waiting c' t' next' hold'
      have ht : t' ≠ t := by
        rintro rfl
        rw [Database.call?, fresh] at hcall
        cases hcall
      exact ⟨call', asked', told', (hother ht).trans hcall, hheard'.mono hextends, hnext'⟩

end AppState

namespace Application

variable [DecidableEq L] [DecidableEq K] {app : Application L K R α κ ρ γ β ι}
  {P : Set (Sigma β) → Set (κ × α) → κ → Prop}

/-- **Every effect keeps the transactions justified**, if what enters has its reasons. -/
theorem justified_effect {σ σ' : AppState L R α κ ρ γ β} {e : AppStep κ γ β ι}
    (hentry : ∀ c entry, e = .enter c entry → (app.handler entry).Ensures P ∅ ∅)
    (hwell : σ.db.WellFormed) (h : σ.Justified P) (heffect : app.Effect σ e σ') :
    σ'.Justified P := by
  cases heffect with
  | none => exact h
  | entered => exact h.setReady _ AppState.heard_empty (hentry _ _ rfl)
  | answered oracle here =>
      rename_i c question next
      obtain ⟨asked, told, hheard, hensures⟩ := h.ready c _ here
      set σ' : AppState L R α κ ρ γ β :=
        { σ with answers := ⟨question, oracle question⟩ :: σ.answers }
      have hextends : σ.Extends σ' := ⟨List.subset_cons_self _ _, fun _ _ hreturned => hreturned⟩
      have hanswered : σ'.Justified P := h.mono hextends (fun _ => rfl) rfl
      have hheard' : σ'.Heard (insert ⟨question, oracle question⟩ asked) told := by
        refine ⟨?_, hheard.told⟩
        rintro x (rfl | hx)
        · exact List.mem_cons_self ..
        · exact List.mem_cons_of_mem _ (hheard.asked x hx)
      exact hanswered.setReady c hheard' (hensures (oracle question))
  | submitted here fresh => exact h.submit _ here fresh
  | returned here ended =>
      obtain ⟨call, asked, told, hcall, hheard, -, hnext⟩ := h.waiting _ _ _ here
      exact h.setReady _ (hheard.insert_returned hcall ended) (hnext _)
  | failed here =>
      obtain ⟨call, asked, told, -, hheard, hnext, -⟩ := h.waiting _ _ _ here
      exact h.setReady _ hheard hnext
  | served later stepped =>
      subst stepped
      rename_i e
      have heffect : app.server.Effect σ.db e (app.server.step σ.db e) := Server.step_effect σ.db e
      exact h.mono ⟨List.Subset.refl _, fun _ _ => Server.returned_effect hwell heffect⟩
        (Server.call?_effect later heffect) rfl

theorem wellFormed_after (steps : List (AppStep κ γ β ι)) : (app.after steps).db.WellFormed := by
  obtain ⟨served, hdb⟩ := app.exists_after steps
  rw [hdb]
  exact Server.wellFormed_after served

/-- **Over every run, every transaction has its reasons**, if what enters has. -/
theorem justified_after (steps : List (AppStep κ γ β ι))
    (hentries : ∀ c entry, .enter c entry ∈ steps → (app.handler entry).Ensures P ∅ ∅) :
    (app.after steps).Justified P := by
  induction steps using List.reverseRecOn with
  | nil =>
      constructor
      · intro t call h
        cases h
      · intro c workflow h
        cases h
      · intro c t next h
        cases h
  | append_singleton steps e ih =>
      rw [after_concat]
      refine justified_effect ?_ (wellFormed_after steps) (ih ?_) (step_effect _ e)
      · rintro c entry rfl
        exact hentries c entry (by simp)
      · intro c entry hmem
        exact hentries c entry (List.mem_append_left _ hmem)

/-- **Only a commit changes what is committed, and which transactions are.**  Answers are never
withdrawn. -/
theorem history_step (steps : List (AppStep κ γ β ι)) (e : AppStep κ γ β ι) :
    (∃ t call a snapshot, (app.after steps).db.transactions t =
          some ⟨call, .ready (.ret a), snapshot⟩ ∧
        (app.after (steps ++ [e])).db = (app.after steps).db.commit t call a snapshot ∧
        (app.after (steps ++ [e])).answers = (app.after steps).answers) ∨
      (∀ i, ((app.after (steps ++ [e])).db.slots i).committed =
          ((app.after steps).db.slots i).committed) ∧
        (∀ t call a snapshot, (app.after (steps ++ [e])).db.transactions t =
            some ⟨call, .committed a, snapshot⟩ ↔
          (app.after steps).db.transactions t = some ⟨call, .committed a, snapshot⟩) ∧
        (app.after steps).answers ⊆ (app.after (steps ++ [e])).answers := by
  rw [after_concat]
  have hwell : (app.after steps).db.WellFormed := wellFormed_after steps
  generalize app.after steps = σ at hwell ⊢
  have heffect : app.Effect σ e (app.step σ e) := step_effect σ e
  generalize app.step σ e = σ' at heffect ⊢
  cases heffect with
  | none => exact Or.inr ⟨fun _ => rfl, fun _ _ _ _ => Iff.rfl, List.Subset.refl _⟩
  | entered => exact Or.inr ⟨fun _ => rfl, fun _ _ _ _ => Iff.rfl, List.Subset.refl _⟩
  | answered oracle here =>
      exact Or.inr ⟨fun _ => rfl, fun _ _ _ _ => Iff.rfl, List.subset_cons_self _ _⟩
  | submitted here fresh =>
      rename_i c t call next
      have hbegan : app.server.Effect σ.db (.begin t call) _ := .began fresh
      rcases Server.history_effect hwell hbegan with ⟨t, call, a, snapshot, hstep, -⟩ | ⟨hrows, hsame⟩
      · cases hstep
      · exact Or.inr ⟨hrows, hsame, List.Subset.refl _⟩
  | returned here ended => exact Or.inr ⟨fun _ => rfl, fun _ _ _ _ => Iff.rfl, List.Subset.refl _⟩
  | failed here => exact Or.inr ⟨fun _ => rfl, fun _ _ _ _ => Iff.rfl, List.Subset.refl _⟩
  | served later stepped =>
      subst stepped
      rename_i e
      have heffect : app.server.Effect σ.db e (app.server.step σ.db e) := Server.step_effect σ.db e
      rcases Server.history_effect hwell heffect with
        ⟨t, call, a, snapshot, -, here, hcommit⟩ | ⟨hrows, hsame⟩
      · exact Or.inl ⟨t, call, a, snapshot, here, hcommit, rfl⟩
      · exact Or.inr ⟨hrows, hsame, List.Subset.refl _⟩

end Application

end ReadCommitted

end PlatformOps
