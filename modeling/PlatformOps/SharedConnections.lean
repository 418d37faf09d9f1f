/-
**Clients that share connections.**

The clients of `PlatformOps/Workflows.lean` talk to the database over connections, and several may
use one.  A connection has one transaction open at most.  An operation that begins on an idle
connection opens the transaction in which it runs; one that begins while a transaction is open runs
in that transaction: what was to be a transaction of its own is a block within another one.  Its
statements see what the transaction has written, its end commits nothing, and when it fails, what the
transaction has written since the operation began is undone, whoever has written it.

Blocks have to end in the order opposite to that in which they began: the end of another block
raises, and neither commits nor undoes anything.  A statement without a block is a transaction of its
own on a connection that commits by itself; on another connection it leaves its transaction open.
While a statement runs, no other is sent over its connection.

While every operation begins on an idle connection, and statements without a block on a connection
that commits by itself, each operation has its transaction, and the clients behave as if each of them
had its own connection.

Main definitions:

* `SharedApplication` — clients, and who uses which connection;
* `Connection`, `Hosted`, `Operation`, `SharedState` — connections, and the operations on them;
* `Database.restore` — the rollback to the beginning of a block;
* `SharedApplication.step`, `SharedApplication.after` — one step, and a run;
* `SharedApplication.Alone` — every operation begins alone.

Main results:

* `SharedApplication.exists_after_of_alone` — **a run in which every operation begins alone is a run
  of clients with transactions of their own**;
* `SharedApplication.alone_of_own_connections` — so it is if each client has its own connection.
-/

import PlatformOps.Workflows

set_option relaxedAutoImplicit false
set_option autoImplicit false

namespace PlatformOps

namespace ReadCommitted

universe u

/-! ### Connections -/

/-- Clients of a server, the connection of each of them, the connections that commit a statement by
themselves, the calls that are a statement without a block, and the results that are raised. -/
structure SharedApplication (L K R α κ ρ γ : Type u) (β : γ → Type u) (ι : Type u) extends
    Application L K R α κ ρ γ β ι where
  conn : ℕ → ℕ
  autocommit : ℕ → Bool
  bare : κ → Bool
  raises : α → Bool

/-- A connection: the transaction that is open on it, how many blocks are entered, and the operation
whose statement is running. -/
structure Connection where
  opened : Option ℕ
  depth : ℕ
  busy : Option ℕ

/-- No transaction is open. -/
def Connection.idle : Connection := ⟨none, 0, none⟩

/-- A connection with a block less, unless what ends is a statement without a block. -/
def Connection.exit (connection : Connection) (bare : Bool) : Connection where
  opened := connection.opened
  depth := if bare = true then connection.depth else connection.depth - 1
  busy := none

/-- An operation within a transaction of another one: how far it is, and the database when it
began. -/
structure Hosted (L R α κ : Type u) where
  host : ℕ
  phase : Phase L R α
  saved : Database L R α κ

/-- An operation: its call, its connection, how many blocks were entered when it began, and the
transaction that it runs in if it has none of its own. -/
structure Operation (L R α κ : Type u) where
  call : κ
  connection : ℕ
  index : ℕ
  hosted : Option (Hosted L R α κ)

/-- The clients and the database, the connections, the operations, and what those have returned
that have ended without an end of a transaction: nothing, if they have raised. -/
structure SharedState (L R α κ ρ γ : Type u) (β : γ → Type u) extends AppState L R α κ ρ γ β where
  connections : ℕ → Connection
  operations : ℕ → Option (Operation L R α κ)
  ended : ℕ → Option (Option α)

variable {L K R α κ ρ γ ι : Type u} {β : γ → Type u}

/-! ### Blocks -/

instance (phase : Phase L R α) : Decidable phase.Going :=
  match phase with
  | .ready _ => isTrue (.ready ..)
  | .updating _ _ _ _ _ => isTrue (.updating ..)
  | .committed _ => isFalse (by rintro ⟨⟩)
  | .aborted => isFalse (by rintro ⟨⟩)

namespace Database

theorem going_iff {db : Database L R α κ} {t : ℕ} :
    db.Going t ↔ ∃ transaction ∈ db.transactions t, transaction.phase.Going := by
  constructor
  · rintro ⟨call, phase, snapshot, h, hgoing⟩
    exact ⟨_, h, hgoing⟩
  · rintro ⟨⟨call, phase, snapshot⟩, h, hgoing⟩
    exact ⟨call, phase, snapshot, h, hgoing⟩

instance (db : Database L R α κ) (t : ℕ) : Decidable (db.Going t) :=
  decidable_of_iff _ going_iff.symm

/-- The update of a transaction is running. -/
def Updating (db : Database L R α κ) (t : ℕ) : Bool :=
  match db.transactions t with
  | some ⟨_, .updating _ _ _ _ _, _⟩ => true
  | _ => false

/-- Undo what a transaction has written, and the locks that it has taken, since the database was
like this. -/
def restore (db saved : Database L R α κ) (host : ℕ) : Database L R α κ where
  slots i :=
    match (db.slots i).pending with
    | some (owner, _) =>
        if owner = host then
          { db.slots i with pending := (saved.slots i).pending.filter fun own => own.1 = host }
        else db.slots i
    | none => db.slots i
  size := db.size
  clock := db.clock
  holder key :=
    if db.holder key = some host ∧ saved.holder key ≠ some host then none else db.holder key
  transactions := db.transactions

end Database

/-- The transaction of a step. -/
def Step.transaction : Step κ → ℕ
  | .begin t _ => t
  | .statement t => t
  | .row t _ => t
  | .commit t => t
  | .abort t => t

/-- The step of another transaction. -/
def Step.on (host : ℕ) : Step κ → Step κ
  | .begin _ call => .begin host call
  | .statement _ => .statement host
  | .row _ i => .row host i
  | .commit _ => .commit host
  | .abort _ => .abort host

namespace SharedState

/-- Nothing has happened. -/
def init : SharedState L R α κ ρ γ β := ⟨.init, fun _ => .idle, fun _ => none, fun _ => none⟩

/-- The state with the clients and the database in another state. -/
def setApp (σ : SharedState L R α κ ρ γ β) (client : AppState L R α κ ρ γ β) :
    SharedState L R α κ ρ γ β :=
  { σ with toAppState := client }

/-- The state with a connection in another state. -/
def setConnection (σ : SharedState L R α κ ρ γ β) (k : ℕ) (connection : Connection) :
    SharedState L R α κ ρ γ β :=
  { σ with connections := Function.update σ.connections k connection }

/-- The state with another operation. -/
def setOperation (σ : SharedState L R α κ ρ γ β) (t : ℕ) (operation : Operation L R α κ) :
    SharedState L R α κ ρ γ β :=
  { σ with operations := Function.update σ.operations t (some operation) }

/-- An operation ends, but its transaction does not. -/
def setEnded (σ : SharedState L R α κ ρ γ β) (t : ℕ) (result : Option α) :
    SharedState L R α κ ρ γ β :=
  { σ with ended := Function.update σ.ended t (some result) }

/-- The state with another database. -/
def setDatabase (σ : SharedState L R α κ ρ γ β) (db : Database L R α κ) :
    SharedState L R α κ ρ γ β :=
  { σ with db := db }

theorem connections_setConnection_self (σ : SharedState L R α κ ρ γ β) (k : ℕ)
    (connection : Connection) : (σ.setConnection k connection).connections k = connection :=
  Function.update_self ..

/-- An operation for this call has returned this value: it has ended, or its transaction has
committed. -/
def Returned (σ : SharedState L R α κ ρ γ β) (t : ℕ) (call : κ) (a : α) : Prop :=
  ∃ operation, σ.operations t = some operation ∧ operation.call = call ∧
    (σ.ended t = some (some a) ∨
      ∃ snapshot, σ.db.transactions t = some ⟨call, .committed a, snapshot⟩)

/-- The operation that a client can begin now, with what the client does then. -/
def beginning (σ : SharedState L R α κ ρ γ β) (k c t : ℕ) :
    Option (κ × (Option α → Workflow α κ ρ γ β)) :=
  match σ.clients c, σ.db.transactions t, σ.operations t with
  | some (.ready (.transact call next)), none, none =>
      if (σ.connections k).busy = none then some (call, next) else none
  | _, _, _ => none

end SharedState

/-! ### Steps -/

namespace SharedApplication

variable [DecidableEq L] [DecidableEq K] (app : SharedApplication L K R α κ ρ γ β ι)

/-- How many blocks a call enters. -/
def blocks (call : κ) : ℕ := if app.bare call = true then 0 else 1

/-- The end of an operation is the end of its transaction: no other block is within it, and a
statement without a block is committed by the connection. -/
def Closes (connection : Connection) (operation : Operation L R α κ) : Prop :=
  app.bare operation.call = true ∧ app.autocommit operation.connection = true ∨
    app.bare operation.call = false ∧ connection.depth = 1

instance (connection : Connection) (operation : Operation L R α κ) :
    Decidable (app.Closes connection operation) :=
  inferInstanceAs (Decidable (_ ∨ _))

/-- The connection once an operation with a transaction has ended. -/
def closed (connection : Connection) (operation : Operation L R α κ) : Connection :=
  if app.Closes connection operation then .idle else connection.exit (app.bare operation.call)

/-- The connection while an operation goes on: it is busy with an update, and with a statement that
has no block. -/
def serving (connection : Connection) (t : ℕ) (call : κ) (updating : Bool) : Connection :=
  { connection with busy := if app.bare call = true ∨ updating = true then some t else none }

/-- An operation begins: in its own transaction if none is open, and within the open one else. -/
def submit (σ : SharedState L R α κ ρ γ β) (c t : ℕ) : SharedState L R α κ ρ γ β :=
  match σ.beginning (app.conn c) c t with
  | none => σ
  | some (call, next) =>
      let k := app.conn c
      let connection := σ.connections k
      match connection.opened with
      | none =>
          ((σ.setApp (app.toApplication.step σ.toAppState (.submit c t))).setOperation t
            ⟨call, k, 0, none⟩).setConnection k
              (app.serving ⟨some t, app.blocks call, none⟩ t call false)
      | some host =>
          ((σ.setApp (σ.toAppState.setClient c (.waiting t next))).setOperation t
            ⟨call, k, connection.depth,
              some ⟨host, .ready (app.server.main call), σ.db⟩⟩).setConnection k
              (app.serving ⟨some host, connection.depth + app.blocks call, none⟩ t call false)

/-- A step of an operation in its own transaction. -/
def serveOwn (σ : SharedState L R α κ ρ γ β) (t : ℕ) (operation : Operation L R α κ)
    (e : Step κ) : SharedState L R α κ ρ γ β :=
  let connection := σ.connections operation.connection
  match e, σ.db.transactions t with
  | .commit _, some ⟨_, .ready (.ret a), _⟩ =>
      if app.Closes connection operation then
        -- what raises undoes what the transaction has written
        let db := if app.raises a = true then σ.db.restore .empty t else σ.db
        (σ.setDatabase (app.server.step db e)).setConnection operation.connection .idle
      else
        -- a block that is not the innermost raises, and the transaction stays open
        (σ.setEnded t (if app.bare operation.call = true then some a else none)).setConnection
          operation.connection (connection.exit (app.bare operation.call))
  | _, _ =>
      let db := app.server.step σ.db e
      (σ.setDatabase db).setConnection operation.connection
        (if db.Going t then app.serving connection t operation.call (db.Updating t)
        else app.closed connection operation)

/-- Who has the connection ends the transaction that an operation has left open. -/
def serveLeft (σ : SharedState L R α κ ρ γ β) (operation : Operation L R α κ) (e : Step κ) :
    SharedState L R α κ ρ γ β :=
  let ends := (σ.setDatabase (app.server.step σ.db e)).setConnection operation.connection .idle
  match e with
  | .commit _ => if (σ.connections operation.connection).depth = 0 then ends else σ
  | .abort _ => if (σ.connections operation.connection).depth = 0 then ends else σ
  | _ => σ

/-- An operation within another transaction ends. -/
def leave (σ : SharedState L R α κ ρ γ β) (t : ℕ) (operation : Operation L R α κ)
    (result : Option α) : SharedState L R α κ ρ γ β :=
  (σ.setEnded t result).setConnection operation.connection
    ((σ.connections operation.connection).exit (app.bare operation.call))

/-- A statement of an operation within another transaction fails: the innermost block is undone, and
any other failure is that of the transaction. -/
def fail (σ : SharedState L R α κ ρ γ β) (t : ℕ) (operation : Operation L R α κ)
    (hosted : Hosted L R α κ) : SharedState L R α κ ρ γ β :=
  if app.bare operation.call = false ∧
      (σ.connections operation.connection).depth = operation.index + 1 then
    app.leave (σ.setDatabase (σ.db.restore hosted.saved hosted.host)) t operation none
  else app.leave (σ.setDatabase (app.server.step σ.db (.abort hosted.host))) t operation none

/-- A statement of an operation within another transaction, which runs it. -/
def runHosted (σ : SharedState L R α κ ρ γ β) (t : ℕ) (operation : Operation L R α κ)
    (hosted : Hosted L R α κ) (e : Step κ) : SharedState L R α κ ρ γ β :=
  match σ.db.transactions hosted.host with
  | none => σ
  | some own =>
      let db := app.server.step
        (σ.db.setTransaction hosted.host ⟨own.call, hosted.phase, own.snapshot⟩)
        (e.on hosted.host)
      match db.transactions hosted.host with
      | none => σ
      | some ⟨_, phase, _⟩ =>
          if phase.Going then
            ((σ.setDatabase (db.setTransaction hosted.host own)).setOperation t
              { operation with hosted := some { hosted with phase := phase } }).setConnection
                operation.connection (app.serving (σ.connections operation.connection) t
                  operation.call (db.Updating hosted.host))
          else app.fail σ t operation hosted

/-- A step of an operation within another transaction. -/
def serveHosted (σ : SharedState L R α κ ρ γ β) (t : ℕ) (operation : Operation L R α κ)
    (hosted : Hosted L R α κ) (e : Step κ) : SharedState L R α κ ρ γ β :=
  if σ.db.Going hosted.host then
    match e, hosted.phase with
    | .commit _, .ready (.ret a) =>
        if app.bare operation.call = true then app.leave σ t operation (some a)
        else if (σ.connections operation.connection).depth = operation.index + 1 then
          app.leave (if app.raises a = true then
            σ.setDatabase (σ.db.restore hosted.saved hosted.host) else σ) t operation (some a)
        else app.leave σ t operation none
    | .commit _, _ => σ
    | .abort _, _ => app.fail σ t operation hosted
    | _, _ => app.runHosted σ t operation hosted e
  else app.leave σ t operation none

/-- A step of an operation.  It waits while a statement of another one is running. -/
def serve (σ : SharedState L R α κ ρ γ β) (t : ℕ) (e : Step κ) : SharedState L R α κ ρ γ β :=
  match σ.operations t with
  | none => σ
  | some operation =>
      let connection := σ.connections operation.connection
      if connection.busy = none ∨ connection.busy = some t then
        match operation.hosted with
        | none =>
            if connection.opened = some t ∧ σ.db.Going t then
              if (σ.ended t).isSome then app.serveLeft σ operation e
              else app.serveOwn σ t operation e
            else σ
        | some hosted =>
            if (σ.ended t).isSome then σ else app.serveHosted σ t operation hosted e
      else σ

/-- A step. -/
def step (σ : SharedState L R α κ ρ γ β) : AppStep κ γ β ι → SharedState L R α κ ρ γ β
  | .enter c entry => σ.setApp (app.toApplication.step σ.toAppState (.enter c entry))
  | .answer c oracle => σ.setApp (app.toApplication.step σ.toAppState (.answer c oracle))
  | .submit c t => app.submit σ c t
  | .resume c =>
      match σ.clients c with
      | some (.waiting t next) =>
          match σ.ended t with
          | some result => σ.setApp (σ.toAppState.setClient c (.ready (next result)))
          | none => σ.setApp (app.toApplication.step σ.toAppState (.resume c))
      | _ => σ
  | .serve (.begin _ _) => σ
  | .serve e => app.serve σ e.transaction e

/-- The state after some steps. -/
def after (steps : List (AppStep κ γ β ι)) : SharedState L R α κ ρ γ β :=
  steps.foldl app.step .init

theorem after_concat (steps : List (AppStep κ γ β ι)) (e : AppStep κ γ β ι) :
    app.after (steps ++ [e]) = app.step (app.after steps) e := by
  unfold after
  rw [List.foldl_append]
  rfl

/-! ### Operations that begin alone -/

/-- What begins over a connection finds no transaction open on it, and the connection commits it by
itself if it is a statement without a block. -/
def BeginsAlone (σ : SharedState L R α κ ρ γ β) (k : ℕ) :
    Option (κ × (Option α → Workflow α κ ρ γ β)) → Prop
  | some (call, _) => (σ.connections k).opened = none ∧
      (app.bare call = true → app.autocommit k = true)
  | none => True

instance (σ : SharedState L R α κ ρ γ β) (k : ℕ) :
    (beginning : Option (κ × (Option α → Workflow α κ ρ γ β))) →
      Decidable (app.BeginsAlone σ k beginning)
  | some _ => inferInstanceAs (Decidable (_ ∧ (_ → _)))
  | none => isTrue trivial

/-- If an operation begins now, it begins alone. -/
def MayBegin (σ : SharedState L R α κ ρ γ β) : AppStep κ γ β ι → Prop
  | .submit c t => app.BeginsAlone σ (app.conn c) (σ.beginning (app.conn c) c t)
  | _ => True

instance (σ : SharedState L R α κ ρ γ β) : (e : AppStep κ γ β ι) → Decidable (app.MayBegin σ e)
  | .submit _ _ => inferInstanceAs (Decidable (app.BeginsAlone ..))
  | .enter _ _ => isTrue trivial
  | .answer _ _ => isTrue trivial
  | .resume _ => isTrue trivial
  | .serve _ => isTrue trivial

/-- From here on every operation begins alone. -/
def AloneFrom (σ : SharedState L R α κ ρ γ β) : List (AppStep κ γ β ι) → Prop
  | [] => True
  | e :: steps => app.MayBegin σ e ∧ AloneFrom (app.step σ e) steps

theorem aloneFrom_concat (σ : SharedState L R α κ ρ γ β) (steps : List (AppStep κ γ β ι))
    (e : AppStep κ γ β ι) : app.AloneFrom σ (steps ++ [e]) ↔
      app.AloneFrom σ steps ∧ app.MayBegin (steps.foldl app.step σ) e := by
  induction steps generalizing σ with
  | nil => exact and_comm
  | cons e' steps ih => exact (and_congr_right fun _ => ih _).trans and_assoc.symm

instance decidableAloneFrom (σ : SharedState L R α κ ρ γ β) :
    (steps : List (AppStep κ γ β ι)) → Decidable (app.AloneFrom σ steps)
  | [] => isTrue trivial
  | e :: steps =>
      have := decidableAloneFrom (app.step σ e) steps
      inferInstanceAs (Decidable (app.MayBegin σ e ∧ app.AloneFrom (app.step σ e) steps))

/-- Every operation begins alone. -/
def Alone (steps : List (AppStep κ γ β ι)) : Prop := app.AloneFrom .init steps

instance (steps : List (AppStep κ γ β ι)) : Decidable (app.Alone steps) :=
  app.decidableAloneFrom .init steps

theorem alone_concat (steps : List (AppStep κ γ β ι)) (e : AppStep κ γ β ι) :
    app.Alone (steps ++ [e]) ↔ app.Alone steps ∧ app.MayBegin (app.after steps) e :=
  app.aloneFrom_concat .init steps e

/-- What raises has only locked rows. -/
def RaisesLocked (db : Database L R α κ) : Prop :=
  ∀ t call a snapshot, db.transactions t = some ⟨call, .ready (.ret a), snapshot⟩ →
    app.raises a = true → (db.writeSet t).OnlyLocks

end SharedApplication

/-! ### Transactions of their own -/

namespace Server

variable [DecidableEq L] [DecidableEq K] (server : Server L K R α κ) (db : Database L R α κ)
  {t t' : ℕ}

theorem transactions_runStatement_of_ne (h : t' ≠ t) (call : κ) (snapshot : ℕ)
    (program : Program L R α) :
    (server.runStatement db t call snapshot program).transactions t' = db.transactions t' := by
  cases program with
  | ret a => rfl
  | lock key next =>
      simp only [runStatement]
      split
      · exact Function.update_of_ne h ..
      · rfl
  | select next => exact Function.update_of_ne h ..
  | update filter set next => exact Function.update_of_ne h ..
  | insert row next =>
      simp only [runStatement]
      split
      · rfl
      · split
        · exact Function.update_of_ne h ..
        · exact Database.transactions_abort_of_ne _ _ h ..

omit [DecidableEq L] [DecidableEq K] in
theorem transactions_runRow_of_ne (h : t' ≠ t) (i : ℕ) (call : κ) (snapshot : ℕ)
    (targets : List ℕ) (filter : R → Bool) (set : R → R) (returned : List R)
    (next : List R → Program L R α) :
    (server.runRow db t i call snapshot targets filter set returned next).transactions t' =
      db.transactions t' := by
  simp only [runRow]
  split
  · split
    · split
      · split
        · exact Function.update_of_ne h ..
        · exact Database.transactions_abort_of_ne _ _ h ..
      · exact Function.update_of_ne h ..
    · exact Function.update_of_ne h ..
  · rfl

/-- **A step leaves the other transactions as they are.** -/
theorem transactions_step_of_ne {e : Step κ} (h : t ≠ e.transaction) :
    (server.step db e).transactions t = db.transactions t := by
  cases e with
  | begin t' call =>
      simp only [step]
      split
      · exact Function.update_of_ne h ..
      · rfl
  | statement t' =>
      simp only [step]
      split
      · exact server.transactions_runStatement_of_ne db h ..
      · exact Function.update_of_ne h ..
      · rfl
  | row t' i =>
      simp only [step]
      split
      · exact server.transactions_runRow_of_ne db h ..
      · rfl
  | commit t' =>
      simp only [step]
      split
      · exact Function.update_of_ne h ..
      · rfl
  | abort t' =>
      simp only [step]
      split
      · exact Database.transactions_abort_of_ne _ _ h ..
      · exact Database.transactions_abort_of_ne _ _ h ..
      · rfl

end Server

/-- **What has only locked rows may be undone before it commits.** -/
theorem Database.step_commit_restore [DecidableEq L] [DecidableEq K] (server : Server L K R α κ)
    {db : Database L R α κ} {t snapshot : ℕ} {call : κ} {a : α}
    (here : db.transactions t = some ⟨call, .ready (.ret a), snapshot⟩)
    (hlocks : (db.writeSet t).OnlyLocks) :
    server.step (db.restore .empty t) (.commit t) = server.step db (.commit t) := by
  have here' : (db.restore .empty t).transactions t = some ⟨call, .ready (.ret a), snapshot⟩ := here
  rw [Server.step_commit here, Server.step_commit here']
  unfold Database.commit
  congr 1
  · funext i
    simp only [restore]
    rcases hpending : (db.slots i).pending with _ | ⟨owner, row⟩
    · rfl
    · dsimp only
      split
      · next howner =>
          subst howner
          have hcommitted := hlocks i _ _ (Database.writeSet_eq_some_iff.2 ⟨hpending, rfl⟩)
          simp [Slot.commit, hpending, hcommitted, Database.empty, Slot.empty]
      · rfl
  · funext key
    simp only [restore, Database.empty]
    by_cases h : db.holder key = some t
    · simp [h]
    · simp [h]

theorem Database.going_congr {db db' : Database L R α κ} {t : ℕ}
    (h : db'.transactions t = db.transactions t) : db'.Going t ↔ db.Going t := by
  unfold Database.Going
  rw [h]

namespace Application

variable [DecidableEq L] [DecidableEq K] {app : Application L K R α κ ρ γ β ι}

/-- What the clients do without the database leaves it as it is. -/
theorem db_step {σ : AppState L R α κ ρ γ β} {e : AppStep κ γ β ι}
    (hsubmit : ∀ c t, e ≠ .submit c t) (hserve : ∀ e', e ≠ .serve e') :
    (app.step σ e).db = σ.db := by
  have heffect : app.Effect σ e (app.step σ e) := step_effect σ e
  revert heffect
  generalize app.step σ e = σ'
  intro heffect
  cases heffect with
  | none => rfl
  | entered => rfl
  | answered oracle here => rfl
  | submitted here fresh => exact absurd rfl (hsubmit _ _)
  | returned here ended => rfl
  | failed here => rfl
  | served later stepped => exact absurd rfl (hserve _)

end Application

namespace SharedApplication

variable [DecidableEq L] [DecidableEq K] {app : SharedApplication L K R α κ ρ γ β ι}
  {σ σ' : SharedState L R α κ ρ γ β}

variable (app) in
/-- Every operation has its own transaction, which is open on its connection until the operation
ends, and ends with it. -/
structure Apart (σ : SharedState L R α κ ρ γ β) : Prop where
  ended : ∀ t, σ.ended t = none
  own : ∀ t operation, σ.operations t = some operation → operation.hosted = none ∧
    (σ.db.Going t → (σ.connections operation.connection).opened = some t ∧
      app.Closes (σ.connections operation.connection) operation)
  opened : ∀ k t, (σ.connections k).opened = some t → σ.db.Going t ∧
    ∃ operation, σ.operations t = some operation ∧ operation.connection = k

omit [DecidableEq L] [DecidableEq K] in
theorem apart_init : app.Apart .init := by
  constructor
  · intro t
    rfl
  · intro t operation h
    cases h
  · intro k t h
    cases h

omit [DecidableEq L] [DecidableEq K] in
/-- What an operation has returned its transaction has committed. -/
theorem Apart.committed_of_returned (h : app.Apart σ) {t : ℕ} {call : κ} {a : α}
    (hreturned : σ.Returned t call a) :
    ∃ snapshot, σ.db.transactions t = some ⟨call, .committed a, snapshot⟩ := by
  obtain ⟨operation, -, -, hended | hcommitted⟩ := hreturned
  · rw [h.ended] at hended
    cases hended
  · exact hcommitted

omit [DecidableEq L] [DecidableEq K] in
/-- What the clients do without the database leaves the operations apart. -/
theorem Apart.setApp (h : app.Apart σ) {client : AppState L R α κ ρ γ β} (hdb : client.db = σ.db) :
    app.Apart (σ.setApp client) := by
  constructor
  · exact h.ended
  · intro t operation hoperation
    obtain ⟨hhosted, hown⟩ := h.own t operation hoperation
    exact ⟨hhosted, fun hgoing => hown (hdb ▸ hgoing)⟩
  · intro k t hopened
    obtain ⟨hgoing, hconnection⟩ := h.opened k t hopened
    exact ⟨hdb.symm ▸ hgoing, hconnection⟩

omit [DecidableEq L] [DecidableEq K] in
/-- **The operations stay apart while one of them moves** on a connection that was idle, or its
own. -/
theorem Apart.move (h : app.Apart σ) {k t : ℕ} {operation : Operation L R α κ}
    (hended : σ'.ended = σ.ended)
    (hconnections : ∀ k', k' ≠ k → σ'.connections k' = σ.connections k')
    (hoperations : ∀ t', t' ≠ t → σ'.operations t' = σ.operations t')
    (htransactions : ∀ t', t' ≠ t → σ'.db.transactions t' = σ.db.transactions t')
    (hself : σ'.operations t = some operation) (hk : operation.connection = k)
    (hown : operation.hosted = none)
    (hbefore : ∀ t', (σ.connections k).opened = some t' → t' = t)
    (hplace : ∀ operation', σ.operations t = some operation' → operation'.connection = k)
    (hgoes : σ'.db.Going t →
      (σ'.connections k).opened = some t ∧ app.Closes (σ'.connections k) operation)
    (hends : ¬ σ'.db.Going t → (σ'.connections k).opened = none) : app.Apart σ' := by
  constructor
  · rw [hended]
    exact h.ended
  · intro t' operation' hoperation
    by_cases ht : t' = t
    · subst ht
      cases hself.symm.trans hoperation
      subst hk
      exact ⟨hown, hgoes⟩
    · rw [hoperations t' ht] at hoperation
      obtain ⟨hhosted, hown'⟩ := h.own t' operation' hoperation
      refine ⟨hhosted, fun hgoing => ?_⟩
      obtain ⟨hopened, hcloses⟩ := hown' ((Database.going_congr (htransactions t' ht)).1 hgoing)
      have hne : operation'.connection ≠ k := by
        rintro hk'
        rw [hk'] at hopened
        exact ht (hbefore t' hopened)
      rw [hconnections _ hne]
      exact ⟨hopened, hcloses⟩
  · intro k' t' hopened
    by_cases hk' : k' = k
    · subst hk'
      by_cases hgoing : σ'.db.Going t
      · cases (hgoes hgoing).1.symm.trans hopened
        exact ⟨hgoing, operation, hself, hk⟩
      · cases (hends hgoing).symm.trans hopened
    · rw [hconnections k' hk'] at hopened
      obtain ⟨hgoing, operation', hoperation, hconnection⟩ := h.opened k' t' hopened
      have ht : t' ≠ t := by
        rintro rfl
        exact hk' (hconnection.symm.trans (hplace operation' hoperation))
      exact ⟨(Database.going_congr (htransactions t' ht)).2 hgoing, operation',
        (hoperations t' ht).trans hoperation, hconnection⟩

omit [DecidableEq L] in
/-- What can begin: a client is about to, the operation is new, and the connection is not busy. -/
theorem beginning_eq_some {k c t : ℕ} {call : κ} {next : Option α → Workflow α κ ρ γ β}
    (h : σ.beginning k c t = some (call, next)) :
    σ.clients c = some (.ready (.transact call next)) ∧ σ.db.transactions t = none ∧
      σ.operations t = none := by
  unfold SharedState.beginning at h
  split at h
  · rename_i hclient hfresh hnew
    split at h
    · cases h
      exact ⟨hclient, hfresh, hnew⟩
    · cases h
  · cases h

/-- **An operation begins alone**: it opens its transaction, or does not begin yet. -/
theorem submit_cases {c t : ℕ} (h : app.BeginsAlone σ (app.conn c) (σ.beginning (app.conn c) c t)) :
    app.submit σ c t = σ ∨
      ∃ call next, σ.clients c = some (.ready (.transact call next)) ∧
        σ.db.transactions t = none ∧ σ.operations t = none ∧
        (σ.connections (app.conn c)).opened = none ∧
        (app.bare call = true → app.autocommit (app.conn c) = true) ∧
        app.submit σ c t =
          ((σ.setApp (app.toApplication.step σ.toAppState (.submit c t))).setOperation t
            ⟨call, app.conn c, 0, none⟩).setConnection (app.conn c)
              (app.serving ⟨some t, app.blocks call, none⟩ t call false) := by
  unfold submit
  cases hbeginning : σ.beginning (app.conn c) c t with
  | none =>
      left
      rfl
  | some begins =>
      obtain ⟨call, next⟩ := begins
      obtain ⟨hclient, hfresh, hnew⟩ := beginning_eq_some hbeginning
      rw [hbeginning] at h
      obtain ⟨hopened, hcommits⟩ := h
      refine Or.inr ⟨call, next, hclient, hfresh, hnew, hopened, hcommits, ?_⟩
      dsimp only
      rw [hopened]

/-- What a client that is about to begin makes of the clients and the database. -/
theorem step_submit {c t : ℕ} {call : κ} {next : Option α → Workflow α κ ρ γ β}
    (hclient : σ.clients c = some (.ready (.transact call next)))
    (hfresh : σ.db.transactions t = none) :
    app.toApplication.step σ.toAppState (.submit c t) =
      { σ.toAppState.setClient c (.waiting t next) with
        db := σ.db.setTransaction t ⟨call, .ready (app.server.main call), 0⟩ } := by
  simp only [Application.step, hclient, hfresh]

theorem Apart.submit (h : app.Apart σ) {c t : ℕ}
    (halone : app.BeginsAlone σ (app.conn c) (σ.beginning (app.conn c) c t)) :
    app.Apart (app.submit σ c t) := by
  rcases submit_cases halone with hsame | ⟨call, next, hclient, hfresh, hnew, hidle, hcommits, hsubmit⟩
  · rw [hsame]
    exact h
  · rw [hsubmit, step_submit hclient hfresh]
    have hgoing : (σ.db.setTransaction t ⟨call, .ready (app.server.main call), 0⟩).Going t :=
      ⟨call, _, 0, Function.update_self .., .ready _⟩
    refine h.move (k := app.conn c) (t := t) rfl ?_ ?_ ?_ (Function.update_self ..) rfl rfl ?_ ?_ ?_ ?_
    · intro k' hk'
      exact Function.update_of_ne hk' ..
    · intro t' ht'
      exact Function.update_of_ne ht' ..
    · intro t' ht'
      exact Database.transactions_setTransaction_of_ne _ _ _ ht'
    · intro t' hopened
      rw [hidle] at hopened
      cases hopened
    · intro operation hoperation
      rw [hnew] at hoperation
      cases hoperation
    · intro _
      rw [SharedState.connections_setConnection_self]
      refine ⟨rfl, ?_⟩
      cases hbare : app.bare call with
      | true => exact Or.inl ⟨hbare, hcommits hbare⟩
      | false => exact Or.inr ⟨hbare, by simp [serving, blocks, hbare]⟩
    · intro hended
      exact absurd hgoing hended

/-- A step of an operation in its own transaction is a step of the server, and when the operation
ends its connection is idle. -/
theorem serveOwn_cases {t : ℕ} {operation : Operation L R α κ} {e : Step κ} (ht : e.transaction = t)
    (hlocks : app.RaisesLocked σ.db)
    (hcloses : app.Closes (σ.connections operation.connection) operation) :
    ∃ connection, app.serveOwn σ t operation e =
        (σ.setDatabase (app.server.step σ.db e)).setConnection operation.connection connection ∧
      ((app.server.step σ.db e).Going t →
        connection.opened = (σ.connections operation.connection).opened ∧
        connection.depth = (σ.connections operation.connection).depth) ∧
      (¬ (app.server.step σ.db e).Going t → connection.opened = none) := by
  unfold serveOwn
  split
  · rename_i t' call a snapshot here
    have hsame : t' = t := ht
    subst hsame
    have hdb : app.server.step
        (if app.raises a = true then σ.db.restore .empty t' else σ.db) (.commit t') =
          app.server.step σ.db (.commit t') := by
      split
      · next hraises =>
          exact Database.step_commit_restore app.server here (hlocks t' call a snapshot here hraises)
      · rfl
    refine ⟨.idle, ?_, ?_, fun _ => rfl⟩
    · rw [if_pos hcloses]
      dsimp only
      rw [hdb]
    · intro hgoing
      rw [Server.step_commit here] at hgoing
      obtain ⟨call', phase, snapshot', hphase, hgoing⟩ := hgoing
      rw [Database.transactions_commit_self] at hphase
      cases hphase
      cases hgoing
  · refine ⟨_, rfl, ?_, ?_⟩
    · intro hgoing
      rw [if_pos hgoing]
      exact ⟨rfl, rfl⟩
    · intro hended
      rw [if_neg hended, closed, if_pos hcloses]
      rfl

/-- A step of an operation is nothing, or a step of the server. -/
theorem Apart.serve_cases (h : app.Apart σ) (hlocks : app.RaisesLocked σ.db) {t : ℕ} {e : Step κ}
    (ht : e.transaction = t) :
    app.serve σ t e = σ ∨ ∃ operation connection, σ.operations t = some operation ∧
      (σ.connections operation.connection).opened = some t ∧
      app.Closes (σ.connections operation.connection) operation ∧
      app.serve σ t e =
        (σ.setDatabase (app.server.step σ.db e)).setConnection operation.connection connection ∧
      ((app.server.step σ.db e).Going t →
        connection.opened = (σ.connections operation.connection).opened ∧
        connection.depth = (σ.connections operation.connection).depth) ∧
      (¬ (app.server.step σ.db e).Going t → connection.opened = none) := by
  unfold serve
  cases hoperation : σ.operations t with
  | none => exact Or.inl rfl
  | some operation =>
      obtain ⟨hhosted, hown⟩ := h.own t operation hoperation
      dsimp only
      rw [hhosted, h.ended t]
      dsimp only
      split
      · split
        · rename_i hgoing
          obtain ⟨hopened, hcloses⟩ := hown hgoing.2
          obtain ⟨connection, hserve, hgoes, hends⟩ := serveOwn_cases ht hlocks hcloses
          exact Or.inr ⟨operation, connection, rfl, hopened, hcloses, hserve, hgoes, hends⟩
        · exact Or.inl rfl
      · exact Or.inl rfl

theorem Apart.serve (h : app.Apart σ) (hlocks : app.RaisesLocked σ.db) {t : ℕ} {e : Step κ}
    (ht : e.transaction = t) : app.Apart (app.serve σ t e) := by
  rcases h.serve_cases hlocks ht with
    hsame | ⟨operation, connection, hoperation, hopened, hcloses, hserve, hgoes, hends⟩
  · rw [hsame]
    exact h
  · rw [hserve]
    refine h.move (k := operation.connection) (t := t) rfl ?_ (fun _ _ => rfl) ?_ hoperation rfl
      (h.own t operation hoperation).1 ?_ ?_ ?_ ?_
    · intro k' hk'
      exact Function.update_of_ne hk' ..
    · intro t' ht'
      exact Server.transactions_step_of_ne _ _ (ht ▸ ht')
    · intro t' hopened'
      exact Option.some.inj (hopened'.symm.trans hopened)
    · intro operation' hoperation'
      cases hoperation.symm.trans hoperation'
      rfl
    · intro hgoing
      obtain ⟨hstays, hdepth⟩ := hgoes hgoing
      rw [SharedState.connections_setConnection_self]
      refine ⟨hstays.trans hopened, ?_⟩
      unfold Closes
      rw [hdepth]
      exact hcloses
    · intro hended
      rw [SharedState.connections_setConnection_self]
      exact hends hended

/-- **A step keeps the operations apart**, if what begins does so alone. -/
theorem Apart.step (h : app.Apart σ) (hlocks : app.RaisesLocked σ.db) {e : AppStep κ γ β ι}
    (halone : app.MayBegin σ e) : app.Apart (app.step σ e) := by
  cases e with
  | enter c entry => exact h.setApp (Application.db_step (by simp) (by simp))
  | answer c oracle => exact h.setApp (Application.db_step (by simp) (by simp))
  | submit c t => exact h.submit halone
  | resume c =>
      simp only [SharedApplication.step]
      split
      · rw [h.ended]
        exact h.setApp (Application.db_step (by simp) (by simp))
      · exact h
  | serve e =>
      cases e with
      | begin t call => exact h
      | statement t => exact h.serve hlocks rfl
      | row t i => exact h.serve hlocks rfl
      | commit t => exact h.serve hlocks rfl
      | abort t => exact h.serve hlocks rfl

/-- **A step in which what begins does so alone is a step of clients with transactions of their
own**, or nothing. -/
theorem Apart.toAppState_step (h : app.Apart σ) (hlocks : app.RaisesLocked σ.db)
    {e : AppStep κ γ β ι} (halone : app.MayBegin σ e) :
    (app.step σ e).toAppState = σ.toAppState ∨
      (app.step σ e).toAppState = app.toApplication.step σ.toAppState e := by
  have hserve : ∀ {e' : Step κ}, (∀ t call, e' ≠ .begin t call) →
      (app.serve σ e'.transaction e').toAppState = σ.toAppState ∨
        (app.serve σ e'.transaction e').toAppState =
          app.toApplication.step σ.toAppState (.serve e') := by
    intro e' hlater
    rcases h.serve_cases hlocks rfl with hsame | ⟨operation, connection, -, -, -, hserve, -⟩
    · exact Or.inl (by rw [hsame])
    · refine Or.inr ?_
      rw [hserve]
      cases e' with
      | begin t call => exact absurd rfl (hlater t call)
      | _ => rfl
  cases e with
  | enter c entry => exact Or.inr rfl
  | answer c oracle => exact Or.inr rfl
  | submit c t =>
      rcases submit_cases halone with hsame | ⟨call, next, -, -, -, -, -, hsubmit⟩
      · exact Or.inl (congrArg SharedState.toAppState hsame)
      · exact Or.inr (congrArg SharedState.toAppState hsubmit)
  | resume c =>
      simp only [SharedApplication.step]
      split
      · rw [h.ended]
        exact Or.inr rfl
      · exact Or.inl rfl
  | serve e =>
      cases e with
      | begin t call => exact Or.inl rfl
      | statement t => exact hserve (by simp)
      | row t i => exact hserve (by simp)
      | commit t => exact hserve (by simp)
      | abort t => exact hserve (by simp)

/-- What raises has only locked rows, in every run of clients with transactions of their own. -/
def RaisesOnlyLocked (app : SharedApplication L K R α κ ρ γ β ι) : Prop :=
  ∀ steps, app.RaisesLocked (app.toApplication.after steps).db

theorem RaisesOnlyLocked.of_run (h : app.RaisesOnlyLocked) {steps steps' : List (AppStep κ γ β ι)}
    (hrun : (app.after steps).toAppState = app.toApplication.after steps') :
    app.RaisesLocked (app.after steps).db := by
  have hdb : (app.after steps).db = (app.toApplication.after steps').db :=
    congrArg AppState.db hrun
  rw [hdb]
  exact h steps'

/-- **A run in which every operation begins alone is a run of clients with transactions of their
own**, with some steps left out that did nothing, and every operation has its transaction. -/
theorem exists_after_of_alone (hraises : app.RaisesOnlyLocked) {steps : List (AppStep κ γ β ι)}
    (h : app.Alone steps) : app.Apart (app.after steps) ∧
      ∃ steps' : List (AppStep κ γ β ι), steps'.Sublist steps ∧
        (app.after steps).toAppState = app.toApplication.after steps' := by
  induction steps using List.reverseRecOn with
  | nil => exact ⟨apart_init, [], List.Sublist.slnil, rfl⟩
  | append_singleton steps e ih =>
      obtain ⟨halone, hbegins⟩ := (app.alone_concat steps e).1 h
      obtain ⟨hapart, steps', hsublist, hrun⟩ := ih halone
      have hlocks : app.RaisesLocked (app.after steps).db := hraises.of_run hrun
      rw [after_concat]
      refine ⟨hapart.step hlocks hbegins, ?_⟩
      rcases hapart.toAppState_step hlocks hbegins with hsame | hstep
      · exact ⟨steps', hsublist.trans (List.sublist_append_left ..), hsame.trans hrun⟩
      · refine ⟨steps' ++ [e], hsublist.append_right [e], ?_⟩
        rw [hstep, hrun, Application.after_concat]

/-! ### Clients with connections of their own -/

variable (app) in
/-- For every transaction that is open there is a client of the connection that waits for it. -/
def Awaited (σ : SharedState L R α κ ρ γ β) : Prop :=
  ∀ k t, (σ.connections k).opened = some t →
    ∃ c next, app.conn c = k ∧ σ.clients c = some (.waiting t next)

/-- A client that waits for a transaction that is open waits on. -/
theorem waiting_step {σ : AppState L R α κ ρ γ β} (e : AppStep κ γ β ι) {c t : ℕ}
    {next : Option α → Workflow α κ ρ γ β} (hgoing : σ.db.Going t)
    (h : σ.clients c = some (.waiting t next)) :
    (app.toApplication.step σ e).clients c = some (.waiting t next) := by
  have hother : ∀ {c' : ℕ} {client : Option (Client α κ ρ γ β)} (client' : Client α κ ρ γ β),
      σ.clients c' = client → client ≠ some (.waiting t next) →
        (σ.setClient c' client').clients c = some (.waiting t next) := by
    intro c' client client' hc' hclient
    have hne : c ≠ c' := by
      rintro rfl
      exact hclient (hc'.symm.trans h)
    exact (Function.update_of_ne hne ..).trans h
  cases e with
  | enter c' entry =>
      simp only [Application.step]
      split
      · next hc' => exact hother _ hc' (by simp)
      · exact h
  | answer c' oracle =>
      simp only [Application.step]
      split
      · next hc' => exact hother _ hc' (by simp)
      · exact h
  | submit c' t' =>
      simp only [Application.step]
      split
      · next hc' hfresh => exact hother _ hc' (by simp)
      · exact h
  | resume c' =>
      simp only [Application.step]
      split
      · next t' next' hc' =>
          -- its transaction has ended, so that it is another one
          have hne : ∀ {call phase snapshot}, σ.db.transactions t' = some ⟨call, phase, snapshot⟩ →
              ¬ phase.Going → some (Client.waiting t' next') ≠ some (.waiting t next) := by
            intro call phase snapshot hended hphase hsame
            cases hsame
            obtain ⟨call', phase', snapshot', htransaction, hgoing'⟩ := hgoing
            cases hended.symm.trans htransaction
            exact hphase hgoing'
          split
          · next hended => exact hother _ hc' (hne hended (by rintro ⟨⟩))
          · next hended => exact hother _ hc' (hne hended (by rintro ⟨⟩))
          · exact h
      · exact h
  | serve e =>
      cases e with
      | begin t' call => exact h
      | _ => exact h

/-- **A step keeps it so** that somebody waits for every transaction that is open. -/
theorem Awaited.step (h : app.Awaited σ) (hapart : app.Apart σ) (hlocks : app.RaisesLocked σ.db)
    {e : AppStep κ γ β ι} (halone : app.MayBegin σ e) : app.Awaited (app.step σ e) := by
  have hwaits : ∀ k t, (σ.connections k).opened = some t → ∃ c next, app.conn c = k ∧
      (app.toApplication.step σ.toAppState e).clients c = some (.waiting t next) := by
    intro k t hopened
    obtain ⟨c, next, hc, hclient⟩ := h k t hopened
    exact ⟨c, next, hc, waiting_step e (hapart.opened k t hopened).1 hclient⟩
  have hserve : ∀ {e' : Step κ}, app.Awaited (app.serve σ e'.transaction e') := by
    intro e'
    rcases hapart.serve_cases hlocks rfl with
      hsame | ⟨operation, connection, -, hopened, -, hserve, hgoes, hends⟩
    · rw [hsame]
      exact h
    · rw [hserve]
      intro k t hopened'
      by_cases hk : k = operation.connection
      · subst hk
        rw [SharedState.connections_setConnection_self] at hopened'
        by_cases hgoing : (app.server.step σ.db e').Going e'.transaction
        · exact h _ t ((hgoes hgoing).1.symm.trans hopened')
        · cases (hends hgoing).symm.trans hopened'
      · exact h k t ((congrArg Connection.opened (Function.update_of_ne hk ..)).symm.trans hopened')
  cases e with
  | enter c entry => exact hwaits
  | answer c oracle => exact hwaits
  | submit c t =>
      show app.Awaited (app.submit σ c t)
      rcases submit_cases halone with hsame | ⟨call, next, hclient, hfresh, hnew, hidle, -, hsubmit⟩
      · rw [hsame]
        exact h
      · rw [hsubmit]
        intro k t' hopened
        by_cases hk : k = app.conn c
        · subst hk
          rw [SharedState.connections_setConnection_self] at hopened
          cases hopened
          refine ⟨c, next, rfl, ?_⟩
          change (app.toApplication.step σ.toAppState (.submit c t)).clients c = _
          rw [step_submit hclient hfresh]
          exact Function.update_self ..
        · exact hwaits k t'
            ((congrArg Connection.opened (Function.update_of_ne hk ..)).symm.trans hopened)
  | resume c =>
      simp only [SharedApplication.step]
      split
      · rw [hapart.ended]
        exact hwaits
      · exact h
  | serve e =>
      cases e with
      | begin t call => exact h
      | _ => exact hserve

omit [DecidableEq L] [DecidableEq K] in
/-- Whoever is about to begin over a connection of its own begins alone. -/
theorem Awaited.mayBegin (h : app.Awaited σ) (hconn : Function.Injective app.conn)
    (hcommits : ∀ k, app.autocommit k = true) (e : AppStep κ γ β ι) : app.MayBegin σ e := by
  cases e with
  | submit c t =>
      show app.BeginsAlone σ (app.conn c) (σ.beginning (app.conn c) c t)
      cases hbeginning : σ.beginning (app.conn c) c t with
      | none => trivial
      | some begins =>
          obtain ⟨call, next⟩ := begins
          refine ⟨?_, fun _ => hcommits _⟩
          cases hopened : (σ.connections (app.conn c)).opened with
          | none => rfl
          | some t' =>
              -- the client that waits would be the one that is about to begin
              obtain ⟨c', next', hc', hclient⟩ := h _ t' hopened
              rw [hconn hc', (beginning_eq_some hbeginning).1] at hclient
              cases hclient
  | _ => trivial

/-- **Every operation begins alone if each client has a connection of its own**, and the connections
commit by themselves. -/
theorem alone_of_own_connections (hraises : app.RaisesOnlyLocked)
    (hconn : Function.Injective app.conn) (hcommits : ∀ k, app.autocommit k = true)
    (steps : List (AppStep κ γ β ι)) : app.Alone steps := by
  suffices h : app.Alone steps ∧ app.Awaited (app.after steps) from h.1
  induction steps using List.reverseRecOn with
  | nil =>
      refine ⟨trivial, ?_⟩
      intro k t hopened
      cases hopened
  | append_singleton steps e ih =>
      obtain ⟨halone, hawaited⟩ := ih
      have hbegins := hawaited.mayBegin hconn hcommits e
      obtain ⟨hapart, steps', -, hrun⟩ := exists_after_of_alone hraises halone
      have hlocks : app.RaisesLocked (app.after steps).db := hraises.of_run hrun
      rw [after_concat]
      exact ⟨(app.alone_concat steps e).2 ⟨halone, hbegins⟩, hawaited.step hapart hlocks hbegins⟩

end SharedApplication

/-! ### Rows -/

namespace Database

/-- There are no rows from the size on. -/
def Bounded (db : Database L R α κ) : Prop := ∀ i, db.size ≤ i → db.slots i = .empty

variable {db : Database L R α κ}

theorem Bounded.setTransaction (h : db.Bounded) (t : ℕ) (transaction : Transaction L R α κ) :
    (db.setTransaction t transaction).Bounded := h

theorem Bounded.restore (h : db.Bounded) (saved : Database L R α κ) (host : ℕ) :
    (db.restore saved host).Bounded := by
  intro i hi
  simp only [Database.restore, h i hi]
  rfl

/-- **A step of the server keeps the rows below the size.** -/
theorem Bounded.step [DecidableEq L] [DecidableEq K] (h : db.Bounded) (server : Server L K R α κ)
    (e : Step κ) : (server.step db e).Bounded := by
  have heffect : server.Effect db e (server.step db e) := Server.step_effect db e
  revert heffect
  generalize server.step db e = db'
  intro heffect
  cases heffect with
  | wrote here target free seen matched =>
      rename_i t i call snapshot targets filter set returned next row
      intro j hj
      have hne : j ≠ i := by
        rintro rfl
        rw [h j hj] at seen
        cases seen
      exact (slots_write_of_ne _ _ hne _).trans (h j hj)
  | inserted here free accepts =>
      rename_i t call snapshot row next
      intro j hj
      have hlt : db.size < j := hj
      exact (slots_append_of_ne _ _ hlt.ne' _).trans (h j hlt.le)
  | committed here =>
      intro j hj
      rw [slots_commit, h j hj]
      rfl
  | aborted here going =>
      intro j hj
      rw [slots_abort, h j hj]
      rfl
  | _ => exact h

end Database

namespace SharedApplication

variable [DecidableEq L] [DecidableEq K] {app : SharedApplication L K R α κ ρ γ β ι}
  {σ : SharedState L R α κ ρ γ β} {t : ℕ} {operation : Operation L R α κ}

theorem bounded_app (h : σ.db.Bounded) (e : AppStep κ γ β ι) :
    (app.toApplication.step σ.toAppState e).db.Bounded := by
  have heffect : app.toApplication.Effect σ.toAppState e
      (app.toApplication.step σ.toAppState e) := Application.step_effect _ e
  revert heffect
  generalize app.toApplication.step σ.toAppState e = σ'
  intro heffect
  cases heffect with
  | served later stepped =>
      subst stepped
      exact h.step app.server _
  | _ => exact h

theorem bounded_fail (h : σ.db.Bounded) (hosted : Hosted L R α κ) :
    (app.fail σ t operation hosted).db.Bounded := by
  unfold fail
  split
  · exact h.restore _ _
  · exact h.step app.server _

theorem bounded_runHosted (h : σ.db.Bounded) (hosted : Hosted L R α κ) (e : Step κ) :
    (app.runHosted σ t operation hosted e).db.Bounded := by
  unfold runHosted
  split
  · exact h
  · next own _ =>
      have hrun := (h.setTransaction hosted.host
        ⟨own.call, hosted.phase, own.snapshot⟩).step app.server (e.on hosted.host)
      dsimp only
      split
      · exact h
      · split
        · exact hrun
        · exact bounded_fail h hosted

theorem bounded_serveOwn (h : σ.db.Bounded) (e : Step κ) :
    (app.serveOwn σ t operation e).db.Bounded := by
  unfold serveOwn
  split
  · dsimp only
    split
    · split
      · exact (h.restore _ _).step app.server _
      · exact h.step app.server _
    · exact h
  · exact h.step app.server _

theorem bounded_serveLeft (h : σ.db.Bounded) (e : Step κ) :
    (app.serveLeft σ operation e).db.Bounded := by
  unfold serveLeft
  dsimp only
  split
  · split
    · exact h.step app.server _
    · exact h
  · split
    · exact h.step app.server _
    · exact h
  · exact h

theorem bounded_serveHosted (h : σ.db.Bounded) (hosted : Hosted L R α κ) (e : Step κ) :
    (app.serveHosted σ t operation hosted e).db.Bounded := by
  unfold serveHosted
  split
  · split
    · split
      · exact h
      · split
        · split
          · exact h.restore _ _
          · exact h
        · exact h
    · exact h
    · exact bounded_fail h hosted
    · exact bounded_runHosted h hosted _
  · exact h

theorem bounded_serve (h : σ.db.Bounded) (e : Step κ) : (app.serve σ t e).db.Bounded := by
  unfold serve
  split
  · exact h
  · dsimp only
    split
    · split
      · split
        · split
          · exact bounded_serveLeft h e
          · exact bounded_serveOwn h e
        · exact h
      · split
        · exact h
        · exact bounded_serveHosted h _ e
    · exact h

/-- **There are no rows from the size on, after every run.** -/
theorem bounded_after (steps : List (AppStep κ γ β ι)) : (app.after steps).db.Bounded := by
  induction steps using List.reverseRecOn with
  | nil => exact fun _ _ => rfl
  | append_singleton steps e ih =>
      rw [after_concat]
      cases e with
      | enter c entry => exact bounded_app ih _
      | answer c oracle => exact bounded_app ih _
      | submit c t =>
          show (app.submit (app.after steps) c t).db.Bounded
          unfold submit
          split
          · exact ih
          · dsimp only
            split
            · exact bounded_app ih _
            · exact ih
      | resume c =>
          simp only [step]
          split
          · split
            · exact ih
            · exact bounded_app ih _
          · exact ih
      | serve e =>
          cases e with
          | begin t call => exact ih
          | _ => exact bounded_serve ih _

end SharedApplication

end ReadCommitted

end PlatformOps
