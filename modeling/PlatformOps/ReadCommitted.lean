/-
**Transactions that read what was committed.**

A database runs transactions at the isolation level *read committed*.  Every statement of a
transaction sees the rows that were committed when the statement began, and the rows that its own
transaction wrote.  An update finds its rows in that snapshot, and then goes through them: it waits
for the end of a transaction that has written the row, and looks at the row again before it writes.
The insert of a row waits for a transaction that has written a row with the same unique key.
Advisory locks are held until the end of the transaction.

A step advances one transaction by one statement, or by one row of an update, or ends it; steps of
different transactions come in any order, and a transaction can be aborted at any of its steps.
Rows are never deleted, and updates are not checked against the unique keys.

Main definitions:

* `Program`, `Schema`, `Server` — what transactions do, and the constraints of the tables;
* `Slot`, `Transaction`, `Database` — the versions of a row, and the state of the database;
* `Server.step`, `Server.after` — one step, and a run from a database without rows;
* `Server.Effect` — what a step can do;
* `Server.KeepsKeys` — the updates of a program leave the keys of the rows alone.

Main results:

* `Server.step_effect` — **a step has one of the effects**;
* `Server.after_invariant` — what every effect keeps holds after every run;
* `Server.wellFormed_after` — what is pending belongs to a transaction that has not ended;
* `Server.snapshots_after` — an update goes through the rows of its snapshot, and writes no others;
* `Server.committed_effect` — only a commit changes what is committed;
* `Server.constrained_after` — **unique keys stay unique, and references have their rows, over every
  interleaving**.
-/

import Mathlib.Data.List.Induction
import Mathlib.Data.Nat.Find
import Mathlib.Data.Set.Basic
import Mathlib.Logic.Function.Basic

set_option relaxedAutoImplicit false
set_option autoImplicit false

namespace PlatformOps

namespace ReadCommitted

universe u

/-! ### Programs -/

/-- What a transaction does, statement by statement. -/
inductive Program (L R α : Type u)
  /-- Go on to the commit. -/
  | ret (a : α)
  /-- Take an advisory lock until the end of the transaction. -/
  | lock (key : L) (next : Program L R α)
  /-- Read the rows. -/
  | select (next : List R → Program L R α)
  /-- Update the rows that match, and return them. -/
  | update (filter : R → Bool) (set : R → R) (next : List R → Program L R α)
  /-- Insert a row. -/
  | insert (row : R) (next : Program L R α)

/-- The constraints of the tables: the unique keys of a row, what it refers to, and its checks. -/
structure Schema (K R : Type u) where
  keys : R → List K
  references : R → List K
  check : R → Bool

/-- A database server: its tables, and the transaction of every call. -/
structure Server (L K R α κ : Type u) extends Schema K R where
  main : κ → Program L R α

/-! ### States -/

/-- The versions of a row: the one that is committed, when a version was committed first, and the
one that a transaction has written and not committed. -/
structure Slot (R : Type u) where
  committed : Option R
  bornAt : ℕ
  pending : Option (ℕ × R)

/-- No row. -/
def Slot.empty {R : Type u} : Slot R := ⟨none, 0, none⟩

/-- How far a transaction is. -/
inductive Phase (L R α : Type u)
  | ready (program : Program L R α)
  | updating (targets : List ℕ) (filter : R → Bool) (set : R → R) (returned : List R)
      (next : List R → Program L R α)
  | committed (a : α)
  | aborted

/-- A transaction: the call it is for, how far it is, and when its last update began. -/
structure Transaction (L R α κ : Type u) where
  call : κ
  phase : Phase L R α
  snapshot : ℕ

/-- The transaction has not ended. -/
inductive Phase.Going {L R α : Type u} : Phase L R α → Prop
  | ready (program : Program L R α) : Going (.ready program)
  | updating (targets : List ℕ) (filter : R → Bool) (set : R → R) (returned : List R)
      (next : List R → Program L R α) : Going (.updating targets filter set returned next)

/-- A database: the rows, how many transactions have committed, who holds which lock, and the
transactions. -/
structure Database (L R α κ : Type u) where
  slots : ℕ → Slot R
  size : ℕ
  clock : ℕ
  holder : L → Option ℕ
  transactions : ℕ → Option (Transaction L R α κ)

/-- A step. -/
inductive Step (κ : Type u)
  /-- A call opens its transaction. -/
  | begin (t : ℕ) (call : κ)
  /-- The next statement, or the end of an update. -/
  | statement (t : ℕ)
  /-- An update comes to a row. -/
  | row (t i : ℕ)
  | commit (t : ℕ)
  | abort (t : ℕ)

variable {L K R α κ : Type u}

namespace Slot

/-- What a transaction sees of a row. -/
def seenBy (t : ℕ) (slot : Slot R) : Option R :=
  match slot.pending with
  | some (owner, row) => if owner = t then some row else slot.committed
  | none => slot.committed

/-- The row is written by another transaction. -/
def LockedFor (t : ℕ) (slot : Slot R) : Prop :=
  ∃ owner row, slot.pending = some (owner, row) ∧ owner ≠ t

instance (t : ℕ) (slot : Slot R) : Decidable (slot.LockedFor t) :=
  match h : slot.pending with
  | none => isFalse (by rintro ⟨owner, row, hpending, -⟩; rw [h] at hpending; cases hpending)
  | some (owner, row) =>
      if howner : owner = t then
        isFalse (by
          rintro ⟨owner', row', hpending, hne⟩
          rw [h] at hpending
          cases hpending
          exact hne howner)
      else isTrue ⟨owner, row, h, howner⟩

/-- The row once a transaction has committed. -/
def commit (t now : ℕ) (slot : Slot R) : Slot R :=
  match slot.pending with
  | some (owner, row) =>
      if owner = t then ⟨some row, if slot.committed.isSome then slot.bornAt else now, none⟩
      else slot
  | none => slot

/-- The row once a transaction was aborted. -/
def rollback (t : ℕ) (slot : Slot R) : Slot R :=
  match slot.pending with
  | some (owner, _) => if owner = t then { slot with pending := none } else slot
  | none => slot

end Slot

namespace Database

/-- The database without rows. -/
def empty : Database L R α κ := ⟨fun _ => .empty, 0, 0, fun _ => none, fun _ => none⟩

/-- The rows a transaction sees. -/
def visible (db : Database L R α κ) (t : ℕ) : List R :=
  (List.range db.size).filterMap fun i => (db.slots i).seenBy t

/-- The rows an update of a transaction goes through. -/
def targets (db : Database L R α κ) (t : ℕ) (filter : R → Bool) : List ℕ :=
  (List.range db.size).filter fun i => ((db.slots i).seenBy t).any filter

/-- The database with a transaction in another phase. -/
def setTransaction (db : Database L R α κ) (t : ℕ) (transaction : Transaction L R α κ) :
    Database L R α κ :=
  { db with transactions := Function.update db.transactions t (some transaction) }

/-- Commit a transaction. -/
def commit (db : Database L R α κ) (t : ℕ) (call : κ) (a : α) (snapshot : ℕ) :
    Database L R α κ where
  slots i := (db.slots i).commit t (db.clock + 1)
  size := db.size
  clock := db.clock + 1
  holder key := if db.holder key = some t then none else db.holder key
  transactions := Function.update db.transactions t (some ⟨call, .committed a, snapshot⟩)

/-- Abort a transaction. -/
def abort (db : Database L R α κ) (t : ℕ) (call : κ) (snapshot : ℕ) : Database L R α κ where
  slots i := (db.slots i).rollback t
  size := db.size
  clock := db.clock
  holder key := if db.holder key = some t then none else db.holder key
  transactions := Function.update db.transactions t (some ⟨call, .aborted, snapshot⟩)

/-- Take a lock. -/
def take [DecidableEq L] (db : Database L R α κ) (t : ℕ) (key : L) : Database L R α κ :=
  { db with holder := Function.update db.holder key (some t) }

/-- Write a new version of a row. -/
def write (db : Database L R α κ) (t i : ℕ) (row : R) : Database L R α κ :=
  { db with slots := Function.update db.slots i { db.slots i with pending := some (t, row) } }

/-- Append a row. -/
def append (db : Database L R α κ) (t : ℕ) (row : R) : Database L R α κ :=
  { db with
    slots := Function.update db.slots db.size ⟨none, 0, some (t, row)⟩
    size := db.size + 1 }

end Database

/-! ### Steps -/

namespace Server

variable [DecidableEq L] [DecidableEq K] (server : Server L K R α κ)

/-- Two rows have a unique key in common. -/
def Clash (a b : R) : Prop := ∃ k ∈ server.keys a, k ∈ server.keys b

instance (a b : R) : Decidable (server.Clash a b) :=
  inferInstanceAs (Decidable (∃ k ∈ server.keys a, k ∈ server.keys b))

/-- A row clashes with a version, if there is one. -/
def ClashAny (row : R) : Option R → Prop
  | some other => server.Clash row other
  | none => False

instance (row : R) : (other : Option R) → Decidable (server.ClashAny row other)
  | some other => inferInstanceAs (Decidable (server.Clash row other))
  | none => inferInstanceAs (Decidable False)

/-- The insert of a row waits for a transaction that has written a row with the same key. -/
def Waits (db : Database L R α κ) (t : ℕ) (row : R) : Prop :=
  ∃ i < db.size, (db.slots i).LockedFor t ∧
    (server.ClashAny row (db.slots i).committed ∨
      server.ClashAny row ((db.slots i).pending.map Prod.snd))

instance (db : Database L R α κ) (t : ℕ) (row : R) : Decidable (server.Waits db t row) :=
  inferInstanceAs (Decidable (∃ i < db.size, _))

/-- A key is there for a transaction. -/
def HasKey (db : Database L R α κ) (t : ℕ) (k : K) : Prop :=
  ∃ row ∈ db.visible t, k ∈ server.keys row

instance (db : Database L R α κ) (t : ℕ) (k : K) : Decidable (server.HasKey db t k) :=
  inferInstanceAs (Decidable (∃ row ∈ db.visible t, _))

/-- The constraints allow a new row. -/
def Accepts (db : Database L R α κ) (t : ℕ) (row : R) : Prop :=
  server.check row = true ∧ (∀ k ∈ server.keys row, ¬ server.HasKey db t k) ∧
    ∀ k ∈ server.references row, k ∈ server.keys row ∨ server.HasKey db t k

instance (db : Database L R α κ) (t : ℕ) (row : R) : Decidable (server.Accepts db t row) :=
  inferInstanceAs (Decidable (_ ∧ _ ∧ _))

/-- The next statement of a transaction that is between its statements. -/
def runStatement (db : Database L R α κ) (t : ℕ) (call : κ) (snapshot : ℕ) :
    Program L R α → Database L R α κ
  | .ret _ => db
  | .lock key next =>
      if db.holder key = none ∨ db.holder key = some t then
        (db.take t key).setTransaction t ⟨call, .ready next, snapshot⟩
      else db
  | .select next => db.setTransaction t ⟨call, .ready (next (db.visible t)), snapshot⟩
  | .update filter set next =>
      db.setTransaction t ⟨call, .updating (db.targets t filter) filter set [] next, db.clock⟩
  | .insert row next =>
      if server.Waits db t row then db
      else if server.Accepts db t row then
        (db.append t row).setTransaction t ⟨call, .ready next, snapshot⟩
      else db.abort t call snapshot

/-- An update comes to a row: it looks at it again, and writes it if it still matches. -/
def runRow (db : Database L R α κ) (t i : ℕ) (call : κ) (snapshot : ℕ) (targets : List ℕ)
    (filter : R → Bool) (set : R → R) (returned : List R) (next : List R → Program L R α) :
    Database L R α κ :=
  if i ∈ targets ∧ ¬ (db.slots i).LockedFor t then
    let left := targets.filter (· ≠ i)
    match (db.slots i).seenBy t with
    | some row =>
        if filter row = true then
          if server.check (set row) = true then
            (db.write t i (set row)).setTransaction t
              ⟨call, .updating left filter set (returned ++ [set row]) next, snapshot⟩
          else db.abort t call snapshot
        else db.setTransaction t ⟨call, .updating left filter set returned next, snapshot⟩
    | none => db.setTransaction t ⟨call, .updating left filter set returned next, snapshot⟩
  else db

/-- A step.  A transaction that has to wait stays where it is. -/
def step (db : Database L R α κ) : Step κ → Database L R α κ
  | .begin t call =>
      match db.transactions t with
      | none => db.setTransaction t ⟨call, .ready (server.main call), 0⟩
      | some _ => db
  | .statement t =>
      match db.transactions t with
      | some ⟨call, .ready program, snapshot⟩ => server.runStatement db t call snapshot program
      | some ⟨call, .updating [] _ _ returned next, snapshot⟩ =>
          db.setTransaction t ⟨call, .ready (next returned), snapshot⟩
      | _ => db
  | .row t i =>
      match db.transactions t with
      | some ⟨call, .updating targets filter set returned next, snapshot⟩ =>
          server.runRow db t i call snapshot targets filter set returned next
      | _ => db
  | .commit t =>
      match db.transactions t with
      | some ⟨call, .ready (.ret a), snapshot⟩ => db.commit t call a snapshot
      | _ => db
  | .abort t =>
      match db.transactions t with
      | some ⟨call, .ready _, snapshot⟩ => db.abort t call snapshot
      | some ⟨call, .updating _ _ _ _ _, snapshot⟩ => db.abort t call snapshot
      | _ => db

/-- The database after some steps. -/
def after (steps : List (Step κ)) : Database L R α κ := steps.foldl server.step .empty

theorem after_concat (steps : List (Step κ)) (e : Step κ) :
    server.after (steps ++ [e]) = server.step (server.after steps) e := by
  unfold after
  rw [List.foldl_append]
  rfl

/-! ### What a step can do -/

/-- What a step can do to a database. -/
inductive Effect (db : Database L R α κ) : Step κ → Database L R α κ → Prop
  | none (e : Step κ) : Effect db e db
  | began {t : ℕ} {call : κ} (fresh : db.transactions t = none) :
      Effect db (.begin t call) (db.setTransaction t ⟨call, .ready (server.main call), 0⟩)
  | locked {t : ℕ} {call : κ} {snapshot : ℕ} {key : L} {next : Program L R α}
      (here : db.transactions t = some ⟨call, .ready (.lock key next), snapshot⟩)
      (free : db.holder key = .none ∨ db.holder key = some t) :
      Effect db (.statement t) ((db.take t key).setTransaction t ⟨call, .ready next, snapshot⟩)
  | selected {t : ℕ} {call : κ} {snapshot : ℕ} {next : List R → Program L R α}
      (here : db.transactions t = some ⟨call, .ready (.select next), snapshot⟩) :
      Effect db (.statement t) (db.setTransaction t ⟨call, .ready (next (db.visible t)), snapshot⟩)
  | started {t : ℕ} {call : κ} {snapshot : ℕ} {filter : R → Bool} {set : R → R}
      {next : List R → Program L R α}
      (here : db.transactions t = some ⟨call, .ready (.update filter set next), snapshot⟩) :
      Effect db (.statement t)
        (db.setTransaction t ⟨call, .updating (db.targets t filter) filter set [] next, db.clock⟩)
  | wrote {t i : ℕ} {call : κ} {snapshot : ℕ} {targets : List ℕ} {filter : R → Bool} {set : R → R}
      {returned : List R} {next : List R → Program L R α} {row : R}
      (here : db.transactions t = some ⟨call, .updating targets filter set returned next, snapshot⟩)
      (target : i ∈ targets) (free : ¬ (db.slots i).LockedFor t)
      (seen : (db.slots i).seenBy t = some row) (matched : filter row = true) :
      Effect db (.row t i) ((db.write t i (set row)).setTransaction t ⟨call,
        .updating (targets.filter (· ≠ i)) filter set (returned ++ [set row]) next, snapshot⟩)
  | skipped {t i : ℕ} {call : κ} {snapshot : ℕ} {targets : List ℕ} {filter : R → Bool} {set : R → R}
      {returned : List R} {next : List R → Program L R α}
      (here : db.transactions t = some ⟨call, .updating targets filter set returned next, snapshot⟩)
      (target : i ∈ targets) (free : ¬ (db.slots i).LockedFor t)
      (unmatched : ∀ row, (db.slots i).seenBy t = some row → filter row = false) :
      Effect db (.row t i) (db.setTransaction t
        ⟨call, .updating (targets.filter (· ≠ i)) filter set returned next, snapshot⟩)
  | ended {t : ℕ} {call : κ} {snapshot : ℕ} {filter : R → Bool} {set : R → R} {returned : List R}
      {next : List R → Program L R α}
      (here : db.transactions t = some ⟨call, .updating [] filter set returned next, snapshot⟩) :
      Effect db (.statement t) (db.setTransaction t ⟨call, .ready (next returned), snapshot⟩)
  | inserted {t : ℕ} {call : κ} {snapshot : ℕ} {row : R} {next : Program L R α}
      (here : db.transactions t = some ⟨call, .ready (.insert row next), snapshot⟩)
      (free : ¬ server.Waits db t row) (accepts : server.Accepts db t row) :
      Effect db (.statement t) ((db.append t row).setTransaction t ⟨call, .ready next, snapshot⟩)
  | committed {t : ℕ} {call : κ} {snapshot : ℕ} {a : α}
      (here : db.transactions t = some ⟨call, .ready (.ret a), snapshot⟩) :
      Effect db (.commit t) (db.commit t call a snapshot)
  | aborted {e : Step κ} {t : ℕ} {call : κ} {snapshot : ℕ} {phase : Phase L R α}
      (here : db.transactions t = some ⟨call, phase, snapshot⟩) (going : phase.Going) :
      Effect db e (db.abort t call snapshot)

variable {server}

theorem runStatement_effect {db : Database L R α κ} {t : ℕ} {call : κ} {snapshot : ℕ}
    {program : Program L R α} (h : db.transactions t = some ⟨call, .ready program, snapshot⟩) :
    server.Effect db (.statement t) (server.runStatement db t call snapshot program) := by
  cases program with
  | ret a => exact .none _
  | lock key next =>
      simp only [runStatement]
      by_cases hfree : db.holder key = none ∨ db.holder key = some t
      · rw [if_pos hfree]
        exact .locked h hfree
      · rw [if_neg hfree]
        exact .none _
  | select next => exact .selected h
  | update filter set next => exact .started h
  | insert row next =>
      simp only [runStatement]
      by_cases hwaits : server.Waits db t row
      · rw [if_pos hwaits]
        exact .none _
      · rw [if_neg hwaits]
        by_cases haccepts : server.Accepts db t row
        · rw [if_pos haccepts]
          exact .inserted h hwaits haccepts
        · rw [if_neg haccepts]
          exact .aborted h (.ready _)

omit [DecidableEq K] in
theorem runRow_effect {db : Database L R α κ} {t : ℕ} (i : ℕ) {call : κ} {snapshot : ℕ}
    {targets : List ℕ} {filter : R → Bool} {set : R → R} {returned : List R}
    {next : List R → Program L R α}
    (h : db.transactions t = some ⟨call, .updating targets filter set returned next, snapshot⟩) :
    server.Effect db (.row t i)
      (server.runRow db t i call snapshot targets filter set returned next) := by
  unfold runRow
  by_cases hrow : i ∈ targets ∧ ¬ (db.slots i).LockedFor t
  · rw [if_pos hrow]
    cases hseen : (db.slots i).seenBy t with
    | none =>
        refine .skipped h hrow.1 hrow.2 ?_
        intro row hrow
        rw [hseen] at hrow
        cases hrow
    | some row =>
        dsimp only
        by_cases hmatched : filter row = true
        · rw [if_pos hmatched]
          by_cases hcheck : server.check (set row) = true
          · rw [if_pos hcheck]
            exact .wrote h hrow.1 hrow.2 hseen hmatched
          · rw [if_neg hcheck]
            exact .aborted h (.updating _ _ _ _ _)
        · rw [if_neg hmatched]
          refine .skipped h hrow.1 hrow.2 ?_
          intro row' hrow'
          rw [hseen] at hrow'
          cases hrow'
          exact Bool.eq_false_iff.2 hmatched
  · rw [if_neg hrow]
    exact .none _

/-- **A step has one of the effects.** -/
theorem step_effect (db : Database L R α κ) (e : Step κ) :
    server.Effect db e (server.step db e) := by
  cases e with
  | begin t call =>
      simp only [step]
      cases h : db.transactions t with
      | none => exact .began h
      | some transaction => exact .none _
  | statement t =>
      simp only [step]
      rcases h : db.transactions t with _ | ⟨call, phase, snapshot⟩
      · exact .none _
      · cases phase with
        | ready program => exact runStatement_effect h
        | updating targets filter set returned next =>
            cases targets with
            | nil => exact .ended h
            | cons i targets => exact .none _
        | committed a => exact .none _
        | aborted => exact .none _
  | row t i =>
      simp only [step]
      rcases h : db.transactions t with _ | ⟨call, phase, snapshot⟩
      · exact .none _
      · cases phase with
        | ready program => exact .none _
        | updating targets filter set returned next => exact runRow_effect i h
        | committed a => exact .none _
        | aborted => exact .none _
  | commit t =>
      simp only [step]
      rcases h : db.transactions t with _ | ⟨call, phase, snapshot⟩
      · exact .none _
      · cases phase with
        | ready program =>
            cases program with
            | ret a => exact .committed h
            | lock key next => exact .none _
            | select next => exact .none _
            | update filter set next => exact .none _
            | insert row next => exact .none _
        | updating targets filter set returned next => exact .none _
        | committed a => exact .none _
        | aborted => exact .none _
  | abort t =>
      simp only [step]
      rcases h : db.transactions t with _ | ⟨call, phase, snapshot⟩
      · exact .none _
      · cases phase with
        | ready program => exact .aborted h (.ready _)
        | updating targets filter set returned next => exact .aborted h (.updating _ _ _ _ _)
        | committed a => exact .none _
        | aborted => exact .none _

/-- **What every effect keeps holds after every run.** -/
theorem after_invariant {I : Database L R α κ → Prop} (hinit : I .empty)
    (heffect : ∀ db e db', I db → server.Effect db e db' → I db') (steps : List (Step κ)) :
    I (server.after steps) := by
  induction steps using List.reverseRecOn with
  | nil => exact hinit
  | append_singleton steps e ih =>
      rw [after_concat]
      exact heffect _ e _ ih (step_effect _ e)

end Server

/-! ### How steps change rows -/

namespace Slot

theorem commit_cases (t now : ℕ) (slot : Slot R) :
    (∃ row, slot.pending = some (t, row) ∧ slot.commit t now =
        ⟨some row, if slot.committed.isSome then slot.bornAt else now, none⟩) ∨
      (∀ row, slot.pending ≠ some (t, row)) ∧ slot.commit t now = slot := by
  unfold commit
  rcases hpending : slot.pending with _ | ⟨owner, row⟩
  · exact Or.inr ⟨by simp, rfl⟩
  · dsimp only
    by_cases howner : owner = t
    · rw [if_pos howner]
      exact Or.inl ⟨row, by rw [howner], rfl⟩
    · rw [if_neg howner]
      refine Or.inr ⟨?_, rfl⟩
      intro row' h
      cases h
      exact howner rfl

theorem rollback_cases (t : ℕ) (slot : Slot R) :
    (∃ row, slot.pending = some (t, row) ∧ slot.rollback t = ⟨slot.committed, slot.bornAt, none⟩) ∨
      (∀ row, slot.pending ≠ some (t, row)) ∧ slot.rollback t = slot := by
  unfold rollback
  rcases hpending : slot.pending with _ | ⟨owner, row⟩
  · exact Or.inr ⟨by simp, rfl⟩
  · dsimp only
    by_cases howner : owner = t
    · rw [if_pos howner]
      exact Or.inl ⟨row, by rw [howner], rfl⟩
    · rw [if_neg howner]
      refine Or.inr ⟨?_, rfl⟩
      intro row' h
      cases h
      exact howner rfl

@[simp] theorem committed_rollback (t : ℕ) (slot : Slot R) :
    (slot.rollback t).committed = slot.committed := by
  rcases slot.rollback_cases t with ⟨row, -, h⟩ | ⟨-, h⟩
  · rw [h]
  · rw [h]

@[simp] theorem bornAt_rollback (t : ℕ) (slot : Slot R) :
    (slot.rollback t).bornAt = slot.bornAt := by
  rcases slot.rollback_cases t with ⟨row, -, h⟩ | ⟨-, h⟩
  · rw [h]
  · rw [h]

theorem pending_of_rollback {t : ℕ} {slot : Slot R} {owner : ℕ} {row : R}
    (h : (slot.rollback t).pending = some (owner, row)) :
    slot.pending = some (owner, row) ∧ owner ≠ t := by
  rcases slot.rollback_cases t with ⟨row', hpending, hslot⟩ | ⟨hnot, hslot⟩
  · rw [hslot] at h
    cases h
  · rw [hslot] at h
    refine ⟨h, ?_⟩
    rintro rfl
    exact hnot row h

theorem pending_of_commit {t now : ℕ} {slot : Slot R} {owner : ℕ} {row : R}
    (h : (slot.commit t now).pending = some (owner, row)) :
    slot.pending = some (owner, row) ∧ owner ≠ t ∧ slot.commit t now = slot := by
  rcases slot.commit_cases t now with ⟨row', hpending, hslot⟩ | ⟨hnot, hslot⟩
  · rw [hslot] at h
    cases h
  · rw [hslot] at h
    refine ⟨h, ?_, hslot⟩
    rintro rfl
    exact hnot row h

/-- What a transaction has written is committed when it commits. -/
theorem committed_commit_of_pending {t now : ℕ} {slot : Slot R} {row : R}
    (h : slot.pending = some (t, row)) : (slot.commit t now).committed = some row := by
  unfold commit
  rw [h]
  exact congrArg Slot.committed (if_pos rfl)

/-- What is committed when a transaction commits was committed before, or is written by it. -/
theorem committed_commit_cases {t now : ℕ} {slot : Slot R} {row : R}
    (h : (slot.commit t now).committed = some row) :
    slot.pending = some (t, row) ∨
      slot.committed = some row ∧ ∀ row', slot.pending ≠ some (t, row') := by
  rcases slot.commit_cases t now with ⟨row', hpending, hslot⟩ | ⟨hnot, hslot⟩
  · rw [hslot] at h
    cases h
    exact Or.inl hpending
  · rw [hslot] at h
    exact Or.inr ⟨h, hnot⟩

/-- What one transaction has written stays when another one ends. -/
theorem commit_of_pending {t t' now : ℕ} {slot : Slot R} {row : R}
    (h : slot.pending = some (t', row)) (ht : t' ≠ t) : slot.commit t now = slot := by
  rcases slot.commit_cases t now with ⟨row', hown, -⟩ | ⟨-, hslot⟩
  · rw [h] at hown
    cases hown
    exact absurd rfl ht
  · exact hslot

theorem rollback_of_pending {t t' : ℕ} {slot : Slot R} {row : R}
    (h : slot.pending = some (t', row)) (ht : t' ≠ t) : slot.rollback t = slot := by
  rcases slot.rollback_cases t with ⟨row', hown, -⟩ | ⟨-, hslot⟩
  · rw [h] at hown
    cases hown
    exact absurd rfl ht
  · exact hslot

/-- A row stays committed when a transaction commits, and keeps its time. -/
theorem bornAt_commit_of_committed (t now : ℕ) {slot : Slot R} {row : R}
    (h : slot.committed = some row) :
    (∃ row', (slot.commit t now).committed = some row') ∧
      (slot.commit t now).bornAt = slot.bornAt := by
  rcases slot.commit_cases t now with ⟨row', -, hslot⟩ | ⟨-, hslot⟩
  · rw [hslot, h]
    exact ⟨⟨row', rfl⟩, rfl⟩
  · rw [hslot]
    exact ⟨⟨row, h⟩, rfl⟩

/-- What a transaction sees of a row is the version it wrote, or the one that is committed. -/
theorem seenBy_eq_some {t : ℕ} {slot : Slot R} {row : R} (h : slot.seenBy t = some row) :
    slot.pending = some (t, row) ∨
      slot.committed = some row ∧ ∀ row', slot.pending ≠ some (t, row') := by
  unfold seenBy at h
  rcases hpending : slot.pending with _ | ⟨owner, row'⟩
  · rw [hpending] at h
    exact Or.inr ⟨h, by simp⟩
  · rw [hpending] at h
    dsimp only at h
    by_cases howner : owner = t
    · rw [if_pos howner] at h
      cases h
      exact Or.inl (by rw [howner])
    · rw [if_neg howner] at h
      refine Or.inr ⟨h, ?_⟩
      intro row'' hsame
      cases hsame
      exact howner rfl

theorem seenBy_of_pending {t : ℕ} {slot : Slot R} {row : R} (h : slot.pending = some (t, row)) :
    slot.seenBy t = some row := by
  unfold seenBy
  rw [h]
  exact if_pos rfl

theorem seenBy_of_committed {t : ℕ} {slot : Slot R} {row : R} (h : slot.committed = some row)
    (hnot : ∀ row', slot.pending ≠ some (t, row')) : slot.seenBy t = some row := by
  unfold seenBy
  rcases hpending : slot.pending with _ | ⟨owner, row'⟩
  · exact h
  · dsimp only
    have howner : owner ≠ t := by
      rintro rfl
      exact hnot row' hpending
    rw [if_neg howner, h]

/-- A row that no other transaction writes is pending for the transaction itself, or not at all. -/
theorem seenBy_of_not_locked {t : ℕ} {slot : Slot R} (h : ¬ slot.LockedFor t) :
    (∃ row, slot.pending = some (t, row)) ∨
      slot.pending = none ∧ slot.seenBy t = slot.committed := by
  rcases hpending : slot.pending with _ | ⟨owner, row⟩
  · refine Or.inr ⟨rfl, ?_⟩
    unfold seenBy
    rw [hpending]
  · by_cases howner : owner = t
    · exact Or.inl ⟨row, by rw [howner]⟩
    · exact absurd ⟨owner, row, hpending, howner⟩ h

end Slot

namespace Database

variable (db : Database L R α κ) (t : ℕ) (transaction : Transaction L R α κ)

@[simp] theorem slots_setTransaction : (db.setTransaction t transaction).slots = db.slots := rfl

@[simp] theorem transactions_setTransaction_self :
    (db.setTransaction t transaction).transactions t = some transaction := Function.update_self ..

theorem transactions_setTransaction_of_ne {t' : ℕ} (h : t' ≠ t) :
    (db.setTransaction t transaction).transactions t' = db.transactions t' :=
  Function.update_of_ne h ..

@[simp] theorem slots_write_self (i : ℕ) (row : R) :
    (db.write t i row).slots i = { db.slots i with pending := some (t, row) } :=
  Function.update_self ..

theorem slots_write_of_ne {i j : ℕ} (h : j ≠ i) (row : R) :
    (db.write t i row).slots j = db.slots j := Function.update_of_ne h ..

@[simp] theorem slots_append_self (row : R) :
    (db.append t row).slots db.size = ⟨none, 0, some (t, row)⟩ := Function.update_self ..

theorem slots_append_of_ne {i : ℕ} (h : i ≠ db.size) (row : R) :
    (db.append t row).slots i = db.slots i := Function.update_of_ne h ..

@[simp] theorem slots_commit (call : κ) (a : α) (snapshot i : ℕ) :
    (db.commit t call a snapshot).slots i = (db.slots i).commit t (db.clock + 1) := rfl

@[simp] theorem slots_abort (call : κ) (snapshot i : ℕ) :
    (db.abort t call snapshot).slots i = (db.slots i).rollback t := rfl

theorem transactions_commit_self (call : κ) (a : α) (snapshot : ℕ) :
    (db.commit t call a snapshot).transactions t = some ⟨call, .committed a, snapshot⟩ :=
  Function.update_self ..

theorem transactions_commit_of_ne {t' : ℕ} (h : t' ≠ t) (call : κ) (a : α) (snapshot : ℕ) :
    (db.commit t call a snapshot).transactions t' = db.transactions t' := Function.update_of_ne h ..

theorem transactions_abort_self (call : κ) (snapshot : ℕ) :
    (db.abort t call snapshot).transactions t = some ⟨call, .aborted, snapshot⟩ :=
  Function.update_self ..

theorem transactions_abort_of_ne {t' : ℕ} (h : t' ≠ t) (call : κ) (snapshot : ℕ) :
    (db.abort t call snapshot).transactions t' = db.transactions t' := Function.update_of_ne h ..

variable {db t transaction}

/-- A transaction of a database in which one was set is that one, or another one from before. -/
theorem transactions_setTransaction_cases {t' : ℕ} {transaction' : Transaction L R α κ}
    (h : (db.setTransaction t transaction).transactions t' = some transaction') :
    t' = t ∧ transaction' = transaction ∨ t' ≠ t ∧ db.transactions t' = some transaction' := by
  by_cases ht : t' = t
  · subst ht
    rw [transactions_setTransaction_self] at h
    exact Or.inl ⟨rfl, (Option.some.inj h).symm⟩
  · rw [transactions_setTransaction_of_ne _ _ _ ht] at h
    exact Or.inr ⟨ht, h⟩

theorem transactions_commit_cases {t' : ℕ} {call : κ} {a : α} {snapshot : ℕ}
    {transaction' : Transaction L R α κ}
    (h : (db.commit t call a snapshot).transactions t' = some transaction') :
    t' = t ∧ transaction' = ⟨call, .committed a, snapshot⟩ ∨
      t' ≠ t ∧ db.transactions t' = some transaction' := by
  have hset : (db.setTransaction t ⟨call, .committed a, snapshot⟩).transactions t' =
    some transaction' := h
  exact transactions_setTransaction_cases hset

theorem transactions_abort_cases {t' : ℕ} {call : κ} {snapshot : ℕ}
    {transaction' : Transaction L R α κ}
    (h : (db.abort t call snapshot).transactions t' = some transaction') :
    t' = t ∧ transaction' = ⟨call, .aborted, snapshot⟩ ∨
      t' ≠ t ∧ db.transactions t' = some transaction' := by
  have hset : (db.setTransaction t ⟨call, .aborted, snapshot⟩).transactions t' =
    some transaction' := h
  exact transactions_setTransaction_cases hset

/-- The transaction has begun and not ended. -/
def Going (db : Database L R α κ) (t : ℕ) : Prop :=
  ∃ call phase snapshot, db.transactions t = some ⟨call, phase, snapshot⟩ ∧ phase.Going

theorem mem_visible {row : R} :
    row ∈ db.visible t ↔ ∃ i < db.size, (db.slots i).seenBy t = some row := by
  simp [visible]

theorem mem_targets {filter : R → Bool} {i : ℕ} :
    i ∈ db.targets t filter ↔
      i < db.size ∧ ∃ row, (db.slots i).seenBy t = some row ∧ filter row = true := by
  simp [targets, Option.any_eq_true]

theorem pending_commit_iff {t' : ℕ} (ht : t' ≠ t) (call : κ) (a : α) (snapshot i : ℕ) (row : R) :
    ((db.commit t call a snapshot).slots i).pending = some (t', row) ↔
      (db.slots i).pending = some (t', row) := by
  constructor
  · intro h
    exact (Slot.pending_of_commit h).1
  · intro h
    show ((db.slots i).commit t (db.clock + 1)).pending = some (t', row)
    rw [Slot.commit_of_pending h ht]
    exact h

theorem pending_abort_iff {t' : ℕ} (ht : t' ≠ t) (call : κ) (snapshot i : ℕ) (row : R) :
    ((db.abort t call snapshot).slots i).pending = some (t', row) ↔
      (db.slots i).pending = some (t', row) := by
  constructor
  · intro h
    exact (Slot.pending_of_rollback h).1
  · intro h
    show ((db.slots i).rollback t).pending = some (t', row)
    rw [Slot.rollback_of_pending h ht]
    exact h

/-! ### Well-formed databases -/

/-- There is nothing beyond the rows, what is pending belongs to a transaction that has not ended,
and no row is from the future. -/
structure WellFormed (db : Database L R α κ) : Prop where
  beyond : ∀ i, db.size ≤ i → db.slots i = .empty
  owner : ∀ i t row, (db.slots i).pending = some (t, row) → db.Going t
  born : ∀ i row, (db.slots i).committed = some row → (db.slots i).bornAt ≤ db.clock

theorem wellFormed_empty : (empty : Database L R α κ).WellFormed := by
  constructor
  · intro i _
    rfl
  · intro i t row h
    cases h
  · intro i row h
    cases h

theorem WellFormed.take [DecidableEq L] (h : db.WellFormed) (t : ℕ) (key : L) :
    (db.take t key).WellFormed := ⟨h.beyond, h.owner, h.born⟩

theorem WellFormed.setTransaction (h : db.WellFormed) {transaction : Transaction L R α κ}
    (hgoing : transaction.phase.Going) : (db.setTransaction t transaction).WellFormed := by
  refine ⟨h.beyond, ?_, h.born⟩
  intro i t' row hpending
  by_cases ht : t' = t
  · subst ht
    exact ⟨_, _, _, transactions_setTransaction_self db t' transaction, hgoing⟩
  · unfold Going
    rw [transactions_setTransaction_of_ne _ _ _ ht]
    exact h.owner i t' row hpending

/-- There is a row where there is a version. -/
theorem WellFormed.lt_size (h : db.WellFormed) {i : ℕ} (hi : db.slots i ≠ .empty) :
    i < db.size := by
  by_contra hge
  exact hi (h.beyond i (by omega))

theorem WellFormed.lt_size_of_committed (h : db.WellFormed) {i : ℕ} {row : R}
    (hrow : (db.slots i).committed = some row) : i < db.size := by
  refine h.lt_size fun hempty => ?_
  rw [hempty] at hrow
  cases hrow

theorem WellFormed.lt_size_of_pending (h : db.WellFormed) {i : ℕ} {own : ℕ × R}
    (hrow : (db.slots i).pending = some own) : i < db.size := by
  refine h.lt_size fun hempty => ?_
  rw [hempty] at hrow
  cases hrow

theorem WellFormed.lt_size_of_seenBy (h : db.WellFormed) {i : ℕ} {row : R}
    (hrow : (db.slots i).seenBy t = some row) : i < db.size := by
  refine h.lt_size fun hempty => ?_
  rw [hempty] at hrow
  cases hrow

theorem WellFormed.write (h : db.WellFormed) (hgoing : db.Going t) {i : ℕ} (hi : i < db.size)
    (row : R) : (db.write t i row).WellFormed := by
  constructor
  · intro j hj
    have hne : j ≠ i := by
      rintro rfl
      exact absurd (show db.size ≤ j from hj) (by omega)
    rw [slots_write_of_ne _ _ hne]
    exact h.beyond j hj
  · intro j t' row' hpending
    by_cases hj : j = i
    · subst hj
      rw [slots_write_self] at hpending
      cases hpending
      exact hgoing
    · rw [slots_write_of_ne _ _ hj] at hpending
      exact h.owner j t' row' hpending
  · intro j row' hcommitted
    by_cases hj : j = i
    · subst hj
      rw [slots_write_self] at hcommitted ⊢
      exact h.born j row' hcommitted
    · rw [slots_write_of_ne _ _ hj] at hcommitted ⊢
      exact h.born j row' hcommitted

theorem WellFormed.append (h : db.WellFormed) (hgoing : db.Going t) (row : R) :
    (db.append t row).WellFormed := by
  constructor
  · intro j hj
    have hsize : db.size + 1 ≤ j := hj
    rw [slots_append_of_ne _ _ (by omega)]
    exact h.beyond j (by omega)
  · intro j t' row' hpending
    by_cases hj : j = db.size
    · subst hj
      rw [slots_append_self] at hpending
      cases hpending
      exact hgoing
    · rw [slots_append_of_ne _ _ hj] at hpending
      exact h.owner j t' row' hpending
  · intro j row' hcommitted
    by_cases hj : j = db.size
    · subst hj
      rw [slots_append_self] at hcommitted
      cases hcommitted
    · rw [slots_append_of_ne _ _ hj] at hcommitted ⊢
      exact h.born j row' hcommitted

theorem WellFormed.committed_append (h : db.WellFormed) (t : ℕ) (row : R) (i : ℕ) :
    ((db.append t row).slots i).committed = (db.slots i).committed := by
  by_cases hi : i = db.size
  · subst hi
    rw [slots_append_self, h.beyond db.size le_rfl]
    rfl
  · rw [slots_append_of_ne _ _ hi]

theorem WellFormed.pending_append_iff (h : db.WellFormed) {t' : ℕ} (ht : t' ≠ t) (row : R) (i : ℕ)
    (row' : R) : ((db.append t row).slots i).pending = some (t', row') ↔
      (db.slots i).pending = some (t', row') := by
  by_cases hi : i = db.size
  · subst hi
    rw [slots_append_self, h.beyond db.size le_rfl]
    constructor
    · intro hpending
      cases hpending
      exact absurd rfl ht
    · intro hpending
      cases hpending
  · rw [slots_append_of_ne _ _ hi]

theorem WellFormed.commit (h : db.WellFormed) (t : ℕ) (call : κ) (a : α) (snapshot : ℕ) :
    (db.commit t call a snapshot).WellFormed := by
  constructor
  · intro i hi
    show (db.slots i).commit t (db.clock + 1) = .empty
    rw [h.beyond i hi]
    rfl
  · intro i t' row hpending
    obtain ⟨hold, hne, -⟩ := Slot.pending_of_commit hpending
    unfold Going
    rw [transactions_commit_of_ne _ _ hne]
    exact h.owner i t' row hold
  · intro i row hcommitted
    show ((db.slots i).commit t (db.clock + 1)).bornAt ≤ db.clock + 1
    rcases (db.slots i).commit_cases t (db.clock + 1) with ⟨row', -, hslot⟩ | ⟨-, hslot⟩
    · rw [hslot]
      dsimp only
      cases hold : (db.slots i).committed with
      | none => exact le_rfl
      | some old =>
          have hborn := h.born i old hold
          show (db.slots i).bornAt ≤ db.clock + 1
          omega
    · have hold : (db.slots i).committed = some row := hslot ▸ hcommitted
      have hborn := h.born i row hold
      rw [hslot]
      omega

theorem WellFormed.abort (h : db.WellFormed) (t : ℕ) (call : κ) (snapshot : ℕ) :
    (db.abort t call snapshot).WellFormed := by
  constructor
  · intro i hi
    show (db.slots i).rollback t = .empty
    rw [h.beyond i hi]
    rfl
  · intro i t' row hpending
    obtain ⟨hold, hne⟩ := Slot.pending_of_rollback hpending
    unfold Going
    rw [transactions_abort_of_ne _ _ hne]
    exact h.owner i t' row hold
  · intro i row hcommitted
    show ((db.slots i).rollback t).bornAt ≤ db.clock
    rw [Slot.bornAt_rollback]
    exact h.born i row ((Slot.committed_rollback t (db.slots i)).symm.trans hcommitted)

/-! ### Updates write the rows of their snapshots -/

/-- The row was in the snapshot: it was committed by then, or the transaction has written it. -/
def Snapped (db : Database L R α κ) (t snapshot i : ℕ) : Prop :=
  (∃ row, (db.slots i).committed = some row ∧ (db.slots i).bornAt ≤ snapshot) ∨
    (db.slots i).committed = none ∧ ∃ row, (db.slots i).pending = some (t, row)

/-- What updates go through was in their snapshot, and what they have written was. -/
structure Snapshots (db : Database L R α κ) : Prop where
  targets : ∀ t call targets filter set returned next snapshot,
    db.transactions t = some ⟨call, .updating targets filter set returned next, snapshot⟩ →
      ∀ i ∈ targets, Snapped db t snapshot i
  written : ∀ t call phase snapshot, db.transactions t = some ⟨call, phase, snapshot⟩ →
    ∀ i row other, (db.slots i).pending = some (t, row) → (db.slots i).committed = some other →
      (db.slots i).bornAt ≤ snapshot

/-- A transaction goes on. -/
theorem Snapshots.setTransaction (h : Snapshots db) {t : ℕ} {transaction : Transaction L R α κ}
    (htargets : ∀ targets filter set returned next,
      transaction.phase = .updating targets filter set returned next →
        ∀ i ∈ targets, Snapped db t transaction.snapshot i)
    (hwritten : ∀ i row other, (db.slots i).pending = some (t, row) →
      (db.slots i).committed = some other → (db.slots i).bornAt ≤ transaction.snapshot) :
    Snapshots (db.setTransaction t transaction) := by
  constructor
  · intro t' call targets filter set returned next snapshot htransaction i hi
    rcases transactions_setTransaction_cases htransaction with ⟨rfl, hset⟩ | ⟨-, hold⟩
    · cases hset
      exact htargets _ _ _ _ _ rfl i hi
    · exact h.targets t' _ _ _ _ _ _ _ hold i hi
  · intro t' call phase snapshot htransaction i row other hpending hcommitted
    rcases transactions_setTransaction_cases htransaction with ⟨rfl, hset⟩ | ⟨-, hold⟩
    · cases hset
      exact hwritten i row other hpending hcommitted
    · exact h.written t' _ _ _ hold i row other hpending hcommitted

/-- A transaction goes on, with the snapshot it had. -/
theorem Snapshots.move (h : Snapshots db) {t : ℕ} {call call' : κ} {phase phase' : Phase L R α}
    {snapshot : ℕ} (here : db.transactions t = some ⟨call, phase, snapshot⟩)
    (htargets : ∀ targets filter set returned next,
      phase' = .updating targets filter set returned next →
        ∀ i ∈ targets, Snapped db t snapshot i) :
    Snapshots (db.setTransaction t ⟨call', phase', snapshot⟩) :=
  h.setTransaction htargets (h.written t _ _ _ here)

/-- A row of the snapshot is written. -/
theorem Snapshots.write (h : Snapshots db) {t i : ℕ} {call : κ} {phase : Phase L R α} {snapshot : ℕ}
    (here : db.transactions t = some ⟨call, phase, snapshot⟩) (hsnapped : Snapped db t snapshot i)
    (hfree : ¬ (db.slots i).LockedFor t) (row : R) : Snapshots (db.write t i row) := by
  constructor
  · intro t' call' targets filter set returned next snapshot' htransaction j hj
    have hold := h.targets t' _ _ _ _ _ _ _ htransaction j hj
    unfold Snapped
    by_cases hji : j = i
    · subst hji
      rw [slots_write_self]
      rcases hold with hold | ⟨hnone, row', hpending⟩
      · exact Or.inl hold
      · have ht : t' = t := by
          by_contra hne
          exact hfree ⟨t', row', hpending, hne⟩
        subst ht
        exact Or.inr ⟨hnone, row, rfl⟩
    · rw [slots_write_of_ne _ _ hji]
      exact hold
  · intro t' call' phase' snapshot' htransaction j row' other hpending hcommitted
    by_cases hji : j = i
    · subst hji
      rw [slots_write_self] at hpending hcommitted ⊢
      cases hpending
      have hsame : db.transactions t = some ⟨call', phase', snapshot'⟩ := htransaction
      rw [here] at hsame
      cases hsame
      rcases hsnapped with ⟨_, _, hborn⟩ | ⟨hnone, -⟩
      · exact hborn
      · rw [hnone] at hcommitted
        cases hcommitted
    · rw [slots_write_of_ne _ _ hji] at hpending hcommitted ⊢
      exact h.written t' _ _ _ htransaction j row' other hpending hcommitted

/-- A row is appended. -/
theorem Snapshots.append (h : Snapshots db) (hwell : db.WellFormed) (t : ℕ) (row : R) :
    Snapshots (db.append t row) := by
  have hfresh := hwell.beyond db.size le_rfl
  constructor
  · intro t' call' targets filter set returned next snapshot' htransaction j hj
    have hold := h.targets t' _ _ _ _ _ _ _ htransaction j hj
    have hne : j ≠ db.size := by
      rintro rfl
      unfold Snapped at hold
      rw [hfresh] at hold
      rcases hold with ⟨row', hcommitted, -⟩ | ⟨-, row', hpending⟩
      · cases hcommitted
      · cases hpending
    unfold Snapped
    rw [slots_append_of_ne _ _ hne]
    exact hold
  · intro t' call' phase' snapshot' htransaction j row' other hpending hcommitted
    by_cases hj : j = db.size
    · subst hj
      rw [slots_append_self] at hcommitted
      cases hcommitted
    · rw [slots_append_of_ne _ _ hj] at hpending hcommitted ⊢
      exact h.written t' _ _ _ htransaction j row' other hpending hcommitted

theorem Snapshots.commit (h : Snapshots db) (t : ℕ) (call : κ) (a : α) (snapshot : ℕ) :
    Snapshots (db.commit t call a snapshot) := by
  constructor
  · intro t' call' targets filter set returned next snapshot' htransaction j hj
    have ht : t' ≠ t := by
      rintro rfl
      rw [transactions_commit_self] at htransaction
      cases htransaction
    rw [transactions_commit_of_ne _ _ ht] at htransaction
    show (∃ row, ((db.slots j).commit t (db.clock + 1)).committed = some row ∧ _) ∨ _
    rcases h.targets t' _ _ _ _ _ _ _ htransaction j hj with ⟨row, hold, hborn⟩ | ⟨hnone, row, hold⟩
    · obtain ⟨⟨row', hnew⟩, hsame⟩ := Slot.bornAt_commit_of_committed t (db.clock + 1) hold
      exact Or.inl ⟨row', hnew, hsame ▸ hborn⟩
    · refine Or.inr ?_
      show ((db.slots j).commit t (db.clock + 1)).committed = none ∧ ∃ row,
        ((db.slots j).commit t (db.clock + 1)).pending = some (t', row)
      rw [Slot.commit_of_pending hold ht]
      exact ⟨hnone, row, hold⟩
  · intro t' call' phase' snapshot' htransaction j row other hpending hcommitted
    obtain ⟨hold, ht, hslot⟩ := Slot.pending_of_commit hpending
    rw [transactions_commit_of_ne _ _ ht] at htransaction
    have hcommitted' : ((db.slots j).commit t (db.clock + 1)).committed = some other := hcommitted
    rw [hslot] at hcommitted'
    show ((db.slots j).commit t (db.clock + 1)).bornAt ≤ snapshot'
    rw [hslot]
    exact h.written t' _ _ _ htransaction j row other hold hcommitted'

theorem Snapshots.abort (h : Snapshots db) (t : ℕ) (call : κ) (snapshot : ℕ) :
    Snapshots (db.abort t call snapshot) := by
  constructor
  · intro t' call' targets filter set returned next snapshot' htransaction j hj
    have ht : t' ≠ t := by
      rintro rfl
      rw [transactions_abort_self] at htransaction
      cases htransaction
    rw [transactions_abort_of_ne _ _ ht] at htransaction
    show (∃ row, ((db.slots j).rollback t).committed = some row ∧
      ((db.slots j).rollback t).bornAt ≤ snapshot') ∨ ((db.slots j).rollback t).committed = none ∧
        ∃ row, ((db.slots j).rollback t).pending = some (t', row)
    rw [Slot.committed_rollback, Slot.bornAt_rollback]
    rcases h.targets t' _ _ _ _ _ _ _ htransaction j hj with hold | ⟨hnone, row, hold⟩
    · exact Or.inl hold
    · rw [Slot.rollback_of_pending hold ht]
      exact Or.inr ⟨hnone, row, hold⟩
  · intro t' call' phase' snapshot' htransaction j row other hpending hcommitted
    obtain ⟨hold, ht⟩ := Slot.pending_of_rollback hpending
    rw [transactions_abort_of_ne _ _ ht] at htransaction
    show ((db.slots j).rollback t).bornAt ≤ snapshot'
    rw [Slot.bornAt_rollback]
    exact h.written t' _ _ _ htransaction j row other hold
      ((Slot.committed_rollback t (db.slots j)).symm.trans hcommitted)

end Database

namespace Server

open Database

variable [DecidableEq L] {server : Server L K R α κ} {db db' : Database L R α κ} {e : Step κ}

/-- **Every effect keeps a database well-formed.** -/
theorem wellFormed_effect (h : db.WellFormed) (heffect : server.Effect db e db') :
    db'.WellFormed := by
  cases heffect with
  | none => exact h
  | began fresh => exact h.setTransaction (.ready _)
  | locked here free => exact (h.take _ _).setTransaction (.ready _)
  | selected here => exact h.setTransaction (.ready _)
  | started here => exact h.setTransaction (.updating _ _ _ _ _)
  | wrote here target free seen matched =>
      rename_i t i call snapshot targets filter set returned next row
      have hi : i < db.size := h.lt_size_of_seenBy seen
      exact (h.write ⟨_, _, _, here, .updating _ _ _ _ _⟩ hi _).setTransaction (.updating _ _ _ _ _)
  | skipped here target free unmatched => exact h.setTransaction (.updating _ _ _ _ _)
  | ended here => exact h.setTransaction (.ready _)
  | inserted here free accepts =>
      exact (h.append ⟨_, _, _, here, .ready _⟩ _).setTransaction (.ready _)
  | committed here => exact h.commit _ _ _ _
  | aborted here going => exact h.abort _ _ _

/-- What is pending belongs to a transaction that has not ended. -/
theorem wellFormed_after [DecidableEq K] (steps : List (Step κ)) :
    (server.after steps).WellFormed :=
  after_invariant wellFormed_empty (fun _ _ _ h heffect => wellFormed_effect h heffect) steps

/-- **Updates go through the rows of their snapshots, and write no others.** -/
theorem snapshots_effect (hwell : db.WellFormed) (h : Snapshots db)
    (heffect : server.Effect db e db') : Snapshots db' := by
  cases heffect with
  | none => exact h
  | began fresh =>
      refine h.setTransaction (fun _ _ _ _ _ hphase => by cases hphase) ?_
      intro i row other hpending
      obtain ⟨_, _, _, hold, -⟩ := hwell.owner _ _ _ hpending
      rw [fresh] at hold
      cases hold
  | locked here free =>
      rename_i t call snapshot key next
      have htake : Snapshots (db.take t key) := ⟨h.targets, h.written⟩
      exact htake.move here fun _ _ _ _ _ hphase => by cases hphase
  | selected here => exact h.move here fun _ _ _ _ _ hphase => by cases hphase
  | started here =>
      refine h.setTransaction ?_ ?_
      · intro targets filter set returned next hphase i hi
        cases hphase
        obtain ⟨-, row, hseen, -⟩ := mem_targets.1 hi
        cases hcommitted : (db.slots i).committed with
        | some row' => exact Or.inl ⟨row', hcommitted, hwell.born i row' hcommitted⟩
        | none =>
            rcases Slot.seenBy_eq_some hseen with hpending | ⟨hold, -⟩
            · exact Or.inr ⟨hcommitted, row, hpending⟩
            · rw [hcommitted] at hold
              cases hold
      · intro i row other hpending hcommitted
        exact hwell.born i other hcommitted
  | wrote here target free seen matched =>
      have hsnapped := h.targets _ _ _ _ _ _ _ _ here
      have hwrite := h.write here (hsnapped _ target) free
      refine (hwrite _).move here ?_
      intro targets filter set returned next hphase j hj
      cases hphase
      exact (hwrite _).targets _ _ _ _ _ _ _ _ here j (List.mem_filter.1 hj).1
  | skipped here target free unmatched =>
      refine h.move here ?_
      intro targets filter set returned next hphase j hj
      cases hphase
      exact h.targets _ _ _ _ _ _ _ _ here j (List.mem_filter.1 hj).1
  | ended here => exact h.move here fun _ _ _ _ _ hphase => by cases hphase
  | inserted here free accepts =>
      exact (h.append hwell _ _).move here fun _ _ _ _ _ hphase => by cases hphase
  | committed here => exact h.commit _ _ _ _
  | aborted here going => exact h.abort _ _ _

/-- What updates go through and have written was in their snapshots, over every run. -/
theorem snapshots_after [DecidableEq K] (steps : List (Step κ)) :
    Snapshots (server.after steps) := by
  refine (after_invariant (I := fun db => db.WellFormed ∧ Snapshots db) ⟨wellFormed_empty, ?_⟩ ?_
    steps).2
  · constructor
    · intro t call targets filter set returned next snapshot h
      cases h
    · intro t call phase snapshot h
      cases h
  · rintro db e db' ⟨hwell, h⟩ heffect
    exact ⟨wellFormed_effect hwell heffect, snapshots_effect hwell h heffect⟩

/-- **Only a commit changes what is committed.** -/
theorem committed_effect (hwell : db.WellFormed) (heffect : server.Effect db e db') :
    (∃ t call a snapshot, e = .commit t ∧
        db.transactions t = some ⟨call, .ready (.ret a), snapshot⟩ ∧
        db' = db.commit t call a snapshot) ∨
      ∀ i, (db'.slots i).committed = (db.slots i).committed := by
  cases heffect with
  | none => exact Or.inr fun i => rfl
  | began fresh => exact Or.inr fun i => rfl
  | locked here free => exact Or.inr fun i => rfl
  | selected here => exact Or.inr fun i => rfl
  | started here => exact Or.inr fun i => rfl
  | wrote here target free seen matched =>
      rename_i t i call snapshot targets filter set returned next row
      refine Or.inr fun j => ?_
      rw [slots_setTransaction]
      by_cases hj : j = i
      · subst hj
        rw [slots_write_self]
      · rw [slots_write_of_ne _ _ hj]
  | skipped here target free unmatched => exact Or.inr fun i => rfl
  | ended here => exact Or.inr fun i => rfl
  | inserted here free accepts =>
      exact Or.inr fun j => hwell.committed_append _ _ j
  | committed here => exact Or.inl ⟨_, _, _, _, rfl, here, rfl⟩
  | aborted here going => exact Or.inr fun i => Slot.committed_rollback _ _

theorem step_commit [DecidableEq K] {t : ℕ} {call : κ} {a : α} {snapshot : ℕ}
    (here : db.transactions t = some ⟨call, .ready (.ret a), snapshot⟩) :
    server.step db (.commit t) = db.commit t call a snapshot := by
  simp only [step, here]

/-! ### Constraints hold over every interleaving -/

/-- The updates of a program leave the keys of the rows alone. -/
def KeepsKeys (server : Server L K R α κ) : Program L R α → Prop
  | .ret _ => True
  | .lock _ next => KeepsKeys server next
  | .select next => ∀ rows, KeepsKeys server (next rows)
  | .update _ set next =>
      (∀ row, server.keys (set row) = server.keys row ∧
        server.references (set row) = server.references row) ∧
        ∀ rows, KeepsKeys server (next rows)
  | .insert _ next => KeepsKeys server next

/-- What is left of a transaction leaves the keys of the rows alone. -/
def PhaseKeepsKeys (server : Server L K R α κ) : Phase L R α → Prop
  | .ready program => server.KeepsKeys program
  | .updating _ _ set _ next =>
      (∀ row, server.keys (set row) = server.keys row ∧
        server.references (set row) = server.references row) ∧
        ∀ rows, server.KeepsKeys (next rows)
  | .committed _ => True
  | .aborted => True

/-- The row is one of the versions. -/
def Version (slot : Slot R) (row : R) : Prop :=
  slot.committed = some row ∨ ∃ t, slot.pending = some (t, row)

/-- A key is there once the transactions in `owners` have committed. -/
def KeyAmong (server : Server L K R α κ) (db : Database L R α κ) (owners : Set ℕ) (k : K) : Prop :=
  ∃ i row, k ∈ server.keys row ∧ ((db.slots i).committed = some row ∨
    ∃ t ∈ owners, (db.slots i).pending = some (t, row))

/-- The constraints of the tables hold, for what is committed and for what is pending. -/
structure Constrained (server : Server L K R α κ) (db : Database L R α κ) : Prop where
  programs : ∀ t call phase snapshot, db.transactions t = some ⟨call, phase, snapshot⟩ →
    server.PhaseKeepsKeys phase
  same : ∀ i t row other, (db.slots i).pending = some (t, row) →
    (db.slots i).committed = some other →
      server.keys row = server.keys other ∧ server.references row = server.references other
  unique : ∀ i j a b, Version (db.slots i) a → Version (db.slots j) b → server.Clash a b → i = j
  committed : ∀ i row, (db.slots i).committed = some row → ∀ k ∈ server.references row,
    server.KeyAmong db ∅ k
  pending : ∀ i t row, (db.slots i).pending = some (t, row) → ∀ k ∈ server.references row,
    server.KeyAmong db {t} k

omit [DecidableEq L] in
theorem KeyAmong.mono {owners owners' : Set ℕ} {k : K} (h : server.KeyAmong db owners k)
    (hsubset : owners ⊆ owners') : server.KeyAmong db owners' k := by
  obtain ⟨i, row, hk, hrow⟩ := h
  refine ⟨i, row, hk, hrow.imp_right ?_⟩
  rintro ⟨t, ht, hpending⟩
  exact ⟨t, hsubset ht, hpending⟩

omit [DecidableEq L] in
theorem Clash.symm {a b : R} (h : server.Clash a b) : server.Clash b a := by
  obtain ⟨k, ha, hb⟩ := h
  exact ⟨k, hb, ha⟩

omit [DecidableEq L] in
theorem Constrained.setTransaction (h : server.Constrained db) {t : ℕ}
    {transaction : Transaction L R α κ} (hphase : server.PhaseKeepsKeys transaction.phase) :
    server.Constrained (db.setTransaction t transaction) := by
  refine ⟨?_, h.same, h.unique, h.committed, h.pending⟩
  intro t' call phase snapshot htransaction
  rcases transactions_setTransaction_cases htransaction with ⟨rfl, hset⟩ | ⟨-, hold⟩
  · cases hset
    exact hphase
  · exact h.programs t' _ _ _ hold

omit [DecidableEq L] in
/-- A version that is written over another one has the same keys, so that the constraints hold. -/
theorem Constrained.write (h : server.Constrained db) {t i : ℕ} {old row : R}
    (hfree : ¬ (db.slots i).LockedFor t) (hseen : (db.slots i).seenBy t = some old)
    (hkeys : server.keys row = server.keys old)
    (hreferences : server.references row = server.references old) :
    server.Constrained (db.write t i row) := by
  -- every version of the new row has the keys of a version of the old one
  have hversion : ∀ j a, Version ((db.write t i row).slots j) a →
      ∃ a', Version (db.slots j) a' ∧ server.keys a = server.keys a' := by
    intro j a ha
    by_cases hj : j = i
    · subst hj
      rw [slots_write_self] at ha
      rcases ha with hcommitted | ⟨t', hpending⟩
      · exact ⟨a, Or.inl hcommitted, rfl⟩
      · cases hpending
        refine ⟨old, ?_, hkeys⟩
        rcases Slot.seenBy_eq_some hseen with hold | ⟨hold, -⟩
        · exact Or.inr ⟨t, hold⟩
        · exact Or.inl hold
    · rw [slots_write_of_ne _ _ hj] at ha
      exact ⟨a, ha, rfl⟩
  -- a key that was there still is
  have hamong : ∀ owners k, server.KeyAmong db owners k →
      server.KeyAmong (db.write t i row) owners k := by
    rintro owners k ⟨j, a, hk, ha⟩
    by_cases hj : j = i
    · subst hj
      rcases ha with hcommitted | ⟨t', ht', hpending⟩
      · exact ⟨j, a, hk, Or.inl (by rw [slots_write_self]; exact hcommitted)⟩
      · have hown : t' = t := by
          by_contra hne
          exact hfree ⟨t', a, hpending, hne⟩
        subst hown
        rw [Slot.seenBy_of_pending hpending] at hseen
        cases hseen
        exact ⟨j, row, hkeys ▸ hk, Or.inr ⟨t', ht', by rw [slots_write_self]⟩⟩
    · refine ⟨j, a, hk, ?_⟩
      rw [slots_write_of_ne _ _ hj]
      exact ha
  constructor
  · exact h.programs
  · intro j t' a other hpending hcommitted
    by_cases hj : j = i
    · subst hj
      rw [slots_write_self] at hpending hcommitted
      cases hpending
      rw [hkeys, hreferences]
      rcases Slot.seenBy_eq_some hseen with hold | ⟨hold, -⟩
      · exact h.same j t old other hold hcommitted
      · rw [hcommitted] at hold
        cases hold
        exact ⟨rfl, rfl⟩
    · rw [slots_write_of_ne _ _ hj] at hpending hcommitted
      exact h.same j t' a other hpending hcommitted
  · rintro j j' a b ha hb ⟨k, hka, hkb⟩
    obtain ⟨a', ha', hka'⟩ := hversion j a ha
    obtain ⟨b', hb', hkb'⟩ := hversion j' b hb
    exact h.unique j j' a' b' ha' hb' ⟨k, hka' ▸ hka, hkb' ▸ hkb⟩
  · intro j a hcommitted k hk
    by_cases hj : j = i
    · subst hj
      rw [slots_write_self] at hcommitted
      exact hamong _ _ (h.committed j a hcommitted k hk)
    · rw [slots_write_of_ne _ _ hj] at hcommitted
      exact hamong _ _ (h.committed j a hcommitted k hk)
  · intro j t' a hpending k hk
    by_cases hj : j = i
    · subst hj
      rw [slots_write_self] at hpending
      cases hpending
      rw [hreferences] at hk
      rcases Slot.seenBy_eq_some hseen with hold | ⟨hold, -⟩
      · exact hamong _ _ (h.pending j t old hold k hk)
      · exact hamong _ _ ((h.committed j old hold k hk).mono (Set.empty_subset _))
    · rw [slots_write_of_ne _ _ hj] at hpending
      exact hamong _ _ (h.pending j t' a hpending k hk)

omit [DecidableEq L] in
/-- **A row that the constraints accept clashes with no version of another row.** -/
theorem Constrained.not_clash (h : server.Constrained db) (hwell : db.WellFormed) {t i : ℕ}
    {row a : R} (hfree : ¬ server.Waits db t row) (haccepts : server.Accepts db t row)
    (ha : Version (db.slots i) a) : ¬ server.Clash row a := by
  intro hclash
  have hi : i < db.size := by
    rcases ha with ha | ⟨t', ha⟩
    · exact hwell.lt_size_of_committed ha
    · exact hwell.lt_size_of_pending ha
  by_cases hlocked : (db.slots i).LockedFor t
  · -- another transaction has written the row: the insert would wait
    refine hfree ⟨i, hi, hlocked, ?_⟩
    rcases ha with ha | ⟨t', ha⟩
    · rw [ha]
      exact Or.inl hclash
    · rw [ha]
      exact Or.inr hclash
  · -- the transaction sees a version with the same key
    obtain ⟨k, hk, hka⟩ := hclash
    refine haccepts.2.1 k hk ?_
    rcases Slot.seenBy_of_not_locked hlocked with ⟨own, hown⟩ | ⟨hnone, hseen⟩
    · refine ⟨own, mem_visible.2 ⟨i, hi, Slot.seenBy_of_pending hown⟩, ?_⟩
      rcases ha with ha | ⟨t', ha⟩
      · rw [(h.same i t own a hown ha).1]
        exact hka
      · rw [hown] at ha
        cases ha
        exact hka
    · rcases ha with ha | ⟨t', ha⟩
      · exact ⟨a, mem_visible.2 ⟨i, hi, hseen.trans ha⟩, hka⟩
      · rw [hnone] at ha
        cases ha

omit [DecidableEq L] in
theorem Constrained.append (h : server.Constrained db) (hwell : db.WellFormed) {t : ℕ} {row : R}
    (hfree : ¬ server.Waits db t row) (haccepts : server.Accepts db t row) :
    server.Constrained (db.append t row) := by
  have hfresh := hwell.beyond db.size le_rfl
  have hamong : ∀ owners k, server.KeyAmong db owners k →
      server.KeyAmong (db.append t row) owners k := by
    rintro owners k ⟨j, a, hk, ha⟩
    have hj : j ≠ db.size := by
      rintro rfl
      rw [hfresh] at ha
      rcases ha with ha | ⟨t', -, ha⟩
      · cases ha
      · cases ha
    refine ⟨j, a, hk, ?_⟩
    rw [slots_append_of_ne _ _ hj]
    exact ha
  have hnew : ∀ a, Version ((db.append t row).slots db.size) a → a = row := by
    intro a ha
    rw [slots_append_self] at ha
    rcases ha with ha | ⟨t', ha⟩
    · cases ha
    · cases ha
      rfl
  constructor
  · exact h.programs
  · intro j t' a other hpending hcommitted
    by_cases hj : j = db.size
    · subst hj
      rw [slots_append_self] at hcommitted
      cases hcommitted
    · rw [slots_append_of_ne _ _ hj] at hpending hcommitted
      exact h.same j t' a other hpending hcommitted
  · intro j j' a b ha hb hclash
    by_cases hj : j = db.size
    · by_cases hj' : j' = db.size
      · exact hj.trans hj'.symm
      · subst hj
        rw [hnew a ha] at hclash
        rw [slots_append_of_ne _ _ hj'] at hb
        exact absurd hclash (h.not_clash hwell hfree haccepts hb)
    · rw [slots_append_of_ne _ _ hj] at ha
      by_cases hj' : j' = db.size
      · subst hj'
        rw [hnew b hb] at hclash
        exact absurd hclash.symm (h.not_clash hwell hfree haccepts ha)
      · rw [slots_append_of_ne _ _ hj'] at hb
        exact h.unique j j' a b ha hb hclash
  · intro j a hcommitted k hk
    by_cases hj : j = db.size
    · subst hj
      rw [slots_append_self] at hcommitted
      cases hcommitted
    · rw [slots_append_of_ne _ _ hj] at hcommitted
      exact hamong _ _ (h.committed j a hcommitted k hk)
  · intro j t' a hpending k hk
    by_cases hj : j = db.size
    · subst hj
      rw [slots_append_self] at hpending
      cases hpending
      rcases haccepts.2.2 k hk with hself | ⟨other, hother, hkother⟩
      · exact ⟨db.size, row, hself, Or.inr ⟨t, rfl, by rw [slots_append_self]⟩⟩
      · obtain ⟨i, -, hseen⟩ := mem_visible.1 hother
        refine hamong _ _ ⟨i, other, hkother, ?_⟩
        rcases Slot.seenBy_eq_some hseen with hown | ⟨hcommitted, -⟩
        · exact Or.inr ⟨t, rfl, hown⟩
        · exact Or.inl hcommitted
    · rw [slots_append_of_ne _ _ hj] at hpending
      exact hamong _ _ (h.pending j t' a hpending k hk)

omit [DecidableEq L] in
theorem Constrained.commit (h : server.Constrained db) (t : ℕ) (call : κ) (a : α) (snapshot : ℕ) :
    server.Constrained (db.commit t call a snapshot) := by
  have hversion : ∀ i row, Version ((db.slots i).commit t (db.clock + 1)) row →
      Version (db.slots i) row := by
    intro i row hrow
    rcases (db.slots i).commit_cases t (db.clock + 1) with ⟨row', hpending, hslot⟩ | ⟨-, hslot⟩
    · rw [hslot] at hrow
      rcases hrow with hrow | ⟨t', hrow⟩
      · cases hrow
        exact Or.inr ⟨t, hpending⟩
      · cases hrow
    · exact hslot ▸ hrow
  -- what was there for the transaction is there for everybody now
  have hamong : ∀ owners k, server.KeyAmong db owners k →
      server.KeyAmong (db.commit t call a snapshot) {t' ∈ owners | t' ≠ t} k := by
    rintro owners k ⟨i, row, hk, hrow⟩
    rcases (db.slots i).commit_cases t (db.clock + 1) with ⟨row', hpending, hslot⟩ | ⟨hnot, hslot⟩
    · have hkeys : server.keys row' = server.keys row := by
        rcases hrow with hcommitted | ⟨t', -, hrow⟩
        · exact (h.same i t row' row hpending hcommitted).1
        · rw [hpending] at hrow
          cases hrow
          rfl
      refine ⟨i, row', hkeys ▸ hk, Or.inl ?_⟩
      show ((db.slots i).commit t (db.clock + 1)).committed = some row'
      rw [hslot]
    · refine ⟨i, row, hk, ?_⟩
      show ((db.slots i).commit t (db.clock + 1)).committed = some row ∨
        ∃ t' ∈ {t' ∈ owners | t' ≠ t},
          ((db.slots i).commit t (db.clock + 1)).pending = some (t', row)
      rw [hslot]
      refine hrow.imp_right ?_
      rintro ⟨t', ht', hpending⟩
      refine ⟨t', ⟨ht', ?_⟩, hpending⟩
      rintro rfl
      exact hnot row hpending
  constructor
  · intro t' call' phase snapshot' htransaction
    rcases transactions_commit_cases htransaction with ⟨rfl, hset⟩ | ⟨-, hold⟩
    · cases hset
      trivial
    · exact h.programs t' _ _ _ hold
  · intro i t' row other hpending hcommitted
    obtain ⟨hold, -, hslot⟩ := Slot.pending_of_commit hpending
    have hcommitted' : ((db.slots i).commit t (db.clock + 1)).committed = some other := hcommitted
    rw [hslot] at hcommitted'
    exact h.same i t' row other hold hcommitted'
  · intro i j b c hb hc hclash
    exact h.unique i j b c (hversion i b hb) (hversion j c hc) hclash
  · intro i row hcommitted k hk
    refine (?_ : server.KeyAmong _ {t' ∈ ({t} : Set ℕ) | t' ≠ t} k).mono
      fun t' ht' => absurd ht'.1 ht'.2
    refine hamong _ _ ?_
    rcases Slot.committed_commit_cases hcommitted with hpending | ⟨hold, -⟩
    · exact h.pending i t row hpending k hk
    · exact (h.committed i row hold k hk).mono (Set.empty_subset _)
  · intro i t' row hpending k hk
    obtain ⟨hold, -, -⟩ := Slot.pending_of_commit hpending
    exact (hamong _ _ (h.pending i t' row hold k hk)).mono fun t'' ht'' => ht''.1

omit [DecidableEq L] in
theorem Constrained.abort (h : server.Constrained db) (t : ℕ) (call : κ) (snapshot : ℕ) :
    server.Constrained (db.abort t call snapshot) := by
  have hversion : ∀ i row, Version ((db.slots i).rollback t) row → Version (db.slots i) row := by
    intro i row hrow
    rcases hrow with hrow | ⟨t', hrow⟩
    · exact Or.inl ((Slot.committed_rollback t (db.slots i)).symm.trans hrow)
    · exact Or.inr ⟨t', (Slot.pending_of_rollback hrow).1⟩
  -- the rows of the other transactions stay
  have hamong : ∀ owners k, t ∉ owners → server.KeyAmong db owners k →
      server.KeyAmong (db.abort t call snapshot) owners k := by
    rintro owners k ht ⟨i, row, hk, hrow⟩
    refine ⟨i, row, hk, ?_⟩
    rcases hrow with hcommitted | ⟨t', ht', hpending⟩
    · exact Or.inl ((Slot.committed_rollback t (db.slots i)).trans hcommitted)
    · refine Or.inr ⟨t', ht', ?_⟩
      show ((db.slots i).rollback t).pending = some (t', row)
      have hne : t' ≠ t := by
        rintro rfl
        exact ht ht'
      rw [Slot.rollback_of_pending hpending hne]
      exact hpending
  constructor
  · intro t' call' phase snapshot' htransaction
    rcases transactions_abort_cases htransaction with ⟨rfl, hset⟩ | ⟨-, hold⟩
    · cases hset
      trivial
    · exact h.programs t' _ _ _ hold
  · intro i t' row other hpending hcommitted
    obtain ⟨hold, -⟩ := Slot.pending_of_rollback hpending
    exact h.same i t' row other hold
      ((Slot.committed_rollback t (db.slots i)).symm.trans hcommitted)
  · intro i j b c hb hc hclash
    exact h.unique i j b c (hversion i b hb) (hversion j c hc) hclash
  · intro i row hcommitted k hk
    exact hamong _ _ (Set.notMem_empty t)
      (h.committed i row ((Slot.committed_rollback t (db.slots i)).symm.trans hcommitted) k hk)
  · intro i t' row hpending k hk
    obtain ⟨hold, ht⟩ := Slot.pending_of_rollback hpending
    exact hamong _ _ (fun hsame => ht hsame.symm) (h.pending i t' row hold k hk)

/-- **Every effect keeps the constraints**, where the updates leave the keys alone. -/
theorem constrained_effect (hkeeps : ∀ call, server.KeepsKeys (server.main call))
    (hwell : db.WellFormed) (h : server.Constrained db) (heffect : server.Effect db e db') :
    server.Constrained db' := by
  cases heffect with
  | none => exact h
  | began fresh => exact h.setTransaction (hkeeps _)
  | locked here free =>
      rename_i t call snapshot key next
      have htake : server.Constrained (db.take t key) :=
        ⟨h.programs, h.same, h.unique, h.committed, h.pending⟩
      have hprogram := h.programs _ _ _ _ here
      exact htake.setTransaction hprogram
  | selected here => exact h.setTransaction (h.programs _ _ _ _ here _)
  | started here =>
      have hprogram := h.programs _ _ _ _ here
      exact h.setTransaction hprogram
  | wrote here target free seen matched =>
      have hprogram := h.programs _ _ _ _ here
      exact (h.write free seen (hprogram.1 _).1 (hprogram.1 _).2).setTransaction hprogram
  | skipped here target free unmatched =>
      have hprogram := h.programs _ _ _ _ here
      exact h.setTransaction hprogram
  | ended here => exact h.setTransaction ((h.programs _ _ _ _ here).2 _)
  | inserted here free accepts =>
      have hprogram := h.programs _ _ _ _ here
      exact (h.append hwell free accepts).setTransaction hprogram
  | committed here => exact h.commit _ _ _ _
  | aborted here going => exact h.abort _ _ _

/-- **The constraints of the tables hold over every interleaving.** -/
theorem constrained_after [DecidableEq K] (hkeeps : ∀ call, server.KeepsKeys (server.main call))
    (steps : List (Step κ)) : server.Constrained (server.after steps) := by
  refine (after_invariant (I := fun db => db.WellFormed ∧ server.Constrained db)
    ⟨wellFormed_empty, ?_⟩ ?_ steps).2
  · constructor
    · intro t call phase snapshot h
      cases h
    · intro i t row other h
      cases h
    · rintro i j a b (h | ⟨t, h⟩)
      · cases h
      · cases h
    · intro i row h
      cases h
    · intro i t row h
      cases h
  · rintro db e db' ⟨hwell, h⟩ heffect
    exact ⟨wellFormed_effect hwell heffect, constrained_effect hkeeps hwell h heffect⟩

end Server

end ReadCommitted

end PlatformOps
