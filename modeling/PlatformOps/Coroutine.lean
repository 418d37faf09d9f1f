/-
**Cooperative coroutines over a shared state.**

A coroutine reads and writes the state it shares with the others, and gives up control only where it
awaits an answer.  Between two awaits it runs alone, so what a program of coroutines does is an
interleaving of *segments*: a call starts and runs to its first await, a waiting coroutine is
answered and runs to its next one, and in between the environment changes the state.

Main definitions:

* `Coroutine`, `Coroutine.run` — the coroutines, and one segment of one;
* `Coroutine.mapError` — a coroutine with its errors renamed;
* `Coroutine.drive`, `Coroutine.awaited` — a coroutine run to its end alone, and what it awaits;
* `Coroutine.play`, `Coroutine.Returns` — a coroutine run alone as far as given answers go, and what
  it returns whatever it reads and is answered;
* `System`, `Pool`, `System.step`, `System.run` — the calls of a program, the calls that were made,
  and their interleavings;
* `System.Runs` — the call and the coroutine a step runs a segment of;
* `System.Throughout` — what holds at every step of a run;
* `System.Suspends` — what is known of every await of a call.

Main results:

* `Coroutine.run_bind`, `Coroutine.run_mapError` — a segment of a sequence, and one with its errors
  renamed;
* `Coroutine.Returns.bind`, `Coroutine.Returns.of_play` — what a sequence returns, and what a
  coroutine has returned in the end;
* `System.step_cases` — **a step runs one segment, lets the environment act, or does nothing**;
* `System.task_step_cases`, `System.spawn_mem_of_task` — where a task comes from;
* `System.Suspends.waiting` — what is known of every await holds of every waiting task of a run;
* `System.run_invariant` — an invariant of the steps is one of the runs;
* `System.exists_run_eq_drive` — a call that is driven to its end is a run.
-/

import Mathlib.Data.List.Basic
import Mathlib.Data.List.Induction

set_option relaxedAutoImplicit false
set_option autoImplicit false

namespace PlatformOps

universe u

/-- A coroutine over the state `σ` that awaits requests `ι`, which are answered by `ρ`, and ends
with an `α` unless it raises an `ε`. -/
inductive Coroutine (σ ι ρ ε α : Type u) : Type u
  | ret (a : α)
  | raise (e : ε)
  | get (k : σ → Coroutine σ ι ρ ε α)
  | put (s : σ) (k : Coroutine σ ι ρ ε α)
  | await (i : ι) (k : ρ → Coroutine σ ι ρ ε α)

/-- How a segment ends. -/
inductive Outcome (σ ι ρ ε α : Type u) : Type u
  | returned (a : α)
  | raised (e : ε)
  | waiting (i : ι) (k : ρ → Coroutine σ ι ρ ε α)

namespace Coroutine

variable {σ ι ρ ε α β : Type u}

/-- One coroutine after another. -/
def bind : Coroutine σ ι ρ ε α → (α → Coroutine σ ι ρ ε β) → Coroutine σ ι ρ ε β
  | .ret a, f => f a
  | .raise e, _ => .raise e
  | .get k, f => .get fun s => (k s).bind f
  | .put s k, f => .put s (k.bind f)
  | .await i k, f => .await i fun r => (k r).bind f

instance : Monad (Coroutine σ ι ρ ε) where
  pure := .ret
  bind := bind

/-- Raise what an `Except` holds, or go on with its value. -/
def ofExcept : Except ε α → Coroutine σ ι ρ ε α
  | .ok a => .ret a
  | .error e => .raise e

/-- The same coroutine with what it raises renamed. -/
def mapError {ε' : Type u} (f : ε → ε') : Coroutine σ ι ρ ε α → Coroutine σ ι ρ ε' α
  | .ret a => .ret a
  | .raise e => .raise (f e)
  | .get k => .get fun s => (k s).mapError f
  | .put s k => .put s (k.mapError f)
  | .await i k => .await i fun r => (k r).mapError f

theorem bind_assoc {γ : Type u} (c : Coroutine σ ι ρ ε α) (f : α → Coroutine σ ι ρ ε β)
    (g : β → Coroutine σ ι ρ ε γ) : c >>= f >>= g = c >>= fun a => f a >>= g := by
  induction c with
  | ret a => rfl
  | raise e => rfl
  | get k ih => exact congrArg Coroutine.get (funext ih)
  | put s k ih => exact congrArg (Coroutine.put s) ih
  | await i k ih => exact congrArg (Coroutine.await i) (funext ih)

theorem ofExcept_bind_pure (x : Except ε α) (f : α → β) :
    (ofExcept x >>= fun a => pure (f a) : Coroutine σ ι ρ ε β) = ofExcept (f <$> x) := by
  cases x with
  | ok a => rfl
  | error e => rfl

/-- Run one segment: up to the end or to the next await. -/
def run : Coroutine σ ι ρ ε α → σ → Outcome σ ι ρ ε α × σ
  | .ret a, s => (.returned a, s)
  | .raise e, s => (.raised e, s)
  | .get k, s => (k s).run s
  | .put s k, _ => k.run s
  | .await i k, s => (.waiting i k, s)

/-! ### Segments -/

@[simp] theorem run_get (k : σ → Coroutine σ ι ρ ε α) (s : σ) : (get k).run s = (k s).run s := rfl

@[simp] theorem run_await (i : ι) (k : ρ → Coroutine σ ι ρ ε α) (s : σ) :
    (await i k).run s = (.waiting i k, s) := rfl

/-- **A segment of a sequence**: it is one of the first part, which is continued by the second where
the first ends. -/
theorem run_bind (c : Coroutine σ ι ρ ε α) (f : α → Coroutine σ ι ρ ε β) (s : σ) :
    (c >>= f).run s =
      match c.run s with
      | (.returned a, s') => (f a).run s'
      | (.raised e, s') => (.raised e, s')
      | (.waiting i k, s') => (.waiting i fun r => k r >>= f, s') := by
  induction c generalizing s with
  | ret a => rfl
  | raise e => rfl
  | get k ih => exact ih s s
  | put t k ih => exact ih t
  | await i k ih => rfl

@[simp] theorem run_ret_bind (a : α) (f : α → Coroutine σ ι ρ ε β) (s : σ) :
    ((ret a : Coroutine σ ι ρ ε α) >>= f).run s = (f a).run s := rfl

@[simp] theorem run_get_bind (k : σ → Coroutine σ ι ρ ε α) (f : α → Coroutine σ ι ρ ε β) (s : σ) :
    (get k >>= f).run s = (k s >>= f).run s := rfl

@[simp] theorem run_put_bind (t : σ) (k : Coroutine σ ι ρ ε α) (f : α → Coroutine σ ι ρ ε β)
    (s : σ) : (put t k >>= f).run s = (k >>= f).run t := rfl

@[simp] theorem run_await_bind (i : ι) (k : ρ → Coroutine σ ι ρ ε α)
    (f : α → Coroutine σ ι ρ ε β) (s : σ) :
    (await i k >>= f).run s = (.waiting i fun r => k r >>= f, s) := rfl

@[simp] theorem run_ofExcept_ok_bind (a : α) (f : α → Coroutine σ ι ρ ε β) (s : σ) :
    ((ofExcept (.ok a) : Coroutine σ ι ρ ε α) >>= f).run s = (f a).run s := rfl

@[simp] theorem run_ofExcept_error_bind (e : ε) (f : α → Coroutine σ ι ρ ε β) (s : σ) :
    ((ofExcept (.error e) : Coroutine σ ι ρ ε α) >>= f).run s = (.raised e, s) := rfl

/-- A segment raises what it raised before, renamed. -/
theorem run_mapError {ε' : Type u} (f : ε → ε') (c : Coroutine σ ι ρ ε α) (s : σ) :
    (c.mapError f).run s =
      match c.run s with
      | (.returned a, s') => (.returned a, s')
      | (.raised e, s') => (.raised (f e), s')
      | (.waiting i k, s') => (.waiting i fun r => (k r).mapError f, s') := by
  induction c generalizing s with
  | ret a => rfl
  | raise e => rfl
  | get k ih => exact ih s s
  | put t k ih => exact ih t
  | await i k ih => rfl

/-! ### Running alone -/

/-- Run a coroutine to its end, answering its awaits. -/
def drive (answer : ι → ρ) : Coroutine σ ι ρ ε α → σ → Except ε α × σ
  | .ret a, s => (.ok a, s)
  | .raise e, s => (.error e, s)
  | .get k, s => (k s).drive answer s
  | .put s k, _ => k.drive answer s
  | .await i k, s => (k (answer i)).drive answer s

@[simp] theorem drive_await (answer : ι → ρ) (i : ι) (k : ρ → Coroutine σ ι ρ ε α) (s : σ) :
    (await i k).drive answer s = (k (answer i)).drive answer s := rfl

/-- Driving a coroutine is running its segments one after another. -/
theorem drive_eq (answer : ι → ρ) (c : Coroutine σ ι ρ ε α) (s : σ) :
    c.drive answer s =
      match c.run s with
      | (.returned a, s') => (.ok a, s')
      | (.raised e, s') => (.error e, s')
      | (.waiting i k, s') => (k (answer i)).drive answer s' := by
  induction c generalizing s with
  | ret a => rfl
  | raise e => rfl
  | get k ih => exact ih s s
  | put t k ih => exact ih t
  | await i k ih => rfl

/-- What is awaited when a coroutine is driven to its end. -/
def awaited (answer : ι → ρ) : Coroutine σ ι ρ ε α → σ → List ι
  | .ret _, _ => []
  | .raise _, _ => []
  | .get k, s => (k s).awaited answer s
  | .put s k, _ => k.awaited answer s
  | .await i k, s => i :: (k (answer i)).awaited answer s

theorem drive_bind (answer : ι → ρ) (c : Coroutine σ ι ρ ε α) (f : α → Coroutine σ ι ρ ε β)
    (s : σ) :
    (c >>= f).drive answer s =
      match c.drive answer s with
      | (.ok a, s') => (f a).drive answer s'
      | (.error e, s') => (.error e, s') := by
  induction c generalizing s with
  | ret a => rfl
  | raise e => rfl
  | get k ih => exact ih s s
  | put t k ih => exact ih t
  | await i k ih => exact ih (answer i) s

theorem drive_ofExcept (answer : ι → ρ) (x : Except ε α) (s : σ) :
    (ofExcept x : Coroutine σ ι ρ ε α).drive answer s = (x, s) := by
  cases x with
  | ok a => rfl
  | error e => rfl

/-! ### Any answers -/

/-- Run a coroutine as far as these answers go: what it awaited, and how its last segment ended. -/
def play : Coroutine σ ι ρ ε α → σ → List ρ → List ι × Outcome σ ι ρ ε α × σ
  | .ret a, s, _ => ([], .returned a, s)
  | .raise e, s, _ => ([], .raised e, s)
  | .get k, s, answers => (k s).play s answers
  | .put s k, _, answers => k.play s answers
  | .await i k, s, [] => ([i], .waiting i k, s)
  | .await i k, s, answer :: answers =>
      let (asked, ended) := (k answer).play s answers
      (i :: asked, ended)

/-- Whatever it reads and is answered, what the coroutine returns is a `P`. -/
def Returns (P : α → Prop) : Coroutine σ ι ρ ε α → Prop
  | .ret a => P a
  | .raise _ => True
  | .get k => ∀ s, (k s).Returns P
  | .put _ k => k.Returns P
  | .await _ k => ∀ answer, (k answer).Returns P

theorem returns_ofExcept {P : α → Prop} {x : Except ε α} :
    (ofExcept x : Coroutine σ ι ρ ε α).Returns P ↔ ∀ a, x = .ok a → P a := by
  cases x with
  | ok a => simp [ofExcept, Returns]
  | error e => simp [ofExcept, Returns]

/-- **What a sequence returns**: the second part may rely on what the first one returns. -/
theorem Returns.bind {P : α → Prop} {Q : β → Prop} {c : Coroutine σ ι ρ ε α}
    {f : α → Coroutine σ ι ρ ε β} (h : c.Returns P) (hf : ∀ a, P a → (f a).Returns Q) :
    (c >>= f).Returns Q := by
  induction c with
  | ret a => exact hf a h
  | raise e => trivial
  | get k ih => exact fun s => ih s (h s)
  | put s k ih => exact ih h
  | await i k ih => exact fun answer => ih answer (h answer)

/-- **What a coroutine has returned in the end.** -/
theorem Returns.of_play {P : α → Prop} {c : Coroutine σ ι ρ ε α} (h : c.Returns P) {s : σ}
    {answers : List ρ} {a : α} (hplay : (c.play s answers).2.1 = .returned a) : P a := by
  induction c generalizing s answers with
  | ret b =>
      cases hplay
      exact h
  | raise e => cases hplay
  | get k ih => exact ih s (h s) hplay
  | put s k ih => exact ih h hplay
  | await i k ih =>
      cases answers with
      | nil => cases hplay
      | cons answer answers => exact ih answer (h answer) hplay

end Coroutine

/-! ### Interleavings -/

/-- The calls of a program and what the environment can do to the state. -/
structure System (σ ι ρ ε α κ τ : Type u) where
  /-- The coroutine of a call. -/
  main : κ → Coroutine σ ι ρ ε α
  /-- What the environment does. -/
  environment : τ → σ → σ

/-- A call that was made, and where its last segment ended. -/
structure CallTask (σ ι ρ ε α κ : Type u) where
  call : κ
  outcome : Outcome σ ι ρ ε α

/-- The state, and the calls that were made so far. -/
structure Pool (σ ι ρ ε α κ : Type u) where
  world : σ
  tasks : List (CallTask σ ι ρ ε α κ)

/-- A step: a new call, an answer to a waiting call, or the environment. -/
inductive Step (ρ κ τ : Type u)
  | spawn (call : κ)
  | deliver (n : ℕ) (answer : ρ)
  | environment (t : τ)

namespace System

variable {σ ι ρ ε α κ τ : Type u} (sys : System σ ι ρ ε α κ τ)

/-- One step of a pool.  Answering a call that does not wait does nothing. -/
def step (p : Pool σ ι ρ ε α κ) : Step ρ κ τ → Pool σ ι ρ ε α κ
  | .spawn call =>
      let (outcome, world) := (sys.main call).run p.world
      ⟨world, p.tasks ++ [⟨call, outcome⟩]⟩
  | .deliver n answer =>
      match p.tasks[n]? with
      | some ⟨call, .waiting _ k⟩ =>
          let (outcome, world) := (k answer).run p.world
          ⟨world, p.tasks.set n ⟨call, outcome⟩⟩
      | _ => p
  | .environment t => { p with world := sys.environment t p.world }

/-- The steps of a list, one after another. -/
def runFrom (p : Pool σ ι ρ ε α κ) (steps : List (Step ρ κ τ)) : Pool σ ι ρ ε α κ :=
  steps.foldl sys.step p

/-- A run from a state in which no call was made. -/
def run (s : σ) (steps : List (Step ρ κ τ)) : Pool σ ι ρ ε α κ := sys.runFrom ⟨s, []⟩ steps

/-- The step runs a segment of this coroutine for this call. -/
inductive Runs (p : Pool σ ι ρ ε α κ) : Step ρ κ τ → κ → Coroutine σ ι ρ ε α → Prop
  | spawn (call : κ) : Runs p (.spawn call) call (sys.main call)
  | deliver {n : ℕ} {call : κ} {i : ι} {k : ρ → Coroutine σ ι ρ ε α} (answer : ρ)
      (h : p.tasks[n]? = some ⟨call, .waiting i k⟩) : Runs p (.deliver n answer) call (k answer)

variable {sys}

@[simp] theorem runFrom_cons (p : Pool σ ι ρ ε α κ) (e : Step ρ κ τ) (steps : List (Step ρ κ τ)) :
    sys.runFrom p (e :: steps) = sys.runFrom (sys.step p e) steps := rfl

theorem runFrom_append (p : Pool σ ι ρ ε α κ) (steps more : List (Step ρ κ τ)) :
    sys.runFrom p (steps ++ more) = sys.runFrom (sys.runFrom p steps) more :=
  List.foldl_append

theorem run_append (s : σ) (steps more : List (Step ρ κ τ)) :
    sys.run s (steps ++ more) = sys.runFrom (sys.run s steps) more :=
  runFrom_append _ _ _

theorem run_concat (s : σ) (steps : List (Step ρ κ τ)) (e : Step ρ κ τ) :
    sys.run s (steps ++ [e]) = sys.step (sys.run s steps) e :=
  run_append s steps [e]

@[simp] theorem step_spawn (p : Pool σ ι ρ ε α κ) (call : κ) :
    sys.step p (.spawn call) =
      ⟨((sys.main call).run p.world).2, p.tasks ++ [⟨call, ((sys.main call).run p.world).1⟩]⟩ :=
  rfl

theorem step_deliver {p : Pool σ ι ρ ε α κ} {n : ℕ} {call : κ} {i : ι}
    {k : ρ → Coroutine σ ι ρ ε α} (answer : ρ) (h : p.tasks[n]? = some ⟨call, .waiting i k⟩) :
    sys.step p (.deliver n answer) =
      ⟨((k answer).run p.world).2, p.tasks.set n ⟨call, ((k answer).run p.world).1⟩⟩ := by
  simp only [step, h]

/-- Answering the call that was made last. -/
theorem step_deliver_last (s : σ) (tasks : List (CallTask σ ι ρ ε α κ)) (call : κ) (i : ι)
    (k : ρ → Coroutine σ ι ρ ε α) (answer : ρ) :
    sys.step ⟨s, tasks ++ [⟨call, .waiting i k⟩]⟩ (.deliver tasks.length answer) =
      ⟨((k answer).run s).2, tasks ++ [⟨call, ((k answer).run s).1⟩]⟩ := by
  have hwait : (tasks ++ [⟨call, .waiting i k⟩])[tasks.length]? =
      some (⟨call, .waiting i k⟩ : CallTask σ ι ρ ε α κ) := by simp
  rw [step_deliver answer hwait]
  simp

/-- The state after a step that runs a segment is the segment's. -/
theorem Runs.world {p : Pool σ ι ρ ε α κ} {e : Step ρ κ τ} {call : κ} {c : Coroutine σ ι ρ ε α}
    (h : sys.Runs p e call c) : (sys.step p e).world = (c.run p.world).2 := by
  cases h with
  | spawn => rfl
  | deliver answer h => rw [step_deliver answer h]

variable (sys) in
/-- **A step runs one segment, lets the environment act, or does nothing.** -/
theorem step_cases (p : Pool σ ι ρ ε α κ) (e : Step ρ κ τ) :
    (∃ call c, sys.Runs p e call c) ∨
      (∃ t, e = .environment t ∧ sys.step p e = { p with world := sys.environment t p.world }) ∨
      sys.step p e = p := by
  cases e with
  | spawn call => exact Or.inl ⟨call, _, .spawn call⟩
  | environment t => exact Or.inr (Or.inl ⟨t, rfl, rfl⟩)
  | deliver n answer =>
      rcases hn : p.tasks[n]? with _ | ⟨call, outcome⟩
      · exact Or.inr (Or.inr (by simp only [step, hn]))
      · cases outcome with
        | returned a => exact Or.inr (Or.inr (by simp only [step, hn]))
        | raised err => exact Or.inr (Or.inr (by simp only [step, hn]))
        | waiting i k => exact Or.inl ⟨call, _, .deliver answer hn⟩

/-- The call a step runs a segment for, and the segment, are determined. -/
theorem Runs.unique {p : Pool σ ι ρ ε α κ} {e : Step ρ κ τ} {call call' : κ}
    {c c' : Coroutine σ ι ρ ε α} (h : sys.Runs p e call c) (h' : sys.Runs p e call' c') :
    call = call' ∧ c = c' := by
  cases h with
  | spawn => cases h' with | spawn => exact ⟨rfl, rfl⟩
  | deliver answer h =>
      cases h' with
      | deliver _ h' =>
          rw [h] at h'
          cases h'
          exact ⟨rfl, rfl⟩

/-- **Where a task comes from**: it was there before the step, it is the call that was made, or the
call that was answered. -/
theorem task_step_cases {p : Pool σ ι ρ ε α κ} {e : Step ρ κ τ} {m : ℕ}
    {task : CallTask σ ι ρ ε α κ} (h : (sys.step p e).tasks[m]? = some task) :
    p.tasks[m]? = some task ∨
      (∃ call, e = .spawn call ∧ m = p.tasks.length ∧
        task = ⟨call, ((sys.main call).run p.world).1⟩) ∨
      ∃ answer call i k, e = .deliver m answer ∧ p.tasks[m]? = some ⟨call, .waiting i k⟩ ∧
        task = ⟨call, ((k answer).run p.world).1⟩ := by
  rcases step_cases sys p e with ⟨call, c, hruns⟩ | ⟨t, rfl, hstep⟩ | hstep
  · cases hruns with
    | spawn =>
        rw [step_spawn] at h
        rcases Nat.lt_or_ge m p.tasks.length with hlt | hge
        · exact .inl ((List.getElem?_append_left hlt).symm.trans h)
        · rw [List.getElem?_append_right hge, List.getElem?_singleton] at h
          split at h
          · exact .inr (.inl ⟨call, rfl, by omega, (Option.some.inj h).symm⟩)
          · cases h
    | deliver answer hwait =>
        rename_i n i k
        rw [step_deliver answer hwait, List.getElem?_set] at h
        split at h
        · obtain rfl : n = m := ‹_›
          split at h
          · exact .inr (.inr ⟨answer, call, i, k, rfl, hwait, (Option.some.inj h).symm⟩)
          · cases h
        · exact .inl h
  · rw [hstep] at h
    exact .inl h
  · rw [hstep] at h
    exact .inl h

/-- Every task of a run is a call that was made. -/
theorem spawn_mem_of_task {s : σ} {steps : List (Step ρ κ τ)} {n : ℕ}
    {task : CallTask σ ι ρ ε α κ} (h : (sys.run s steps).tasks[n]? = some task) :
    .spawn task.call ∈ steps := by
  induction steps using List.reverseRecOn generalizing task with
  | nil => cases h
  | append_singleton steps e ih =>
      rw [run_concat] at h
      rcases task_step_cases h with hold | ⟨call, rfl, -, rfl⟩ | ⟨answer, call, i, k, -, hwait, rfl⟩
      · exact List.mem_append_left _ (ih hold)
      · exact List.mem_append_right _ List.mem_cons_self
      · have hmade := ih hwait
        exact List.mem_append_left _ hmade

/-- A task that the step does not answer stays as it is. -/
theorem task_step_of_idle {p : Pool σ ι ρ ε α κ} {e : Step ρ κ τ} {m : ℕ}
    {task : CallTask σ ι ρ ε α κ} (h : p.tasks[m]? = some task)
    (hidle : ∀ answer i k, e = .deliver m answer → task.outcome ≠ .waiting i k) :
    (sys.step p e).tasks[m]? = some task := by
  rcases step_cases sys p e with ⟨call, c, hruns⟩ | ⟨t, rfl, hstep⟩ | hstep
  · cases hruns with
    | spawn =>
        obtain ⟨hlt, -⟩ := List.getElem?_eq_some_iff.1 h
        exact (List.getElem?_append_left hlt).trans h
    | deliver answer hwait =>
        rename_i n i k
        rw [step_deliver answer hwait]
        by_cases hnm : n = m
        · subst hnm
          rw [hwait] at h
          cases h
          exact absurd rfl (hidle answer i k rfl)
        · exact (List.getElem?_set_ne hnm).trans h
  · rw [hstep]
    exact h
  · rw [hstep]
    exact h

/-- A task that is not answered stays as it is. -/
theorem task_runFrom_of_idle {p : Pool σ ι ρ ε α κ} {steps : List (Step ρ κ τ)} {m : ℕ}
    {task : CallTask σ ι ρ ε α κ} (h : p.tasks[m]? = some task)
    (hidle : ∀ answer, .deliver m answer ∉ steps) : (sys.runFrom p steps).tasks[m]? = some task := by
  induction steps generalizing p with
  | nil => exact h
  | cons e steps ih =>
      refine ih (task_step_of_idle h fun answer i k he => ?_) fun answer hmem =>
        hidle answer (List.mem_cons_of_mem _ hmem)
      exact absurd (he ▸ List.mem_cons_self) (hidle answer)

/-- An invariant of the steps is one of the runs. -/
theorem run_invariant {I : Pool σ ι ρ ε α κ → Prop} {s : σ} (hinit : I ⟨s, []⟩)
    (hstep : ∀ p e, I p → I (sys.step p e)) (steps : List (Step ρ κ τ)) : I (sys.run s steps) := by
  induction steps using List.reverseRecOn with
  | nil => exact hinit
  | append_singleton steps e ih =>
      rw [run_concat]
      exact hstep _ e ih

/-! ### What holds at every step -/

/-- Every step of the list has the property in the pool it is made in. -/
def Throughout (sys : System σ ι ρ ε α κ τ) (P : Pool σ ι ρ ε α κ → Step ρ κ τ → Prop) :
    Pool σ ι ρ ε α κ → List (Step ρ κ τ) → Prop
  | _, [] => True
  | p, e :: steps => P p e ∧ Throughout sys P (sys.step p e) steps

theorem throughout_iff {P : Pool σ ι ρ ε α κ → Step ρ κ τ → Prop} {p : Pool σ ι ρ ε α κ}
    {steps : List (Step ρ κ τ)} :
    sys.Throughout P p steps ↔
      ∀ pre e post, steps = pre ++ e :: post → P (sys.runFrom p pre) e := by
  induction steps generalizing p with
  | nil => simp [Throughout]
  | cons e steps ih =>
      rw [Throughout, ih]
      constructor
      · rintro ⟨hfirst, hrest⟩ pre e' post hsteps
        cases pre with
        | nil =>
            cases hsteps
            exact hfirst
        | cons e'' pre =>
            cases hsteps
            exact hrest pre e' post rfl
      · intro h
        refine ⟨h [] e steps rfl, fun pre e' post hsteps => ?_⟩
        exact h (e :: pre) e' post (by rw [hsteps, List.cons_append])

/-- Two properties that agree in every state of every run hold throughout the same runs. -/
theorem throughout_run_congr {P Q : Pool σ ι ρ ε α κ → Step ρ κ τ → Prop} {s : σ}
    (h : ∀ pre e, P (sys.run s pre) e ↔ Q (sys.run s pre) e) (steps : List (Step ρ κ τ)) :
    sys.Throughout P ⟨s, []⟩ steps ↔ sys.Throughout Q ⟨s, []⟩ steps := by
  rw [throughout_iff, throughout_iff]
  constructor
  · intro hP pre e post hsteps
    exact (h pre e).1 (hP pre e post hsteps)
  · intro hQ pre e post hsteps
    exact (h pre e).2 (hQ pre e post hsteps)

/-! ### What is known of every await -/

/-- A predicate that holds of every await of every call: of the one a call starts with, and of the
next one whatever the answer is. -/
structure Suspends (sys : System σ ι ρ ε α κ τ)
    (P : κ → ι → (ρ → Coroutine σ ι ρ ε α) → Prop) : Prop where
  first : ∀ {call s i k}, ((sys.main call).run s).1 = .waiting i k → P call i k
  next : ∀ {call i k}, P call i k → ∀ {r s i' k'}, ((k r).run s).1 = .waiting i' k' → P call i' k'

/-- Every waiting task of the pool has the predicate. -/
def Waiting (P : κ → ι → (ρ → Coroutine σ ι ρ ε α) → Prop) (p : Pool σ ι ρ ε α κ) : Prop :=
  ∀ (n : ℕ) (call : κ) (i : ι) (k : ρ → Coroutine σ ι ρ ε α),
    p.tasks[n]? = some ⟨call, .waiting i k⟩ → P call i k

theorem Suspends.step_waiting {P : κ → ι → (ρ → Coroutine σ ι ρ ε α) → Prop}
    (h : sys.Suspends P) (p : Pool σ ι ρ ε α κ) (e : Step ρ κ τ) (hp : Waiting P p) :
    Waiting P (sys.step p e) := by
  intro n call i k htask
  rcases step_cases sys p e with ⟨call', c, hruns⟩ | ⟨t, rfl, hstep⟩ | hstep
  · cases hruns with
    | spawn =>
        rw [step_spawn] at htask
        rcases List.mem_append.1 (List.mem_of_getElem? htask) with hmem | hmem
        · obtain ⟨m, hm⟩ := List.getElem?_of_mem hmem
          exact hp _ _ _ _ hm
        · -- the new task waits where its first segment ended
          simp only [List.mem_singleton, CallTask.mk.injEq] at hmem
          obtain ⟨rfl, hout⟩ := hmem
          exact h.first hout.symm
    | deliver answer hwait =>
        rw [step_deliver answer hwait] at htask
        rcases List.mem_or_eq_of_mem_set (List.mem_of_getElem? htask) with hmem | heq
        · obtain ⟨m, hm⟩ := List.getElem?_of_mem hmem
          exact hp _ _ _ _ hm
        · -- the answered task waits at its next await
          simp only [CallTask.mk.injEq] at heq
          obtain ⟨rfl, hout⟩ := heq
          exact h.next (hp _ _ _ _ hwait) hout.symm
  · rw [hstep] at htask
    exact hp _ _ _ _ htask
  · rw [hstep] at htask
    exact hp _ _ _ _ htask

/-- **What is known of every await holds of every waiting task of a run.** -/
theorem Suspends.waiting {P : κ → ι → (ρ → Coroutine σ ι ρ ε α) → Prop} (h : sys.Suspends P)
    (s : σ) (steps : List (Step ρ κ τ)) : Waiting P (sys.run s steps) := by
  refine run_invariant (I := fun p => Waiting P p) ?_ h.step_waiting steps
  intro n call i k htask
  simp at htask

/-! ### A call that is driven to its end -/

/-- The outcome of a coroutine that ended. -/
def ended : Except ε α → Outcome σ ι ρ ε α
  | .ok a => .returned a
  | .error e => .raised e

variable (sys) in
theorem exists_runFrom_eq_drive (answer : ι → ρ) (c : Coroutine σ ι ρ ε α) (s : σ) (call : κ)
    (tasks : List (CallTask σ ι ρ ε α κ)) :
    ∃ steps : List (Step ρ κ τ),
      sys.runFrom ⟨(c.run s).2, tasks ++ [⟨call, (c.run s).1⟩]⟩ steps =
        ⟨(c.drive answer s).2, tasks ++ [⟨call, ended (c.drive answer s).1⟩]⟩ := by
  induction c generalizing s with
  | ret a => exact ⟨[], rfl⟩
  | raise e => exact ⟨[], rfl⟩
  | get k ih => exact ih s s
  | put t k ih => exact ih t
  | await i k ih =>
      obtain ⟨steps, hsteps⟩ := ih (answer i) s
      refine ⟨.deliver tasks.length (answer i) :: steps, ?_⟩
      -- the call was made last, so its task is behind all others
      rw [runFrom_cons, Coroutine.run_await, step_deliver_last, Coroutine.drive_await]
      exact hsteps

variable (sys) in
/-- **A call that is driven to its end is a run**: it is made, and its awaits are answered with
nothing in between. -/
theorem exists_run_eq_drive (answer : ι → ρ) (call : κ) (p : Pool σ ι ρ ε α κ) :
    ∃ steps : List (Step ρ κ τ),
      sys.runFrom p (.spawn call :: steps) =
        ⟨((sys.main call).drive answer p.world).2,
          p.tasks ++ [⟨call, ended ((sys.main call).drive answer p.world).1⟩]⟩ := by
  obtain ⟨steps, hsteps⟩ := exists_runFrom_eq_drive sys answer (sys.main call) p.world call p.tasks
  exact ⟨steps, hsteps⟩

end System

end PlatformOps
