/-
**Actions on a state that may raise.**

An action reads and changes a state and ends with a value or raises.  What it changed before it
raised stays changed, unless it ran in a transaction: a transaction that raises leaves the state as
it found it.

Main definitions:

* `Action`, `Action.raise`, `Action.read`, `Action.modify` — actions;
* `Action.transaction` — all or nothing;
* `Action.guard` — raise unless a condition holds;
* `Action.mapError` — the same action with its errors renamed;
* `Action.focus` — an action on a part of the state;
* `Action.ReadOnly`, `Action.Keeps` — the action changes nothing, or nothing of a part of the state;
* `Action.AllOrNothing` — the action changes nothing if it raises;
* `Action.RaisesOnly` — what the action raises from a state, if it raises.

Main results:

* `Action.bind_eq_ok_iff`, `Action.bind_eq_error_iff` — how a sequence ends;
* `Action.ReadOnly.bind` — a sequence of actions that change nothing changes nothing;
* `Action.raisesOnly_bind_iff` — **what a sequence raises, stage by stage**;
* `Action.state_eq_of_error` — **a transaction that raises changes nothing**.
-/

import Mathlib.Data.Prod.Basic

set_option relaxedAutoImplicit false
set_option autoImplicit false

namespace PlatformOps

universe u v

/-- An action on a state `σ` that ends with an `α` or raises an `ε`. -/
def Action (σ ε α : Type u) : Type u := σ → Except ε α × σ

namespace Action

variable {σ ε ε' α β : Type u}

/-- One action after another. -/
def bind (x : Action σ ε α) (f : α → Action σ ε β) : Action σ ε β := fun s =>
  match x s with
  | (.ok a, s') => f a s'
  | (.error e, s') => (.error e, s')

instance : Monad (Action σ ε) where
  pure a := fun s => (.ok a, s)
  bind := bind

/-- Raise. -/
def raise (e : ε) : Action σ ε α := fun s => (.error e, s)

/-- A value of the state. -/
def read (f : σ → α) : Action σ ε α := fun s => (.ok (f s), s)

/-- Change the state. -/
def modify (f : σ → σ) : Action σ ε PUnit := fun s => (.ok ⟨⟩, f s)

/-- What an `Except` holds. -/
def ofExcept (x : Except ε α) : Action σ ε α := fun s => (x, s)

/-- Raise unless the condition holds. -/
def guard (condition : Prop) [Decidable condition] (e : ε) : Action σ ε PUnit :=
  if condition then pure ⟨⟩ else raise e

/-- Run an action so that it changes nothing if it raises. -/
def transaction (x : Action σ ε α) : Action σ ε α := fun s =>
  match x s with
  | (.ok a, s') => (.ok a, s')
  | (.error e, _) => (.error e, s)

/-- The same action with its errors renamed. -/
def mapError (f : ε → ε') (x : Action σ ε α) : Action σ ε' α := fun s =>
  ((x s).1.mapError f, (x s).2)

/-- An action on a part of the state. -/
def focus {τ : Type u} (get : τ → σ) (set : σ → τ → τ) (x : Action σ ε α) : Action τ ε α := fun t =>
  ((x (get t)).1, set (x (get t)).2 t)

/-! ### How an action ends -/

@[simp] theorem pure_apply (a : α) (s : σ) : (pure a : Action σ ε α) s = (.ok a, s) := rfl

@[simp] theorem read_apply (f : σ → α) (s : σ) : (read f : Action σ ε α) s = (.ok (f s), s) := rfl

@[simp] theorem modify_apply (f : σ → σ) (s : σ) :
    (modify f : Action σ ε PUnit) s = (.ok ⟨⟩, f s) := rfl

@[simp] theorem ofExcept_apply (x : Except ε α) (s : σ) :
    (ofExcept x : Action σ ε α) s = (x, s) := rfl

theorem bind_apply (x : Action σ ε α) (f : α → Action σ ε β) (s : σ) :
    (x >>= f) s =
      match x s with
      | (.ok a, s') => f a s'
      | (.error e, s') => (.error e, s') := rfl

theorem bind_of_ok {x : Action σ ε α} {s s' : σ} {a : α} (h : x s = (.ok a, s'))
    (f : α → Action σ ε β) : (x >>= f) s = f a s' := by
  rw [bind_apply, h]

theorem bind_of_error {x : Action σ ε α} {s s' : σ} {e : ε} (h : x s = (.error e, s'))
    (f : α → Action σ ε β) : (x >>= f) s = (.error e, s') := by
  rw [bind_apply, h]

@[simp] theorem read_bind_apply (g : σ → α) (f : α → Action σ ε β) (s : σ) :
    ((read g : Action σ ε α) >>= f) s = f (g s) s := rfl

@[simp] theorem modify_bind_apply (g : σ → σ) (f : PUnit → Action σ ε β) (s : σ) :
    ((modify g : Action σ ε PUnit) >>= f) s = f ⟨⟩ (g s) := rfl

@[simp] theorem ofExcept_ok_bind_apply (a : α) (f : α → Action σ ε β) (s : σ) :
    ((ofExcept (.ok a) : Action σ ε α) >>= f) s = f a s := rfl

@[simp] theorem ofExcept_error_bind_apply (e : ε) (f : α → Action σ ε β) (s : σ) :
    ((ofExcept (.error e) : Action σ ε α) >>= f) s = (.error e, s) := rfl

/-- An action on a part of the state runs on that part. -/
theorem focus_of_run {τ : Type u} {get : τ → σ} {set : σ → τ → τ} {x : Action σ ε α} {t : τ}
    {result : Except ε α} {s' : σ} (h : x (get t) = (result, s')) :
    focus get set x t = (result, set s' t) := by
  unfold focus
  rw [h]

theorem guard_bind_apply {condition : Prop} [Decidable condition] (e : ε)
    (f : PUnit → Action σ ε β) (s : σ) :
    ((guard condition e : Action σ ε PUnit) >>= f) s =
      if condition then f ⟨⟩ s else (.error e, s) := by
  unfold guard
  by_cases h : condition
  · rw [if_pos h, if_pos h]
    rfl
  · rw [if_neg h, if_neg h]
    rfl

/-- **A sequence returns exactly if both of its parts do.** -/
theorem bind_eq_ok_iff {x : Action σ ε α} {f : α → Action σ ε β} {s t : σ} {b : β} :
    (x >>= f) s = (.ok b, t) ↔ ∃ a s', x s = (.ok a, s') ∧ f a s' = (.ok b, t) := by
  rw [bind_apply]
  constructor
  · intro h
    rcases hx : x s with ⟨result, s'⟩
    rw [hx] at h
    cases result with
    | error e => cases h
    | ok a => exact ⟨a, s', rfl, h⟩
  · rintro ⟨a, s', hx, hf⟩
    rw [hx]
    exact hf

/-- **A guarded action returns exactly if the condition holds and the action returns.** -/
theorem guard_bind_eq_ok_iff {condition : Prop} [Decidable condition] {e : ε}
    {f : PUnit → Action σ ε β} {s t : σ} {b : β} :
    ((guard condition e : Action σ ε PUnit) >>= f) s = (.ok b, t) ↔
      condition ∧ f ⟨⟩ s = (.ok b, t) := by
  rw [guard_bind_apply]
  split
  · next h => exact (and_iff_right h).symm
  · next h => exact iff_of_false (fun heq => by cases heq) fun heq => h heq.1

/-- **A sequence raises exactly if its first part does, or returns and the second part raises.** -/
theorem bind_eq_error_iff {x : Action σ ε α} {f : α → Action σ ε β} {s t : σ} {e : ε} :
    (x >>= f) s = (.error e, t) ↔
      x s = (.error e, t) ∨ ∃ a s', x s = (.ok a, s') ∧ f a s' = (.error e, t) := by
  rw [bind_apply]
  rcases hx : x s with ⟨result, s'⟩
  cases result with
  | error e' =>
      constructor
      · intro h
        cases h
        exact Or.inl rfl
      · rintro (h | ⟨a, s'', h, -⟩)
        · cases h
          rfl
        · cases h
  | ok a =>
      constructor
      · intro h
        exact Or.inr ⟨a, s', rfl, h⟩
      · rintro (h | ⟨a', s'', h, hf⟩)
        · cases h
        · cases h
          exact hf

/-! ### Actions that change nothing -/

/-- The action changes nothing, whether it returns or raises. -/
def ReadOnly (x : Action σ ε α) : Prop := ∀ s, (x s).2 = s

theorem readOnly_pure (a : α) : (pure a : Action σ ε α).ReadOnly := fun _ => rfl

theorem readOnly_raise (e : ε) : (raise e : Action σ ε α).ReadOnly := fun _ => rfl

theorem readOnly_read (f : σ → α) : (read f : Action σ ε α).ReadOnly := fun _ => rfl

theorem readOnly_ofExcept (x : Except ε α) : (ofExcept x : Action σ ε α).ReadOnly := fun _ => rfl

theorem readOnly_guard {condition : Prop} [Decidable condition] {e : ε} :
    (guard condition e : Action σ ε PUnit).ReadOnly := by
  unfold guard
  split
  · exact readOnly_pure _
  · exact readOnly_raise e

theorem ReadOnly.state_eq {x : Action σ ε α} (h : x.ReadOnly) {s t : σ} {result : Except ε α}
    (hx : x s = (result, t)) : t = s := by
  have hstate := h s
  rw [hx] at hstate
  exact hstate

/-- A sequence of actions that change nothing changes nothing. -/
theorem ReadOnly.bind {x : Action σ ε α} {f : α → Action σ ε β} (hx : x.ReadOnly)
    (hf : ∀ a, (f a).ReadOnly) : (x >>= f).ReadOnly := by
  intro s
  rcases h : x s with ⟨result, s'⟩
  have hs : s' = s := hx.state_eq h
  cases result with
  | error e => rw [bind_of_error h, hs]
  | ok a =>
      rw [bind_of_ok h, hs]
      exact hf a s

theorem ReadOnly.ite {x y : Action σ ε α} {condition : Prop} [Decidable condition]
    (hx : x.ReadOnly) (hy : y.ReadOnly) : (if condition then x else y).ReadOnly := by
  split
  · exact hx
  · exact hy

/-! ### Transactions -/

theorem transaction_of_ok {x : Action σ ε α} {s s' : σ} {a : α} (h : x s = (.ok a, s')) :
    transaction x s = (.ok a, s') := by
  rw [transaction, h]

theorem transaction_of_error {x : Action σ ε α} {s s' : σ} {e : ε} (h : x s = (.error e, s')) :
    transaction x s = (.error e, s) := by
  rw [transaction, h]

/-- A transaction that returns has run. -/
theorem transaction_eq_ok_iff {x : Action σ ε α} {s t : σ} {a : α} :
    transaction x s = (.ok a, t) ↔ x s = (.ok a, t) := by
  unfold transaction
  rcases hx : x s with ⟨result, s'⟩
  cases result with
  | ok b => rfl
  | error e => exact iff_of_false (fun h => by cases h) fun h => by cases h

/-- **A transaction that raises changes nothing.** -/
theorem state_eq_of_error {x : Action σ ε α} {s t : σ} {e : ε}
    (h : transaction x s = (.error e, t)) : t = s := by
  unfold transaction at h
  rcases hx : x s with ⟨result, s'⟩
  rw [hx] at h
  cases result with
  | ok a => cases h
  | error e' =>
      cases h
      rfl

/-- A transaction that raises changes nothing, whatever its errors are named. -/
theorem state_eq_of_mapError {f : ε → ε'} {x : Action σ ε α} {s t : σ} {e : ε'}
    (h : mapError f (transaction x) s = (.error e, t)) : t = s := by
  unfold mapError at h
  rcases hx : transaction x s with ⟨result, s'⟩
  rw [hx] at h
  cases result with
  | ok a => cases h
  | error e' =>
      cases h
      exact state_eq_of_error hx

theorem ReadOnly.transaction {x : Action σ ε α} (h : x.ReadOnly) : (transaction x).ReadOnly := by
  intro s
  rcases hx : x s with ⟨result, s'⟩
  cases result with
  | error e => rw [transaction_of_error hx]
  | ok a => rw [transaction_of_ok hx, h.state_eq hx]

/-! ### All or nothing -/

/-- The action changes nothing if it raises. -/
def AllOrNothing (x : Action σ ε α) : Prop := ∀ s e t, x s = (.error e, t) → t = s

theorem allOrNothing_transaction (x : Action σ ε α) : (transaction x).AllOrNothing :=
  fun _ _ _ h => state_eq_of_error h

theorem allOrNothing_modify (f : σ → σ) : (modify f : Action σ ε PUnit).AllOrNothing :=
  fun _ _ _ h => by cases h

theorem ReadOnly.allOrNothing {x : Action σ ε α} (h : x.ReadOnly) : x.AllOrNothing :=
  fun _ _ _ hx => h.state_eq hx

theorem AllOrNothing.mapError {x : Action σ ε α} (h : x.AllOrNothing) (f : ε → ε') :
    (mapError f x).AllOrNothing := by
  intro s e t hx
  unfold Action.mapError at hx
  rcases hrun : x s with ⟨result, s'⟩
  rw [hrun] at hx
  cases result with
  | ok a => cases hx
  | error e' =>
      cases hx
      exact h s e' _ hrun

/-- After reading, all or nothing. -/
theorem ReadOnly.bind_allOrNothing {x : Action σ ε α} {f : α → Action σ ε β} (hx : x.ReadOnly)
    (hf : ∀ a, (f a).AllOrNothing) : (x >>= f).AllOrNothing := by
  intro s e t h
  rcases bind_eq_error_iff.1 h with hraise | ⟨a, s', hrun, hraise⟩
  · exact hx.state_eq hraise
  · exact (hf a s' e t hraise).trans (hx.state_eq hrun)

/-- What follows only names the result. -/
theorem AllOrNothing.bind_pure {x : Action σ ε α} (h : x.AllOrNothing) (f : α → β) :
    (x >>= fun a => (pure (f a) : Action σ ε β)).AllOrNothing := by
  intro s e t hx
  rcases bind_eq_error_iff.1 hx with hraise | ⟨a, s', -, hraise⟩
  · exact h s e t hraise
  · cases hraise

/-! ### Parts of the state that an action keeps -/

/-- The action changes nothing of this part of the state. -/
def Keeps {π : Type v} (part : σ → π) (x : Action σ ε α) : Prop := ∀ s, part (x s).2 = part s

theorem ReadOnly.keeps {π : Type v} {x : Action σ ε α} (h : x.ReadOnly) (part : σ → π) :
    x.Keeps part := fun s => congrArg part (h s)

theorem keeps_modify {π : Type v} {part : σ → π} {f : σ → σ} (h : ∀ s, part (f s) = part s) :
    (modify f : Action σ ε PUnit).Keeps part := h

theorem Keeps.bind {π : Type v} {part : σ → π} {x : Action σ ε α}
    {f : α → Action σ ε β} (hx : x.Keeps part) (hf : ∀ a, (f a).Keeps part) :
    (x >>= f).Keeps part := by
  intro s
  rcases h : x s with ⟨result, s'⟩
  have hs : part s' = part s := by
    have hpart := hx s
    rw [h] at hpart
    exact hpart
  cases result with
  | error e => rw [bind_of_error h, hs]
  | ok a =>
      rw [bind_of_ok h]
      exact (hf a s').trans hs

/-- An action on a part of the state keeps what that part is not. -/
theorem keeps_focus {τ : Type u} {π : Type v} {part : τ → π} {get : τ → σ} {set : σ → τ → τ}
    {x : Action σ ε α} (h : ∀ s t, part (set s t) = part t) : (focus get set x).Keeps part :=
  fun t => h _ t

theorem Keeps.ite {π : Type v} {part : σ → π} {x y : Action σ ε α} {condition : Prop}
    [Decidable condition] (hx : x.Keeps part) (hy : y.Keeps part) :
    (if condition then x else y).Keeps part := by
  split
  · exact hx
  · exact hy

theorem Keeps.transaction {π : Type v} {part : σ → π} {x : Action σ ε α} (h : x.Keeps part) :
    (transaction x).Keeps part := by
  intro s
  rcases hx : x s with ⟨result, s'⟩
  cases result with
  | error e => rw [transaction_of_error hx]
  | ok a =>
      have hpart := h s
      rw [hx] at hpart
      rw [transaction_of_ok hx, hpart]

theorem Keeps.mapError {π : Type v} {part : σ → π} {x : Action σ ε α} (h : x.Keeps part)
    (f : ε → ε') : (mapError f x).Keeps part := fun s => h s

/-! ### What an action raises -/

/-- If the action raises from this state, it raises something with this property. -/
def RaisesOnly (P : ε → Prop) (x : Action σ ε α) (s : σ) : Prop := ∀ e t, x s = (.error e, t) → P e

variable {P : ε → Prop}

theorem raisesOnly_of_ok {x : Action σ ε α} {s t : σ} {a : α} (h : x s = (.ok a, t)) :
    RaisesOnly P x s := by
  intro e t' hx
  rw [h] at hx
  cases hx

theorem raisesOnly_of_error {x : Action σ ε α} {s t : σ} {e : ε} (h : x s = (.error e, t)) :
    RaisesOnly P x s ↔ P e := by
  constructor
  · intro hraises
    exact hraises e t h
  · intro he e' t' hx
    rw [h] at hx
    cases hx
    exact he

theorem raisesOnly_pure (a : α) (s : σ) : RaisesOnly P (pure a : Action σ ε α) s :=
  raisesOnly_of_ok rfl

theorem raisesOnly_raise_iff {e : ε} {s : σ} : RaisesOnly P (raise e : Action σ ε α) s ↔ P e :=
  raisesOnly_of_error rfl

/-- **What a sequence raises** is what its first part raises, and its second part where the first
one ends. -/
theorem raisesOnly_bind_iff {x : Action σ ε α} {f : α → Action σ ε β} {s : σ} :
    RaisesOnly P (x >>= f) s ↔
      RaisesOnly P x s ∧ ∀ a t, x s = (.ok a, t) → RaisesOnly P (f a) t := by
  constructor
  · intro h
    refine ⟨fun e t hx => h e t (bind_of_error hx f), fun a t hx e t' hf => h e t' ?_⟩
    rw [bind_of_ok hx]
    exact hf
  · rintro ⟨hx, hf⟩ e t h
    rcases bind_eq_error_iff.1 h with hraise | ⟨a, s', hok, hrest⟩
    · exact hx e t hraise
    · exact hf a s' hok e t hrest

/-- What an action raises whose value is only replaced. -/
theorem raisesOnly_bind_pure_iff {x : Action σ ε α} {f : α → β} {s : σ} :
    RaisesOnly P (x >>= fun a => pure (f a)) s ↔ RaisesOnly P x s :=
  raisesOnly_bind_iff.trans (and_iff_left fun a t _ => raisesOnly_pure (f a) t)

theorem raisesOnly_read_bind_iff {g : σ → α} {f : α → Action σ ε β} {s : σ} :
    RaisesOnly P ((read g : Action σ ε α) >>= f) s ↔ RaisesOnly P (f (g s)) s := Iff.rfl

theorem raisesOnly_modify_bind_iff {g : σ → σ} {f : PUnit → Action σ ε β} {s : σ} :
    RaisesOnly P ((modify g : Action σ ε PUnit) >>= f) s ↔ RaisesOnly P (f ⟨⟩) (g s) := Iff.rfl

theorem raisesOnly_guard_iff {condition : Prop} [Decidable condition] {e : ε} {s : σ} :
    RaisesOnly P (guard condition e : Action σ ε PUnit) s ↔ condition ∨ P e := by
  unfold guard
  by_cases h : condition
  · rw [if_pos h]
    exact iff_of_true (raisesOnly_pure _ _) (Or.inl h)
  · rw [if_neg h, raisesOnly_raise_iff]
    exact ⟨Or.inr, fun hor => hor.resolve_left h⟩

theorem raisesOnly_guard_bind_iff {condition : Prop} [Decidable condition] {e : ε}
    {f : PUnit → Action σ ε β} {s : σ} (he : ¬ P e) :
    RaisesOnly P ((guard condition e : Action σ ε PUnit) >>= f) s ↔
      condition ∧ RaisesOnly P (f ⟨⟩) s := by
  rw [raisesOnly_bind_iff, raisesOnly_guard_iff, or_iff_left he]
  refine and_congr_right fun h => ?_
  unfold guard
  rw [if_pos h]
  constructor
  · intro hrest
    exact hrest ⟨⟩ s rfl
  · rintro hrest ⟨⟩ t hpure
    cases hpure
    exact hrest

/-- A transaction raises what its action raises. -/
theorem raisesOnly_transaction_iff {x : Action σ ε α} {s : σ} :
    RaisesOnly P (transaction x) s ↔ RaisesOnly P x s := by
  rcases hx : x s with ⟨result, s'⟩
  cases result with
  | ok a => exact iff_of_true (raisesOnly_of_ok (transaction_of_ok hx)) (raisesOnly_of_ok hx)
  | error e => rw [raisesOnly_of_error (transaction_of_error hx), raisesOnly_of_error hx]

/-- An action with renamed errors raises the new names of what it raised. -/
theorem raisesOnly_mapError_iff {Q : ε' → Prop} {f : ε → ε'} {x : Action σ ε α} {s : σ} :
    RaisesOnly Q (mapError f x) s ↔ RaisesOnly (fun e => Q (f e)) x s := by
  rcases hx : x s with ⟨result, s'⟩
  cases result with
  | ok a =>
      have hmap : mapError f x s = (.ok a, s') := by
        unfold mapError
        rw [hx]
        rfl
      exact iff_of_true (raisesOnly_of_ok hmap) (raisesOnly_of_ok hx)
  | error e =>
      have hmap : mapError f x s = (.error (f e), s') := by
        unfold mapError
        rw [hx]
        rfl
      rw [raisesOnly_of_error hmap, raisesOnly_of_error hx]

/-- An action on a part of the state raises what it raises from that part. -/
theorem raisesOnly_focus_iff {τ : Type u} {get : τ → σ} {set : σ → τ → τ} {x : Action σ ε α}
    {t : τ} : RaisesOnly P (focus get set x) t ↔ RaisesOnly P x (get t) := by
  rcases hx : x (get t) with ⟨result, s'⟩
  cases result with
  | ok a => exact iff_of_true (raisesOnly_of_ok (focus_of_run hx)) (raisesOnly_of_ok hx)
  | error e => rw [raisesOnly_of_error (focus_of_run hx), raisesOnly_of_error hx]

end Action

end PlatformOps
