/-
**Families of instances of a system.**

A program creates instances of a system while it runs, and every other step is one of some instance.
The instances share nothing, so each of them is where its own steps alone lead, however they are
interleaved with the steps of the others.

Main definitions:

* `FamilyStep` — a new instance, or a step of an instance;
* `System.familyStep`, `System.familyRun` — the instances after steps;
* `histories` — the steps of each instance.

Main results:

* `System.familyRun_eq_map` — **every instance is a run of its own steps**;
* `System.familyRun_invariant` — what holds of every run holds of every instance.
-/

import PlatformOps.Coroutine

set_option relaxedAutoImplicit false
set_option autoImplicit false

namespace PlatformOps

universe u

/-- An instance is created, or an instance takes a step. -/
inductive FamilyStep (ρ κ τ : Type u) : Type u
  | create
  | within (n : ℕ) (e : Step ρ κ τ)

variable {σ ι ρ ε α κ τ : Type u}

/-- The steps of each instance so far, with one more step. -/
def FamilyStep.record (own : List (List (Step ρ κ τ))) :
    FamilyStep ρ κ τ → List (List (Step ρ κ τ))
  | .create => own ++ [[]]
  | .within n e => own.modify n (· ++ [e])

/-- The steps of each instance, in the order in which the instances were created. -/
def histories (steps : List (FamilyStep ρ κ τ)) : List (List (Step ρ κ τ)) :=
  steps.foldl FamilyStep.record []

theorem histories_concat (steps : List (FamilyStep ρ κ τ)) (e : FamilyStep ρ κ τ) :
    histories (steps ++ [e]) = e.record (histories steps) := by
  simp [histories]

/-- A map that commutes with a change of one item. -/
theorem map_modify {β γ : Type u} {f : β → β} {g : β → γ} {f' : γ → γ}
    (h : ∀ b, g (f b) = f' (g b)) (l : List β) (n : ℕ) :
    (l.modify n f).map g = (l.map g).modify n f' := by
  induction l generalizing n with
  | nil => simp
  | cons b l ih =>
      cases n with
      | zero => simp [h]
      | succ n => simp [ih]

namespace System

variable (sys : System σ ι ρ ε α κ τ)

/-- The instances after a step.  A step of an instance that does not exist does nothing. -/
def familyStep (s : σ) (pools : List (Pool σ ι ρ ε α κ)) :
    FamilyStep ρ κ τ → List (Pool σ ι ρ ε α κ)
  | .create => pools ++ [⟨s, []⟩]
  | .within n e => pools.modify n (sys.step · e)

/-- The instances after these steps, each of which was created in this state. -/
def familyRun (s : σ) (steps : List (FamilyStep ρ κ τ)) : List (Pool σ ι ρ ε α κ) :=
  steps.foldl (sys.familyStep s) []

theorem familyRun_concat (s : σ) (steps : List (FamilyStep ρ κ τ)) (e : FamilyStep ρ κ τ) :
    sys.familyRun s (steps ++ [e]) = sys.familyStep s (sys.familyRun s steps) e := by
  simp [familyRun]

/-- **Every instance is a run of its own steps.** -/
theorem familyRun_eq_map (s : σ) (steps : List (FamilyStep ρ κ τ)) :
    sys.familyRun s steps = (histories steps).map (sys.run s) := by
  induction steps using List.reverseRecOn with
  | nil => rfl
  | append_singleton steps e ih =>
      rw [familyRun_concat, histories_concat, ih]
      cases e with
      | create => simp [familyStep, FamilyStep.record, run, runFrom]
      | within n e =>
          exact (map_modify (fun own => run_concat s own e) _ n).symm

variable {sys}

/-- **What holds of every run holds of every instance.** -/
theorem familyRun_invariant {I : Pool σ ι ρ ε α κ → Prop} {s : σ}
    (h : ∀ own, I (sys.run s own)) {steps : List (FamilyStep ρ κ τ)} {p : Pool σ ι ρ ε α κ}
    (hp : p ∈ sys.familyRun s steps) : I p := by
  rw [familyRun_eq_map] at hp
  obtain ⟨own, -, rfl⟩ := List.mem_map.1 hp
  exact h own

end System

end PlatformOps
