/-
**A party that awaits one event at a time.**

A party is in a state, and of the events that can happen it takes those that it awaits there.  A
history is what happened to it, in order; it is one of the party if each event was awaited when it
came.  What holds of the empty history, and of each history that is one event longer, holds of all.

Main definitions:

* `Dialogue` — where a party starts, and how it takes an event;
* `Dialogue.runFrom`, `Dialogue.run` — the state after a history, if it is one of the party.

Main results:

* `Dialogue.runFrom_append_eq_some_iff` — a history in two parts;
* `Dialogue.exists_of_run_split` — what a party was in before an event, and after it;
* `Dialogue.run_traced` — **a relation of histories and states that each event keeps holds of every
  history**.
-/

import Mathlib.Data.List.Induction
import Mathlib.Data.Option.Basic

set_option relaxedAutoImplicit false
set_option autoImplicit false

namespace PlatformOps

universe u v

/-- Where a party starts, and how it goes on from an event that it awaits. -/
structure Dialogue (σ : Type u) (ε : Type v) where
  start : σ
  next : σ → ε → Option σ

namespace Dialogue

variable {σ : Type u} {ε : Type v} (d : Dialogue σ ε)

/-- The state after a history, from this one on. -/
def runFrom : σ → List ε → Option σ
  | s, [] => some s
  | s, e :: events => (d.next s e).bind fun t => runFrom t events

/-- The state after a history. -/
def run (events : List ε) : Option σ := d.runFrom d.start events

variable {d} {s t : σ} {e : ε} {events pre post : List ε}

theorem runFrom_cons_eq_some_iff :
    d.runFrom s (e :: events) = some t ↔ ∃ u, d.next s e = some u ∧ d.runFrom u events = some t :=
  Option.bind_eq_some_iff

/-- The first part of a history leads to where the second one starts. -/
theorem runFrom_append_eq_some_iff :
    d.runFrom s (pre ++ post) = some t ↔
      ∃ u, d.runFrom s pre = some u ∧ d.runFrom u post = some t := by
  induction pre generalizing s with
  | nil =>
      constructor
      · intro h
        exact ⟨s, rfl, h⟩
      · rintro ⟨u, hu, h⟩
        cases hu
        exact h
  | cons e pre ih =>
      rw [List.cons_append, runFrom_cons_eq_some_iff]
      constructor
      · rintro ⟨v, hnext, h⟩
        obtain ⟨u, hu, h⟩ := ih.1 h
        exact ⟨u, runFrom_cons_eq_some_iff.2 ⟨v, hnext, hu⟩, h⟩
      · rintro ⟨u, hu, h⟩
        obtain ⟨v, hnext, hu⟩ := runFrom_cons_eq_some_iff.1 hu
        exact ⟨v, hnext, ih.2 ⟨u, hu, h⟩⟩

theorem runFrom_concat_eq_some_iff :
    d.runFrom s (events ++ [e]) = some t ↔
      ∃ u, d.runFrom s events = some u ∧ d.next u e = some t := by
  rw [runFrom_append_eq_some_iff]
  refine exists_congr fun u => and_congr_right fun _ => ?_
  rw [runFrom_cons_eq_some_iff]
  constructor
  · rintro ⟨v, hnext, h⟩
    cases h
    exact hnext
  · intro hnext
    exact ⟨t, hnext, rfl⟩

/-- An event of a history was awaited after what came before it. -/
theorem exists_of_run_split (h : d.run (pre ++ e :: post) = some t) :
    ∃ u v, d.run pre = some u ∧ d.next u e = some v ∧ d.runFrom v post = some t := by
  obtain ⟨u, hpre, hrest⟩ := runFrom_append_eq_some_iff.1 h
  obtain ⟨v, hnext, hpost⟩ := runFrom_cons_eq_some_iff.1 hrest
  exact ⟨u, v, hpre, hnext, hpost⟩

/-- **What each event keeps holds of every history** and the state it leads to. -/
theorem run_traced {Traced : List ε → σ → Prop} (hstart : Traced [] d.start)
    (hnext : ∀ events s e t, Traced events s → d.next s e = some t → Traced (events ++ [e]) t)
    (h : d.run events = some t) : Traced events t := by
  induction events using List.reverseRecOn generalizing t with
  | nil =>
      cases h
      exact hstart
  | append_singleton events e ih =>
      obtain ⟨s, hs, ht⟩ := runFrom_concat_eq_some_iff.1 h
      exact hnext events s e t (ih hs) ht

end Dialogue

end PlatformOps
