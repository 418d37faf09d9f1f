/-
**Budgets over a sliding window.**

Events happen at instants and are charged to keys.  Of the instants charged to a key only those
count that are less than a window old; what no longer counts never counts again, so it may be
forgotten.  A budget that admits an event only while fewer than `limit` instants count for its key
admits at most `limit` events of a key in any half-open window, wherever the window begins.

Main definitions:

* `recent`, `within` — the instants that count at a time, and those in a half-open window;
* `charged` — the instants of the events of a key;
* `Tracks` — tables that may have forgotten what no longer counts;
* `Respects` — every event was admitted within the limit.

Main results:

* `Tracks.charge`, `Tracks.skip` — tables keep track of the events, charged or not;
* `length_within_le` — **no half-open window holds more than the limit**.
-/

import Mathlib.Algebra.Order.Monoid.Unbundled.Basic
import Mathlib.Data.List.Basic
import Mathlib.Data.List.Induction

set_option relaxedAutoImplicit false
set_option autoImplicit false

namespace PlatformOps.SlidingWindow

universe u v w

variable {ι : Type u} {κ : Type v} {T : Type w} [LinearOrder T] [Add T]

/-! ### Instants that count -/

/-- The instants that are less than a window old. -/
def recent (window now : T) (times : List T) : List T := times.filter fun a => now < a + window

/-- The instants in the half-open window from `start` on. -/
def within (window start : T) (times : List T) : List T :=
  times.filter fun a => start ≤ a ∧ a < start + window

variable {window now later start : T} {times : List T}

theorem recent_append (l m : List T) :
    recent window now (l ++ m) = recent window now l ++ recent window now m :=
  List.filter_append ..

theorem within_append (l m : List T) :
    within window start (l ++ m) = within window start l ++ within window start m :=
  List.filter_append ..

/-- What no longer counts never counts again. -/
theorem recent_recent (h : now ≤ later) :
    recent window later (recent window now times) = recent window later times := by
  unfold recent
  rw [List.filter_filter]
  refine List.filter_congr fun a _ => ?_
  by_cases hlater : later < a + window
  · simp [hlater, lt_of_le_of_lt h hlater]
  · simp [hlater]

/-- In a window that holds the present, the instants of the window count now. -/
theorem length_within_le_recent [AddRightMono T] (hnow : now < start + window) :
    (within window start times).length ≤ (recent window now times).length := by
  refine (List.monotone_filter_right times fun a ha => ?_).length_le
  have hstart : start ≤ a := (of_decide_eq_true ha).1
  exact decide_eq_true (lt_of_lt_of_le hnow (add_le_add_left hstart window))

/-! ### Events and tables -/

section Events

variable [DecidableEq κ] (time : ι → T) (key : ι → Option κ)

/-- The instants of the events of a key, in their order. -/
def charged (k : κ) (events : List ι) : List T :=
  (events.filter fun e => key e = some k).map time

omit [LinearOrder T] [Add T] in
theorem charged_append (k : κ) (l m : List ι) :
    charged time key k (l ++ m) = charged time key k l ++ charged time key k m := by
  rw [charged, List.filter_append, List.map_append]
  rfl

omit [LinearOrder T] [Add T] in
theorem charged_singleton (k : κ) (e : ι) :
    charged time key k [e] = if key e = some k then [time e] else [] := by
  unfold charged
  by_cases h : key e = some k
  · simp [h]
  · simp [h]

/-- The tables hold what counts from now on. -/
def Tracks (window : T) (table : κ → List T) (events : List ι) (now : T) : Prop :=
  ∀ k later, now ≤ later →
    recent window later (table k) = recent window later (charged time key k events)

variable {time key} {table : κ → List T} {events : List ι}

theorem tracks_nil (now : T) : Tracks time key window (fun _ => []) [] now := fun _ _ _ => rfl

theorem Tracks.mono (h : Tracks time key window table events now) (hlater : now ≤ later) :
    Tracks time key window table events later :=
  fun k time hle => h k time (hlater.trans hle)

/-- An event is charged to its key: what no longer counts is forgotten there. -/
theorem Tracks.charge (h : Tracks time key window table events now) {e : ι} {k : κ}
    (hkey : key e = some k) (hnow : now ≤ time e) :
    Tracks time key window
      (Function.update table k (recent window (time e) (table k) ++ [time e])) (events ++ [e])
      (time e) := by
  intro k' later hlater
  rw [charged_append, charged_singleton, recent_append, ← h k' later (hnow.trans hlater)]
  by_cases hk : k' = k
  · subst hk
    rw [Function.update_self, if_pos hkey, recent_append, recent_recent hlater]
  · rw [Function.update_of_ne hk, if_neg, ← recent_append, List.append_nil]
    rw [hkey]
    exact fun hsame => hk (Option.some.inj hsame).symm

/-- An event without a key charges nothing. -/
theorem Tracks.skip (h : Tracks time key window table events now) {e : ι} (hkey : key e = none)
    (hnow : now ≤ time e) : Tracks time key window table (events ++ [e]) (time e) := by
  intro k later hlater
  rw [charged_append, charged_singleton, if_neg (by rw [hkey]; simp), List.append_nil]
  exact h k later (hnow.trans hlater)

/-! ### Limits -/

variable (time key) in
/-- Every event of a key was admitted while fewer than `limit` earlier ones counted. -/
def Respects (window : T) (limit : ℕ) (events : List ι) : Prop :=
  ∀ before e after k, events = before ++ e :: after → key e = some k →
    (recent window (time e) (charged time key k before)).length < limit

theorem respects_nil (limit : ℕ) : Respects time key window limit [] := by
  intro before e after k h
  simp at h

/-- One more event is admitted within the limit. -/
theorem Respects.concat {limit : ℕ} (h : Respects time key window limit events) {e : ι}
    (he : ∀ k, key e = some k →
      (recent window (time e) (charged time key k events)).length < limit) :
    Respects time key window limit (events ++ [e]) := by
  intro before e' after k hsplit hkey
  rcases List.eq_nil_or_concat after with rfl | ⟨front, last, rfl⟩
  · obtain ⟨rfl, hlast⟩ := List.append_inj' hsplit rfl
    obtain rfl : e = e' := (List.cons.inj hlast).1
    exact he k hkey
  · rw [List.concat_eq_append, ← List.cons_append, ← List.append_assoc] at hsplit
    exact h before e' front k (List.append_inj' hsplit rfl).1 hkey

/-- **No half-open window holds more events of a key than the limit.** -/
theorem length_within_le [AddRightMono T] {limit : ℕ} (h : Respects time key window limit events)
    (k : κ) (start : T) : (within window start (charged time key k events)).length ≤ limit := by
  induction events using List.reverseRecOn with
  | nil => exact Nat.zero_le limit
  | append_singleton events e ih =>
      have hbefore : Respects time key window limit events := by
        intro before e' after k' hsplit hkey
        refine h before e' (after ++ [e]) k' ?_ hkey
        rw [hsplit, List.append_assoc, List.cons_append]
      have hrest := ih hbefore
      rw [charged_append, charged_singleton, within_append, List.length_append]
      by_cases hkey : key e = some k
      · rw [if_pos hkey]
        by_cases hin : start ≤ time e ∧ time e < start + window
        · -- all events of the window still counted when this one was admitted
          have hcount := h events e [] k rfl hkey
          have hle : (within window start (charged time key k events)).length ≤
              (recent window (time e) (charged time key k events)).length :=
            length_within_le_recent hin.2
          have hone : (within window start [time e]).length ≤ 1 := List.length_filter_le ..
          omega
        · have hnone : within window start [time e] = [] := by
            simp [within, hin]
          rw [hnone]
          exact hrest
      · rw [if_neg hkey]
        exact hrest

end Events

end PlatformOps.SlidingWindow
