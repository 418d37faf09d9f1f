/-
**Critical sections of cooperative coroutines.**

A program guards a section of its calls by a mark on the shared state: a call tests the mark, sets
it, awaits, and takes the mark away when it ends, also when it raises.  No call gives up control
between the test and the mark, so the section excludes the others: of all the calls of a run at most
one awaits, and the mark is on the state exactly while one does.

What one call has to do for this is a property of its coroutine alone.  It *sustains* the section:
the section is held wherever the coroutine awaits, whatever the environment does in between that
leaves it held, and what the coroutine ends with is known at its end.

Main definitions:

* `Coroutine.ofAction` — an action as a coroutine that awaits nothing;
* `Coroutine.handle`, `Coroutine.tryCatch`, `Coroutine.tryFinally` — going on with how a coroutine
  ended;
* `CriticalSection`, `Coroutine.Sustains` — a section, and what one call has to do;
* `System.Exclusive` — every call of a program enters the section, or ends at once where it is held;
* `Pool.inFlight` — what the calls of a pool await;
* `System.Exclusion` — nothing is in flight and the section is free, or one call is inside.

Main results:

* `Coroutine.Sustains.bind`, `Coroutine.Sustains.handle` — sequences sustain a section;
* `Coroutine.Sustains.run` — what one segment of such a coroutine does;
* `System.Exclusive.exclusion` — **exclusion holds along every run**;
* `System.Exclusion.length_inFlight_le_one`, `System.Exclusion.held_iff` — at most one request is in
  flight, and one is exactly while the section is held;
* `System.Exclusion.spawn`, `System.Exclusion.deliver` — a call made meanwhile does nothing, and an
  answer is followed by a request that may follow it or leaves the section free.
-/

import PlatformOps.Action
import PlatformOps.Coroutine

set_option relaxedAutoImplicit false
set_option autoImplicit false

namespace PlatformOps

universe u

/-! ### Going on with how a coroutine ended -/

namespace Coroutine

variable {σ ι ρ ε ε' α β : Type u}

/-- An action, which awaits nothing. -/
def ofAction (x : Action σ ε α) : Coroutine σ ι ρ ε α :=
  .get fun s => .put (x s).2 (ofExcept (x s).1)

/-- A segment of a sequence whose first part is an action that returns. -/
theorem run_ofAction_bind_of_ok {x : Action σ ε α} {f : α → Coroutine σ ι ρ ε β} {s t : σ} {a : α}
    (h : x s = (.ok a, t)) : (ofAction x >>= f).run s = (f a).run t := by
  change (ofExcept (x s).1 >>= f).run (x s).2 = _
  rw [h, run_ofExcept_ok_bind]

/-- Go on with what a coroutine returned or raised. -/
def handle : Coroutine σ ι ρ ε α → (Except ε α → Coroutine σ ι ρ ε' β) → Coroutine σ ι ρ ε' β
  | .ret a, f => f (.ok a)
  | .raise e, f => f (.error e)
  | .get k, f => .get fun s => (k s).handle f
  | .put s k, f => .put s (k.handle f)
  | .await i k, f => .await i fun r => (k r).handle f

/-- Go on with a handler where a coroutine raises. -/
def tryCatch (c : Coroutine σ ι ρ ε α) (f : ε → Coroutine σ ι ρ ε' α) : Coroutine σ ι ρ ε' α :=
  c.handle fun
    | .ok a => .ret a
    | .error e => f e

/-- Run a last part however a coroutine ends. -/
def tryFinally (c : Coroutine σ ι ρ ε α) (final : Coroutine σ ι ρ ε PUnit) :
    Coroutine σ ι ρ ε α :=
  c.handle fun result => final >>= fun _ => ofExcept result

end Coroutine

/-! ### Sections -/

/-- A section of which at most one call is to be inside. -/
structure CriticalSection (σ ι ρ : Type u) where
  /-- A call is inside. -/
  held : σ → Prop
  /-- What a call inside may await next, after what it awaited and how that was answered. -/
  next : ι → ρ → ι → Prop

namespace Coroutine

variable {σ ι ρ ε ε' α β : Type u} {sec : CriticalSection σ ι ρ}

/-- From this state on the section is held wherever the coroutine awaits, if the environment leaves
it held in between, what it awaits may follow what was answered last, and it ends with `Q`. -/
def Sustains (sec : CriticalSection σ ι ρ) (Q : Except ε α → σ → Prop) :
    Coroutine σ ι ρ ε α → Option (ι × ρ) → σ → Prop
  | .ret a, _, s => Q (.ok a) s
  | .raise e, _, s => Q (.error e) s
  | .get k, last, s => (k s).Sustains sec Q last s
  | .put t k, last, _ => k.Sustains sec Q last t
  | .await i k, last, s =>
      sec.held s ∧ (∀ a ∈ last, sec.next a.1 a.2 i) ∧
        ∀ answer t, sec.held t → (k answer).Sustains sec Q (some (i, answer)) t

variable {Q : Except ε α → σ → Prop} {R : Except ε' β → σ → Prop}

theorem sustains_ofExcept {x : Except ε α} {last : Option (ι × ρ)} {s : σ} :
    (ofExcept x : Coroutine σ ι ρ ε α).Sustains sec Q last s ↔ Q x s := by
  cases x with
  | ok a => exact Iff.rfl
  | error e => exact Iff.rfl

/-- An action sustains the section if what it ends with is a `Q`. -/
theorem sustains_ofAction {x : Action σ ε α} {last : Option (ι × ρ)} {s : σ} :
    (ofAction x : Coroutine σ ι ρ ε α).Sustains sec Q last s ↔ Q (x s).1 (x s).2 :=
  sustains_ofExcept

/-- An action that returns is gone on with in the state it leaves. -/
theorem sustains_ofAction_bind_of_ok {R : Except ε β → σ → Prop} {x : Action σ ε α}
    {f : α → Coroutine σ ι ρ ε β} {last : Option (ι × ρ)} {s t : σ} {a : α}
    (h : x s = (.ok a, t)) :
    (ofAction x >>= f).Sustains sec R last s ↔ (f a).Sustains sec R last t := by
  change (ofExcept (x s).1 >>= f).Sustains sec R last (x s).2 ↔ _
  rw [h]
  exact Iff.rfl

/-- What an `Except` holds is gone on with or raised. -/
theorem sustains_ofExcept_bind {R : Except ε β → σ → Prop} {x : Except ε α}
    {f : α → Coroutine σ ι ρ ε β} {last : Option (ι × ρ)} {s : σ}
    (hok : ∀ a, x = .ok a → (f a).Sustains sec R last s)
    (herror : ∀ e, x = .error e → R (.error e) s) :
    (ofExcept x >>= f : Coroutine σ ι ρ ε β).Sustains sec R last s := by
  cases x with
  | ok a => exact hok a rfl
  | error e => exact herror e rfl

/-- **How a coroutine ended is gone on with**: the second part may rely on what the first one ends
with. -/
theorem Sustains.handle {c : Coroutine σ ι ρ ε α} {f : Except ε α → Coroutine σ ι ρ ε' β}
    {last : Option (ι × ρ)} {s : σ} (h : c.Sustains sec Q last s)
    (hf : ∀ result last t, Q result t → (f result).Sustains sec R last t) :
    (c.handle f).Sustains sec R last s := by
  induction c generalizing last s with
  | ret a => exact hf _ _ _ h
  | raise e => exact hf _ _ _ h
  | get k ih => exact ih s h
  | put t k ih => exact ih h
  | await i k ih =>
      obtain ⟨hheld, hnext, hrest⟩ := h
      exact ⟨hheld, hnext, fun answer t ht => ih answer (hrest answer t ht)⟩

/-- **Sequences**: what the first part raises is raised. -/
theorem Sustains.bind {R : Except ε β → σ → Prop} {c : Coroutine σ ι ρ ε α}
    {f : α → Coroutine σ ι ρ ε β} {last : Option (ι × ρ)} {s : σ} (h : c.Sustains sec Q last s)
    (hok : ∀ a last t, Q (.ok a) t → (f a).Sustains sec R last t)
    (herror : ∀ e t, Q (.error e) t → R (.error e) t) : (c >>= f).Sustains sec R last s := by
  induction c generalizing last s with
  | ret a => exact hok _ _ _ h
  | raise e => exact herror _ _ h
  | get k ih => exact ih s h
  | put t k ih => exact ih h
  | await i k ih =>
      obtain ⟨hheld, hnext, hrest⟩ := h
      exact ⟨hheld, hnext, fun answer t ht => ih answer (hrest answer t ht)⟩

/-- A handler that ends with what is wanted. -/
theorem Sustains.tryCatch {R : Except ε' α → σ → Prop} {c : Coroutine σ ι ρ ε α}
    {f : ε → Coroutine σ ι ρ ε' α} {last : Option (ι × ρ)} {s : σ} (h : c.Sustains sec Q last s)
    (hok : ∀ a t, Q (.ok a) t → R (.ok a) t)
    (herror : ∀ e last t, Q (.error e) t → (f e).Sustains sec R last t) :
    (c.tryCatch f).Sustains sec R last s := by
  refine h.handle fun result last t hresult => ?_
  cases result with
  | ok a => exact hok a t hresult
  | error e => exact herror e last t hresult

/-- A last part is run however the coroutine ends, and what it raises is raised. -/
theorem Sustains.tryFinally {R : Except ε α → σ → Prop} {c : Coroutine σ ι ρ ε α}
    {final : Coroutine σ ι ρ ε PUnit} {last : Option (ι × ρ)} {s : σ} (h : c.Sustains sec Q last s)
    (hfinal : ∀ result last t, Q result t →
      final.Sustains sec (fun ended => R (ended >>= fun _ => result)) last t) :
    (c.tryFinally final).Sustains sec R last s := by
  refine h.handle fun result last t hresult => ?_
  refine (hfinal result last t hresult).bind (fun _ last t hended => ?_) fun e t hended => hended
  exact sustains_ofExcept.2 hended

/-- **What one segment does**: it ends with a `Q`, or at an await where the section is held, from
which the rest of the coroutine sustains it. -/
theorem Sustains.run {c : Coroutine σ ι ρ ε α} {last : Option (ι × ρ)} {s : σ}
    (h : c.Sustains sec Q last s) :
    match c.run s with
    | (.returned a, t) => Q (.ok a) t
    | (.raised e, t) => Q (.error e) t
    | (.waiting i k, t) =>
        sec.held t ∧ (∀ a ∈ last, sec.next a.1 a.2 i) ∧
          ∀ answer t', sec.held t' → (k answer).Sustains sec Q (some (i, answer)) t' := by
  induction c generalizing s with
  | ret a => exact h
  | raise e => exact h
  | get k ih => exact ih s h
  | put t k ih => exact ih h
  | await i k ih => exact h

end Coroutine

/-! ### What is in flight -/

section InFlight

variable {σ ι ρ ε α κ τ : Type u}

/-- What a segment ended at, if it ended at an await. -/
def Outcome.awaiting : Outcome σ ι ρ ε α → Option ι
  | .waiting i _ => some i
  | _ => none

/-- What the calls of a list await. -/
def CallTask.inFlight (tasks : List (CallTask σ ι ρ ε α κ)) : List ι :=
  tasks.filterMap fun task => task.outcome.awaiting

/-- What the calls of a pool await. -/
def Pool.inFlight (p : Pool σ ι ρ ε α κ) : List ι := CallTask.inFlight p.tasks

theorem CallTask.inFlight_append (tasks more : List (CallTask σ ι ρ ε α κ)) :
    inFlight (tasks ++ more) = inFlight tasks ++ inFlight more :=
  List.filterMap_append

theorem CallTask.inFlight_cons (task : CallTask σ ι ρ ε α κ) (tasks : List (CallTask σ ι ρ ε α κ)) :
    inFlight (task :: tasks) = task.outcome.awaiting.toList ++ inFlight tasks := by
  unfold inFlight
  rw [List.filterMap_cons]
  cases task.outcome.awaiting with
  | none => rfl
  | some i => rfl

/-- A call that waits is in flight. -/
theorem CallTask.mem_inFlight {tasks : List (CallTask σ ι ρ ε α κ)} {n : ℕ} {call : κ} {i : ι}
    {k : ρ → Coroutine σ ι ρ ε α} (h : tasks[n]? = some ⟨call, .waiting i k⟩) :
    i ∈ inFlight tasks :=
  List.mem_filterMap.2 ⟨_, List.mem_of_getElem? h, rfl⟩

section OneCall

variable {before after : List (CallTask σ ι ρ ε α κ)}

/-- Between calls that await nothing, what one call awaits is in flight. -/
theorem CallTask.inFlight_between (hbefore : inFlight before = []) (hafter : inFlight after = [])
    (task : CallTask σ ι ρ ε α κ) :
    inFlight (before ++ task :: after) = task.outcome.awaiting.toList := by
  rw [inFlight_append, inFlight_cons, hbefore, hafter, List.nil_append, List.append_nil]

/-- Between calls that await nothing, a call that waits is the one in the middle. -/
theorem CallTask.eq_length_of_waiting (hbefore : inFlight before = [])
    (hafter : inFlight after = []) {task : CallTask σ ι ρ ε α κ} {n : ℕ} {call : κ} {i : ι}
    {k : ρ → Coroutine σ ι ρ ε α}
    (h : (before ++ task :: after)[n]? = some ⟨call, .waiting i k⟩) : n = before.length := by
  rcases Nat.lt_trichotomy n before.length with hlt | heq | hgt
  · rw [List.getElem?_append_left hlt] at h
    exact absurd (hbefore ▸ mem_inFlight h) List.not_mem_nil
  · exact heq
  · obtain ⟨m, rfl⟩ := Nat.exists_eq_add_of_lt hgt
    rw [List.getElem?_append_right (by omega), show before.length + m + 1 - before.length = m + 1 by
      omega, List.getElem?_cons_succ] at h
    exact absurd (hafter ▸ mem_inFlight h) List.not_mem_nil

end OneCall

namespace System

variable {sys : System σ ι ρ ε α κ τ} {sec : CriticalSection σ ι ρ} {p : Pool σ ι ρ ε α κ}

@[simp] theorem inFlight_spawn (p : Pool σ ι ρ ε α κ) (call : κ) :
    (sys.step p (.spawn call)).inFlight =
      p.inFlight ++ ((sys.main call).run p.world).1.awaiting.toList := by
  unfold Pool.inFlight
  rw [step_spawn, CallTask.inFlight_append, CallTask.inFlight_cons]
  exact congrArg _ (List.append_nil _)

/-! ### Exclusion -/

/-- Every call enters the section, or ends at once where it is held, and the environment neither
enters nor leaves it. -/
structure Exclusive (sys : System σ ι ρ ε α κ τ) (sec : CriticalSection σ ι ρ) : Prop where
  enters : ∀ call s, ¬ sec.held s →
    (sys.main call).Sustains sec (fun _ t => ¬ sec.held t) none s
  refuses : ∀ call s, sec.held s → ∃ a, (sys.main call).run s = (.returned a, s)
  environment : ∀ t s, sec.held (sys.environment t s) ↔ sec.held s

/-- Nothing is in flight and the section is free, or one call waits inside and leaves it free in
the end. -/
inductive Exclusion (sec : CriticalSection σ ι ρ) (p : Pool σ ι ρ ε α κ) : Prop
  | free (hnone : p.inFlight = []) (hfree : ¬ sec.held p.world)
  | inside {before after : List (CallTask σ ι ρ ε α κ)} {call : κ} {i : ι}
      {k : ρ → Coroutine σ ι ρ ε α} (htasks : p.tasks = before ++ ⟨call, .waiting i k⟩ :: after)
      (hbefore : CallTask.inFlight before = []) (hafter : CallTask.inFlight after = [])
      (hheld : sec.held p.world)
      (hrest : ∀ answer t, sec.held t →
        (k answer).Sustains sec (fun _ t => ¬ sec.held t) (some (i, answer)) t)

/-- **After a segment that sustains the section**, run while no other call waits, the section is
free, or the call waits inside. -/
theorem exclusion_of_sustains {c : Coroutine σ ι ρ ε α} {last : Option (ι × ρ)} {s : σ}
    (h : c.Sustains sec (fun _ t => ¬ sec.held t) last s)
    {before after : List (CallTask σ ι ρ ε α κ)} (hbefore : CallTask.inFlight before = [])
    (hafter : CallTask.inFlight after = []) (call : κ) :
    Exclusion sec ⟨(c.run s).2, before ++ ⟨call, (c.run s).1⟩ :: after⟩ := by
  have hrun := h.run
  rcases hc : c.run s with ⟨outcome, t⟩
  rw [hc] at hrun
  cases outcome with
  | returned a => exact .free (CallTask.inFlight_between hbefore hafter _) hrun
  | raised e => exact .free (CallTask.inFlight_between hbefore hafter _) hrun
  | waiting i k => exact .inside rfl hbefore hafter hrun.1 hrun.2.2

/-- Where nothing is in flight no call waits. -/
theorem not_waiting_of_free (hnone : p.inFlight = []) {n : ℕ} {call : κ} {i : ι}
    {k : ρ → Coroutine σ ι ρ ε α} : p.tasks[n]? ≠ some ⟨call, .waiting i k⟩ := by
  intro h
  have hmem : i ∈ p.inFlight := CallTask.mem_inFlight h
  rw [hnone] at hmem
  exact List.not_mem_nil hmem

/-- An answer to the call inside runs its next segment. -/
theorem step_deliver_between {before after : List (CallTask σ ι ρ ε α κ)} {call : κ} {i : ι}
    {k : ρ → Coroutine σ ι ρ ε α} (htasks : p.tasks = before ++ ⟨call, .waiting i k⟩ :: after)
    (answer : ρ) :
    sys.step p (.deliver before.length answer) =
      ⟨((k answer).run p.world).2, before ++ ⟨call, ((k answer).run p.world).1⟩ :: after⟩ := by
  have hwait : p.tasks[before.length]? = some ⟨call, .waiting i k⟩ := by
    rw [htasks, List.getElem?_append_right (Nat.le_refl _), Nat.sub_self, List.getElem?_cons_zero]
  rw [step_deliver answer hwait, htasks, List.set_append_right _ _ (Nat.le_refl _), Nat.sub_self,
    List.set_cons_zero]

/-- The call inside is the only one that can be answered. -/
theorem waiting_between {before after : List (CallTask σ ι ρ ε α κ)} {call : κ} {i : ι}
    {k : ρ → Coroutine σ ι ρ ε α} (htasks : p.tasks = before ++ ⟨call, .waiting i k⟩ :: after)
    (hbefore : CallTask.inFlight before = []) (hafter : CallTask.inFlight after = []) {n : ℕ}
    {call' : κ} {i' : ι} {k' : ρ → Coroutine σ ι ρ ε α}
    (h : p.tasks[n]? = some ⟨call', .waiting i' k'⟩) :
    n = before.length ∧ i' = i ∧ k' = k := by
  rw [htasks] at h
  obtain rfl := CallTask.eq_length_of_waiting hbefore hafter h
  rw [List.getElem?_append_right (Nat.le_refl _), Nat.sub_self, List.getElem?_cons_zero] at h
  cases h
  exact ⟨rfl, rfl, rfl⟩

/-- **One step keeps exclusion.** -/
theorem Exclusive.step (h : sys.Exclusive sec) (hp : Exclusion sec p) (e : Step ρ κ τ) :
    Exclusion sec (sys.step p e) := by
  rcases step_cases sys p e with ⟨call, c, hruns⟩ | ⟨t, rfl, hstep⟩ | hstep
  · cases hruns with
    | spawn =>
        cases hp with
        | free hnone hfree =>
            rw [step_spawn]
            exact exclusion_of_sustains (h.enters _ _ hfree) hnone rfl _
        | inside htasks hbefore hafter hheld hrest =>
            obtain ⟨a, hrun⟩ := h.refuses call _ hheld
            rw [step_spawn, hrun, htasks, List.append_assoc, List.cons_append]
            refine .inside rfl hbefore ?_ hheld hrest
            rw [CallTask.inFlight_append, hafter]
            rfl
    | deliver answer hwait =>
        cases hp with
        | free hnone hfree => exact (not_waiting_of_free hnone hwait).elim
        | inside htasks hbefore hafter hheld hrest =>
            obtain ⟨rfl, rfl, rfl⟩ := waiting_between htasks hbefore hafter hwait
            rw [step_deliver_between htasks]
            exact exclusion_of_sustains (hrest answer _ hheld) hbefore hafter _
  · rw [hstep]
    cases hp with
    | free hnone hfree => exact .free hnone fun hheld => hfree ((h.environment t _).1 hheld)
    | inside htasks hbefore hafter hheld hrest =>
        exact .inside htasks hbefore hafter ((h.environment t _).2 hheld) hrest
  · rw [hstep]
    exact hp

/-- **Exclusion holds along every run** from a state in which the section is free. -/
theorem Exclusive.exclusion (h : sys.Exclusive sec) {s : σ} (hs : ¬ sec.held s)
    (steps : List (Step ρ κ τ)) : Exclusion sec (sys.run s steps) :=
  run_invariant (I := fun p => Exclusion sec p) (.free rfl hs) (fun _ e hp => h.step hp e) steps

/-! ### What exclusion says -/

/-- At most one request is in flight. -/
theorem Exclusion.length_inFlight_le_one (hp : Exclusion sec p) : p.inFlight.length ≤ 1 := by
  cases hp with
  | free hnone _ => simp [hnone]
  | inside htasks hbefore hafter _ _ =>
      unfold Pool.inFlight
      rw [htasks, CallTask.inFlight_between hbefore hafter]
      exact Nat.le_refl 1

/-- The section is held exactly while a request is in flight. -/
theorem Exclusion.held_iff (hp : Exclusion sec p) : sec.held p.world ↔ p.inFlight ≠ [] := by
  cases hp with
  | free hnone hfree => exact iff_of_false hfree fun h => h hnone
  | inside htasks hbefore hafter hheld _ =>
      refine iff_of_true hheld ?_
      unfold Pool.inFlight
      rw [htasks, CallTask.inFlight_between hbefore hafter]
      exact List.cons_ne_nil _ _

/-- **A call that is made while a request is in flight does nothing**: the state stays as it is, and
it awaits nothing. -/
theorem Exclusion.spawn (h : sys.Exclusive sec) (hp : Exclusion sec p) (hbusy : p.inFlight ≠ [])
    (call : κ) :
    (sys.step p (.spawn call)).world = p.world ∧
      (sys.step p (.spawn call)).inFlight = p.inFlight := by
  obtain ⟨a, hrun⟩ := h.refuses call _ (hp.held_iff.2 hbusy)
  rw [inFlight_spawn, step_spawn, hrun]
  exact ⟨rfl, List.append_nil _⟩

/-- **What follows an answer** is nothing, and the section is free, or one request that may follow
the answered one. -/
theorem Exclusion.deliver (hp : Exclusion sec p) {n : ℕ} {call : κ} {i : ι}
    {k : ρ → Coroutine σ ι ρ ε α} (hwait : p.tasks[n]? = some ⟨call, .waiting i k⟩) (answer : ρ) :
    (sys.step p (.deliver n answer)).inFlight = [] ∧
        ¬ sec.held (sys.step p (.deliver n answer)).world ∨
      ∃ j, sec.next i answer j ∧ (sys.step p (.deliver n answer)).inFlight = [j] := by
  cases hp with
  | free hnone hfree => exact (not_waiting_of_free hnone hwait).elim
  | inside htasks hbefore hafter hheld hrest =>
      obtain ⟨rfl, rfl, rfl⟩ := waiting_between htasks hbefore hafter hwait
      unfold Pool.inFlight
      rw [step_deliver_between htasks, CallTask.inFlight_between hbefore hafter]
      have hrun := (hrest answer _ hheld).run
      rcases hk : (k answer).run p.world with ⟨outcome, t⟩
      rw [hk] at hrun
      cases outcome with
      | returned a => exact Or.inl ⟨rfl, hrun⟩
      | raised e => exact Or.inl ⟨rfl, hrun⟩
      | waiting j k' => exact Or.inr ⟨j, hrun.2.1 (i, answer) rfl, rfl⟩

end System

end InFlight

end PlatformOps
