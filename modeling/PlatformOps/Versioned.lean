/-
**Tables whose records carry a version stamp.**

A table maps keys to records, and it changes by writes: a whole record is put under a key, or the
record of a key is modified.  A reader who kept a *snapshot* of one record wants to know later
whether the record is still the one of the snapshot, and compares stamps only.  That is sound for
the payload of the record exactly as far as writers respect the stamp: a write under the snapshot's
key that leaves the stamp where the snapshot has it must leave the payload too.

Main definitions:

* `Table`, `Write`, `Write.apply` — tables and the writes that change them;
* `Runs` — a sequence of attempted writes, each of them applied or refused;
* `Faithful`, `Write.Faithful` — a record, and a write, that respect the stamp of a snapshot.

Main results:

* `Write.Faithful.apply` — a faithful write keeps the record under the key faithful;
* `Runs.faithful` — a run of faithful writes keeps it, whichever of them are refused;
* `Runs.payload_eq` — **after faithful writes, an unchanged stamp means an unchanged payload**.
-/

import Mathlib.Logic.Function.Basic

set_option relaxedAutoImplicit false
set_option autoImplicit false

namespace PlatformOps

namespace Versioned

universe u v w x

/-- A table of records. -/
abbrev Table (κ : Type u) (ρ : Type v) := κ → Option ρ

/-- A write to a table. -/
inductive Write (κ : Type u) (ρ : Type v)
  /-- Store a record under a key, whatever was there. -/
  | put (k : κ) (r : ρ)
  /-- Modify the record of a key, if there is one. -/
  | modify (k : κ) (f : ρ → ρ)

variable {κ : Type u} {ρ : Type v} [DecidableEq κ]

/-- The table after a write. -/
def Write.apply (t : Table κ ρ) : Write κ ρ → Table κ ρ
  | .put k r => Function.update t k (some r)
  | .modify k f => Function.update t k ((t k).map f)

@[simp] theorem apply_put_self (t : Table κ ρ) (k : κ) (r : ρ) :
    (Write.put k r).apply t k = some r := by
  simp [Write.apply]

@[simp] theorem apply_put_of_ne (t : Table κ ρ) {k k' : κ} (r : ρ) (h : k' ≠ k) :
    (Write.put k r).apply t k' = t k' := by
  simp [Write.apply, h]

@[simp] theorem apply_modify_self (t : Table κ ρ) (k : κ) (f : ρ → ρ) :
    (Write.modify k f).apply t k = (t k).map f := by
  simp [Write.apply]

@[simp] theorem apply_modify_of_ne (t : Table κ ρ) {k k' : κ} (f : ρ → ρ) (h : k' ≠ k) :
    (Write.modify k f).apply t k' = t k' := by
  simp [Write.apply, h]

/-- A run of attempted writes: the store applies each of them or refuses it. -/
inductive Runs : Table κ ρ → List (Write κ ρ) → Table κ ρ → Prop
  | done (t : Table κ ρ) : Runs t [] t
  | applied {t t' : Table κ ρ} {w : Write κ ρ} {ws : List (Write κ ρ)} :
      Runs (w.apply t) ws t' → Runs t (w :: ws) t'
  | refused {t t' : Table κ ρ} {w : Write κ ρ} {ws : List (Write κ ρ)} :
      Runs t ws t' → Runs t (w :: ws) t'

/-! ### Respecting the stamp -/

variable {σ : Type w} {π : Type x} (stamp : ρ → σ) (payload : ρ → π)

/-- A record with the stamp of the snapshot has the payload of the snapshot. -/
def Faithful (snapshot r : ρ) : Prop := stamp r = stamp snapshot → payload r = payload snapshot

/-- A write that respects the stamp of a snapshot taken under `k`. -/
def Write.Faithful (k : κ) (snapshot : ρ) : Write κ ρ → Prop
  | .put k' r => k' = k → Versioned.Faithful stamp payload snapshot r
  | .modify k' f => k' = k → ∀ r, stamp (f r) = stamp r ∧ payload (f r) = payload r

variable {stamp payload}

/-- **A faithful write keeps the record under the key faithful.** -/
theorem Write.Faithful.apply {k : κ} {s : ρ} {w : Write κ ρ}
    (hw : w.Faithful stamp payload k s) {t : Table κ ρ}
    (ht : ∀ r ∈ t k, Versioned.Faithful stamp payload s r) :
    ∀ r ∈ w.apply t k, Versioned.Faithful stamp payload s r := by
  intro r hr
  cases w with
  | put k' q =>
      by_cases h : k' = k
      · subst h
        obtain rfl : q = r := by simpa using hr
        exact hw rfl
      · rw [apply_put_of_ne _ _ (Ne.symm h)] at hr
        exact ht r hr
  | modify k' f =>
      by_cases h : k' = k
      · subst h
        rw [apply_modify_self] at hr
        obtain ⟨q, hq, rfl⟩ := Option.map_eq_some_iff.1 hr
        obtain ⟨hstamp, hpayload⟩ := hw rfl q
        intro hs
        rw [hpayload]
        exact ht q hq (hstamp ▸ hs)
      · rw [apply_modify_of_ne _ _ (Ne.symm h)] at hr
        exact ht r hr

/-- **A run of faithful writes keeps the record faithful**, whichever of them are refused. -/
theorem Runs.faithful {k : κ} {s : ρ} {t t' : Table κ ρ} {ws : List (Write κ ρ)}
    (h : Runs t ws t') (hws : ∀ w ∈ ws, w.Faithful stamp payload k s)
    (ht : ∀ r ∈ t k, Versioned.Faithful stamp payload s r) :
    ∀ r ∈ t' k, Versioned.Faithful stamp payload s r := by
  induction h with
  | done => exact ht
  | applied _ ih =>
      rw [List.forall_mem_cons] at hws
      exact ih hws.2 (hws.1.apply ht)
  | refused _ ih =>
      rw [List.forall_mem_cons] at hws
      exact ih hws.2 ht

/-- **After faithful writes an unchanged stamp means an unchanged payload.** -/
theorem Runs.payload_eq {k : κ} {s r : ρ} {t t' : Table κ ρ} {ws : List (Write κ ρ)}
    (h : Runs t ws t') (hws : ∀ w ∈ ws, w.Faithful stamp payload k s) (hs : t k = some s)
    (hr : t' k = some r) (hstamp : stamp r = stamp s) : payload r = payload s := by
  have ht : ∀ q ∈ t k, Versioned.Faithful stamp payload s q := by
    intro q hq
    obtain rfl : s = q := by simpa [hs] using hq
    exact fun _ => rfl
  exact h.faithful hws ht r hr hstamp

end Versioned

end PlatformOps
