/-
**Reasoning about one transaction at a time.**

What a transaction of `PlatformOps/ReadCommitted.lean` has written by the time it commits can be
found out from its program alone: other transactions neither see nor change what it has written,
and a row that it has written is locked, so that the committed version below it stays.  So it is
enough to run through the program once, keeping the rows it has written and the rows it has seen.
What a transaction has seen was committed, and may have evolved since, as far as the updates of the
server let a row evolve.

Main definitions:

* `WriteSet`, `Database.writeSet` — what a transaction has written, over what;
* `WriteSet.Updated` — what an update does to it;
* `Program.Ensures` — what holds of the write set of a program when it commits;
* `Server.Assured` — every transaction is on its way to what its program ensures;
* `Database.Stores` — a row is committed.

Main results:

* `Server.assured_after` — **over every interleaving, a transaction that is about to commit has
  written what its program ensures**;
* `Server.history_effect` — only a commit changes what is committed, and which transactions are;
* `Server.committed_after_append` — a committed row stays, and evolves.
-/

import PlatformOps.ReadCommitted

set_option relaxedAutoImplicit false
set_option autoImplicit false

namespace PlatformOps

namespace ReadCommitted

universe u

variable {L K R α κ : Type u}

/-! ### Write sets -/

/-- For every row that is written, the version that was committed before, if there was one, and the
version that is written. -/
abbrev WriteSet (R : Type u) := ℕ → Option (Option R × R)

/-- Nothing is written. -/
def WriteSet.empty : WriteSet R := fun _ => none

/-- What a transaction has written. -/
def Database.writeSet (db : Database L R α κ) (t : ℕ) : WriteSet R := fun i =>
  match (db.slots i).pending with
  | some (owner, row) => if owner = t then some ((db.slots i).committed, row) else none
  | none => none

namespace Database

variable {db : Database L R α κ} {t : ℕ}

theorem writeSet_eq_some_iff {i : ℕ} {old : Option R} {row : R} :
    db.writeSet t i = some (old, row) ↔
      (db.slots i).pending = some (t, row) ∧ (db.slots i).committed = old := by
  unfold writeSet
  rcases hpending : (db.slots i).pending with _ | ⟨owner, row'⟩
  · simp
  · by_cases howner : owner = t
    · simp [howner, and_comm]
    · simp [howner]

theorem writeSet_eq_none_iff {i : ℕ} :
    db.writeSet t i = none ↔ ∀ row, (db.slots i).pending ≠ some (t, row) := by
  unfold writeSet
  rcases hpending : (db.slots i).pending with _ | ⟨owner, row'⟩
  · simp
  · by_cases howner : owner = t
    · simp [howner]
    · simp [howner]

/-- The write set of a row depends on the row only. -/
theorem writeSet_congr {db' : Database L R α κ} {i : ℕ} (h : db'.slots i = db.slots i) :
    db'.writeSet t i = db.writeSet t i := by
  unfold writeSet
  rw [h]

/-- A transaction that has not begun has written nothing. -/
theorem WellFormed.writeSet_of_fresh (h : db.WellFormed) (hfresh : db.transactions t = none) :
    db.writeSet t = .empty := by
  funext i
  refine writeSet_eq_none_iff.2 fun row hpending => ?_
  obtain ⟨_, _, _, here, -⟩ := h.owner i t row hpending
  rw [hfresh] at here
  cases here

/-- Nothing is written beyond the rows. -/
theorem WellFormed.writeSet_size (h : db.WellFormed) (t : ℕ) : db.writeSet t db.size = none := by
  refine writeSet_eq_none_iff.2 fun row hpending => ?_
  rw [h.beyond db.size le_rfl] at hpending
  cases hpending

theorem writeSet_write_self (i : ℕ) (row : R) :
    (db.write t i row).writeSet t =
      Function.update (db.writeSet t) i (some ((db.slots i).committed, row)) := by
  funext j
  by_cases hj : j = i
  · subst hj
    rw [Function.update_self, writeSet_eq_some_iff, slots_write_self]
    exact ⟨rfl, rfl⟩
  · rw [Function.update_of_ne hj]
    exact writeSet_congr (slots_write_of_ne _ _ hj row)

/-- The write of a transaction leaves what others have written. -/
theorem writeSet_write_of_ne {t' i : ℕ} (ht : t' ≠ t) (hfree : ¬ (db.slots i).LockedFor t)
    (row : R) : (db.write t i row).writeSet t' = db.writeSet t' := by
  funext j
  by_cases hj : j = i
  · subst hj
    have hnew : (db.write t j row).writeSet t' j = none := by
      refine writeSet_eq_none_iff.2 fun row' hpending => ?_
      rw [slots_write_self] at hpending
      cases hpending
      exact ht rfl
    have hold : db.writeSet t' j = none :=
      writeSet_eq_none_iff.2 fun row' hpending => hfree ⟨t', row', hpending, ht⟩
    rw [hnew, hold]
  · exact writeSet_congr (slots_write_of_ne _ _ hj row)

theorem writeSet_append_self (row : R) :
    (db.append t row).writeSet t =
      Function.update (db.writeSet t) db.size (some (none, row)) := by
  funext j
  by_cases hj : j = db.size
  · subst hj
    rw [Function.update_self, writeSet_eq_some_iff, slots_append_self]
    exact ⟨rfl, rfl⟩
  · rw [Function.update_of_ne hj]
    exact writeSet_congr (slots_append_of_ne _ _ hj row)

theorem WellFormed.writeSet_append_of_ne (h : db.WellFormed) {t' : ℕ} (ht : t' ≠ t) (row : R) :
    (db.append t row).writeSet t' = db.writeSet t' := by
  funext j
  by_cases hj : j = db.size
  · subst hj
    rw [h.writeSet_size]
    refine writeSet_eq_none_iff.2 fun row' hpending => ?_
    rw [slots_append_self] at hpending
    cases hpending
    exact ht rfl
  · exact writeSet_congr (slots_append_of_ne _ _ hj row)

theorem writeSet_commit_of_ne {t' : ℕ} (ht : t' ≠ t) (call : κ) (a : α) (snapshot : ℕ) :
    (db.commit t call a snapshot).writeSet t' = db.writeSet t' := by
  funext j
  rcases hold : db.writeSet t' j with _ | ⟨old, row⟩
  · refine writeSet_eq_none_iff.2 fun row hpending => ?_
    exact writeSet_eq_none_iff.1 hold row (Slot.pending_of_commit hpending).1
  · rw [← hold]
    refine writeSet_congr ?_
    rw [slots_commit, Slot.commit_of_pending (writeSet_eq_some_iff.1 hold).1 ht]

theorem writeSet_abort_of_ne {t' : ℕ} (ht : t' ≠ t) (call : κ) (snapshot : ℕ) :
    (db.abort t call snapshot).writeSet t' = db.writeSet t' := by
  funext j
  rcases hold : db.writeSet t' j with _ | ⟨old, row⟩
  · refine writeSet_eq_none_iff.2 fun row hpending => ?_
    exact writeSet_eq_none_iff.1 hold row (Slot.pending_of_rollback hpending).1
  · rw [← hold]
    refine writeSet_congr ?_
    rw [slots_abort, Slot.rollback_of_pending (writeSet_eq_some_iff.1 hold).1 ht]

/-- **A commit puts the write set over what was committed.** -/
theorem committed_commit (t : ℕ) (call : κ) (a : α) (snapshot i : ℕ) :
    ((db.commit t call a snapshot).slots i).committed =
      match db.writeSet t i with
      | some (_, row) => some row
      | none => (db.slots i).committed := by
  rw [slots_commit]
  rcases hwrite : db.writeSet t i with _ | ⟨old, row⟩
  · rcases (db.slots i).commit_cases t (db.clock + 1) with ⟨row, hpending, -⟩ | ⟨-, hslot⟩
    · exact absurd hpending (writeSet_eq_none_iff.1 hwrite row)
    · rw [hslot]
  · exact Slot.committed_commit_of_pending (writeSet_eq_some_iff.1 hwrite).1

/-- What is committed once a transaction commits is written by it, or was committed before. -/
theorem committed_commit_cases (t : ℕ) (call : κ) (a : α) (snapshot : ℕ) {i : ℕ} {row : R}
    (h : ((db.commit t call a snapshot).slots i).committed = some row) :
    (∃ old, db.writeSet t i = some (old, row) ∧ (db.slots i).committed = old) ∨
      (db.slots i).committed = some row := by
  rw [committed_commit] at h
  rcases hwrite : db.writeSet t i with _ | ⟨old, new⟩
  · rw [hwrite] at h
    exact Or.inr h
  · rw [hwrite] at h
    cases h
    exact Or.inl ⟨old, rfl, (writeSet_eq_some_iff.1 hwrite).2⟩

/-- What a transaction that commits has written is committed. -/
theorem committed_of_writeSet (call : κ) (a : α) (snapshot : ℕ) {i : ℕ} {old : Option R} {row : R}
    (h : db.writeSet t i = some (old, row)) :
    ((db.commit t call a snapshot).slots i).committed = some row := by
  rw [committed_commit, h]

end Database

/-! ### What is among the rows that are written -/

namespace WriteSet

variable {w : WriteSet R} {P : Option R → R → Prop}

/-- All that is written is so. -/
def Only (P : Option R → R → Prop) (w : WriteSet R) : Prop :=
  ∀ i old new, w i = some (old, new) → P old new

/-- The version is written, over the old one. -/
def Has (w : WriteSet R) (old : Option R) (new : R) : Prop := ∃ i, w i = some (old, new)

theorem only_empty : (WriteSet.empty : WriteSet R).Only P := by
  intro i old new h
  cases h

/-- A row is inserted among those that are written. -/
theorem Only.insert (h : w.Only P) {i : ℕ} {row : R} (hrow : P none row) :
    WriteSet.Only P (Function.update w i (some (none, row))) := by
  intro j old new hwrite
  by_cases hj : j = i
  · subst hj
    rw [Function.update_self] at hwrite
    cases hwrite
    exact hrow
  · rw [Function.update_of_ne hj] at hwrite
    exact h j old new hwrite

theorem has_insert_self (i : ℕ) (row : R) :
    WriteSet.Has (Function.update w i (some (none, row))) none row :=
  ⟨i, Function.update_self ..⟩

theorem Has.insert {old : Option R} {new : R} (h : w.Has old new) {i : ℕ} (hi : w i = none)
    (row : R) : WriteSet.Has (Function.update w i (some (none, row))) old new := by
  obtain ⟨j, hj⟩ := h
  refine ⟨j, ?_⟩
  have hne : j ≠ i := by
    rintro rfl
    rw [hi] at hj
    cases hj
  rw [Function.update_of_ne hne]
  exact hj

end WriteSet

/-! ### Updates -/

/-- A row that an update has come to and written: it matched, and was written before or not. -/
def WriteSet.Touched (w w' : WriteSet R) (filter : R → Bool) (set : R → R) (i : ℕ)
    (old : Option R) (row : R) : Prop :=
  filter row = true ∧ w' i = some (old, set row) ∧
    (w i = some (old, row) ∨ w i = none ∧ old = some row)

/-- What an update has done that has still to come to some rows. -/
structure WriteSet.Updated (w w' : WriteSet R) (filter : R → Bool) (set : R → R)
    (targets : List ℕ) (returned : List R) : Prop where
  left : ∀ i ∈ targets, w' i = w i
  own : ∀ i old row, i ∉ targets → w i = some (old, row) →
    w' i = some (old, if filter row = true then set row else row)
  other : ∀ i, i ∉ targets → w i = none →
    w' i = none ∨ ∃ row, filter row = true ∧ w' i = some (some row, set row)
  returned_iff : ∀ row', row' ∈ returned ↔
    ∃ i old row, i ∉ targets ∧ w.Touched w' filter set i old row ∧ row' = set row

namespace WriteSet.Updated

variable {w w' : WriteSet R} {filter : R → Bool} {set : R → R} {targets : List ℕ}
  {returned : List R}

/-- An update begins: the rows that are written and match are among those it will come to. -/
theorem start (h : ∀ i old row, w i = some (old, row) → filter row = true → i ∈ targets) :
    w.Updated w filter set targets [] := by
  constructor
  · exact fun _ _ => rfl
  · intro i old row hi hrow
    have hfilter : ¬ filter row = true := fun hfilter => hi (h i old row hrow hfilter)
    rw [if_neg hfilter, hrow]
  · exact fun i _ hnone => Or.inl hnone
  · intro row'
    constructor
    · intro hmem
      cases hmem
    · rintro ⟨i, old, row, hi, ⟨hfilter, hsome, hrow | ⟨hnone, -⟩⟩, -⟩
      · exact absurd (h i old row hrow hfilter) hi
      · rw [hnone] at hsome
        cases hsome

theorem notMem_filter_iff {i j : ℕ} :
    j ∉ targets.filter (· ≠ i) ↔ j ∉ targets ∨ j = i := by
  simp [or_iff_not_imp_left]

/-- An update writes a row. -/
theorem write (h : w.Updated w' filter set targets returned) {i : ℕ} {old : Option R} {row : R}
    (hi : i ∈ targets) (hrow : w i = some (old, row) ∨ w i = none ∧ old = some row)
    (hfilter : filter row = true) :
    w.Updated (Function.update w' i (some (old, set row))) filter set (targets.filter (· ≠ i))
      (returned ++ [set row]) := by
  constructor
  · intro j hj
    obtain ⟨hmem, hne⟩ := List.mem_filter.1 hj
    rw [Function.update_of_ne (by simpa using hne)]
    exact h.left j hmem
  · intro j old' row' hj hown
    by_cases hji : j = i
    · subst hji
      rcases hrow with hrow | ⟨hnone, -⟩
      · rw [hown] at hrow
        cases hrow
        rw [Function.update_self, if_pos hfilter]
      · rw [hown] at hnone
        cases hnone
    · rw [Function.update_of_ne hji]
      exact h.own j old' row' ((notMem_filter_iff.1 hj).resolve_right hji) hown
  · intro j hj hnone
    by_cases hji : j = i
    · subst hji
      rcases hrow with hrow | ⟨-, rfl⟩
      · rw [hnone] at hrow
        cases hrow
      · rw [Function.update_self]
        exact Or.inr ⟨row, hfilter, rfl⟩
    · rw [Function.update_of_ne hji]
      exact h.other j ((notMem_filter_iff.1 hj).resolve_right hji) hnone
  · intro row'
    rw [List.mem_append, List.mem_singleton, h.returned_iff]
    constructor
    · rintro (⟨j, old', row₀, hj, ⟨hmatch, hsome, hwas⟩, rfl⟩ | rfl)
      · have hji : j ≠ i := by
          rintro rfl
          exact hj hi
        refine ⟨j, old', row₀, notMem_filter_iff.2 (Or.inl hj), ⟨hmatch, ?_, hwas⟩, rfl⟩
        rw [Function.update_of_ne hji]
        exact hsome
      · exact ⟨i, old, row, notMem_filter_iff.2 (Or.inr rfl),
          ⟨hfilter, Function.update_self .., hrow⟩, rfl⟩
    · rintro ⟨j, old', row₀, hj, ⟨hmatch, hsome, hwas⟩, rfl⟩
      by_cases hji : j = i
      · subst hji
        rw [Function.update_self] at hsome
        have hset : set row₀ = set row := (Prod.mk.inj (Option.some.inj hsome)).2.symm
        exact Or.inr hset
      · rw [Function.update_of_ne hji] at hsome
        exact Or.inl ⟨j, old', row₀, (notMem_filter_iff.1 hj).resolve_right hji,
          ⟨hmatch, hsome, hwas⟩, rfl⟩

/-- An update skips a row that does not match. -/
theorem skip (h : w.Updated w' filter set targets returned) {i : ℕ} (hi : i ∈ targets)
    (hrow : ∀ old row, w i = some (old, row) → filter row = false) :
    w.Updated w' filter set (targets.filter (· ≠ i)) returned := by
  have hsame : w' i = w i := h.left i hi
  constructor
  · intro j hj
    exact h.left j (List.mem_filter.1 hj).1
  · intro j old row hj hown
    rcases notMem_filter_iff.1 hj with hj | rfl
    · exact h.own j old row hj hown
    · rw [hsame, hown, hrow old row hown]
      rfl
  · intro j hj hnone
    rcases notMem_filter_iff.1 hj with hj | rfl
    · exact h.other j hj hnone
    · exact Or.inl (hsame.trans hnone)
  · intro row'
    rw [h.returned_iff]
    constructor
    · rintro ⟨j, old, row, hj, htouched, rfl⟩
      exact ⟨j, old, row, notMem_filter_iff.2 (Or.inl hj), htouched, rfl⟩
    · rintro ⟨j, old, row, hj, ⟨hmatch, hsome, hwas⟩, rfl⟩
      rcases notMem_filter_iff.1 hj with hj | rfl
      · exact ⟨j, old, row, hj, ⟨hmatch, hsome, hwas⟩, rfl⟩
      · -- a row that is skipped is as it was, and one that was written did not match
        rcases hwas with hown | ⟨hnone, -⟩
        · rw [hrow old row hown] at hmatch
          cases hmatch
        · rw [hsame, hnone] at hsome
          cases hsome

end WriteSet.Updated

/-- **The first update of a transaction** writes committed rows that match, and returns what it has
written. -/
theorem WriteSet.Updated.of_empty {w : WriteSet R} {filter : R → Bool} {set : R → R}
    {returned : List R} (h : WriteSet.empty.Updated w filter set [] returned) :
    (∀ i old new, w i = some (old, new) → ∃ row, filter row = true ∧ old = some row ∧ new = set row) ∧
      ∀ row' ∈ returned, ∃ i row, filter row = true ∧ w i = some (some row, set row) := by
  constructor
  · intro i old new hrow
    rcases h.other i List.not_mem_nil rfl with hnone | ⟨row, hfilter, hnew⟩
    · rw [hrow] at hnone
      cases hnone
    · rw [hrow] at hnew
      cases hnew
      exact ⟨row, hfilter, rfl, rfl⟩
  · intro row' hrow'
    obtain ⟨i, old, row, -, ⟨hfilter, hnew, hold | ⟨-, rfl⟩⟩, -⟩ := (h.returned_iff row').1 hrow'
    · cases hold
    · exact ⟨i, row, hfilter, hnew⟩

/-- What an update leaves of what all the rows that are written have in common. -/
theorem WriteSet.Updated.only {w w' : WriteSet R} {P : Option R → R → Prop} {filter : R → Bool}
    {set : R → R} {returned : List R} (h : w.Updated w' filter set [] returned) (honly : w.Only P)
    (hown : ∀ old row, P old row → filter row = true → P old (set row))
    (hother : ∀ row, filter row = true → P (some row) (set row)) : w'.Only P := by
  intro i old new hwrite
  rcases hwas : w i with _ | ⟨old', row⟩
  · rcases h.other i List.not_mem_nil hwas with hnone | ⟨row, hfilter, hnew⟩
    · rw [hwrite] at hnone
      cases hnone
    · rw [hwrite] at hnew
      cases hnew
      exact hother row hfilter
  · rw [h.own i old' row List.not_mem_nil hwas] at hwrite
    cases hwrite
    by_cases hfilter : filter row = true
    · rw [if_pos hfilter]
      exact hown old row (honly i old row hwas) hfilter
    · rw [if_neg hfilter]
      exact honly i old row hwas

/-- What becomes of a row that is written, when an update goes over it. -/
theorem WriteSet.Updated.has {w w' : WriteSet R} {filter : R → Bool} {set : R → R}
    {returned : List R} (h : w.Updated w' filter set [] returned) {old : Option R} {row : R}
    (hrow : w.Has old row) : w'.Has old (if filter row = true then set row else row) := by
  obtain ⟨i, hi⟩ := hrow
  exact ⟨i, h.own i old row List.not_mem_nil hi⟩

/-- Rows are written as they were committed: they are locked. -/
def WriteSet.OnlyLocks (w : WriteSet R) : Prop := ∀ i old row, w i = some (old, row) → old = some row

theorem WriteSet.onlyLocks_empty : (WriteSet.empty : WriteSet R).OnlyLocks := by
  intro i old row h
  cases h

/-- **A statement that locks rows only** leaves what was locked, and returns rows that it has
locked. -/
theorem WriteSet.Updated.locks {w w' : WriteSet R} {filter : R → Bool} {returned : List R}
    (h : w.Updated w' filter id [] returned) (hlocks : w.OnlyLocks) :
    w'.OnlyLocks ∧ (∀ i old row, w i = some (old, row) → w' i = some (old, row)) ∧
      ∀ row ∈ returned, filter row = true ∧ ∃ i, w' i = some (some row, row) := by
  have hkeep : ∀ i old row, w i = some (old, row) → w' i = some (old, row) := by
    intro i old row hrow
    have hown := h.own i old row List.not_mem_nil hrow
    rw [id, ite_self] at hown
    exact hown
  have honly : w'.OnlyLocks := by
    intro i old row hrow
    rcases hwas : w i with _ | ⟨old', row'⟩
    · rcases h.other i List.not_mem_nil hwas with hnone | ⟨row', -, hnew⟩
      · rw [hrow] at hnone
        cases hnone
      · rw [hrow] at hnew
        cases hnew
        rfl
    · rw [hkeep i old' row' hwas] at hrow
      cases hrow
      exact hlocks i old row hwas
  refine ⟨honly, hkeep, ?_⟩
  intro row hrow
  obtain ⟨i, old, row', -, ⟨hfilter, hnew, -⟩, rfl⟩ := (h.returned_iff row).1 hrow
  have hold := honly i old _ hnew
  rw [hold] at hnew
  exact ⟨hfilter, i, hnew⟩

/-! ### What a program ensures -/

section
variable (rel : R → R → Prop)

/-- What holds when a program commits, of the rows it has seen, of what it has written and of its
value, whatever is committed around it.  Its updates let rows evolve. -/
def Program.Ensures (Q : Set R → WriteSet R → α → Prop) :
    Program L R α → Set R → WriteSet R → Prop
  | .ret a, seen, w => Q seen w a
  | .lock _ next, seen, w => next.Ensures Q seen w
  | .select next, seen, w => ∀ (rows : List R) (found : Set R),
      (∀ row ∈ rows, row ∈ found ∨ ∃ i old, w i = some (old, row)) →
        (next rows).Ensures Q (seen ∪ found) w
  | .update filter set next, seen, w => (∀ row, filter row = true → rel row (set row)) ∧
      ∀ w' returned, w.Updated w' filter set [] returned → (next returned).Ensures Q seen w'
  | .insert row next, seen, w => ∀ i, w i = none →
      next.Ensures Q seen (Function.update w i (some (none, row)))

section
variable {rel} {Q : Set R → WriteSet R → α → Prop} {seen : Set R} {w : WriteSet R}

@[simp] theorem Program.ensures_ret {a : α} :
    (.ret a : Program L R α).Ensures rel Q seen w ↔ Q seen w a := Iff.rfl

@[simp] theorem Program.ensures_lock {key : L} {next : Program L R α} :
    (Program.lock key next).Ensures rel Q seen w ↔ next.Ensures rel Q seen w := Iff.rfl

@[simp] theorem Program.ensures_select {next : List R → Program L R α} :
    (Program.select next).Ensures rel Q seen w ↔ ∀ (rows : List R) (found : Set R),
      (∀ row ∈ rows, row ∈ found ∨ ∃ i old, w i = some (old, row)) →
        (next rows).Ensures rel Q (seen ∪ found) w := Iff.rfl

@[simp] theorem Program.ensures_update {filter : R → Bool} {set : R → R}
    {next : List R → Program L R α} :
    (Program.update filter set next).Ensures rel Q seen w ↔
      (∀ row, filter row = true → rel row (set row)) ∧
        ∀ w' returned, w.Updated w' filter set [] returned →
          (next returned).Ensures rel Q seen w' := Iff.rfl

@[simp] theorem Program.ensures_insert {row : R} {next : Program L R α} :
    (Program.insert row next).Ensures rel Q seen w ↔ ∀ i, w i = none →
      next.Ensures rel Q seen (Function.update w i (some (none, row))) := Iff.rfl

end

/-- What holds of a transaction that has not ended. -/
def Phase.Ensures (Q : Set R → WriteSet R → α → Prop) (seen : Set R) (w : WriteSet R) :
    Phase L R α → Prop
  | .ready program => program.Ensures rel Q seen w
  | .updating targets filter set returned next =>
      (∀ row, filter row = true → rel row (set row)) ∧
        ∃ before, WriteSet.Updated before w filter set targets returned ∧
          ∀ w' returned', before.Updated w' filter set [] returned' →
            (next returned').Ensures rel Q seen w'
  | .committed _ => True
  | .aborted => True

/-- The rows were committed, and may have evolved since. -/
def Database.Seen (db : Database L R α κ) (seen : Set R) : Prop :=
  ∀ row ∈ seen, ∃ i row', (db.slots i).committed = some row' ∧ rel row row'

/-- Every transaction is on its way to what its program ensures, and lets the rows it writes
evolve. -/
structure Server.Assured (Q : κ → Set R → WriteSet R → α → Prop) (db : Database L R α κ) :
    Prop where
  phases : ∀ t call phase snapshot, db.transactions t = some ⟨call, phase, snapshot⟩ →
    ∃ seen, db.Seen rel seen ∧ phase.Ensures rel (Q call) seen (db.writeSet t)
  evolves : ∀ t i old new, db.writeSet t i = some (some old, new) → rel old new

end

variable {rel : R → R → Prop} {Q : κ → Set R → WriteSet R → α → Prop} {db db' : Database L R α κ}

theorem Database.seen_empty : db.Seen rel ∅ := fun _ hrow => absurd hrow (Set.notMem_empty _)

/-- What was seen is seen where the rows have evolved. -/
theorem Database.Seen.mono (htrans : ∀ a b c, rel a b → rel b c → rel a c) {seen : Set R}
    (h : db.Seen rel seen)
    (hevolves : ∀ i row, (db.slots i).committed = some row →
      ∃ row', (db'.slots i).committed = some row' ∧ rel row row') : db'.Seen rel seen := by
  intro row hrow
  obtain ⟨i, row', hcommitted, hrel⟩ := h row hrow
  obtain ⟨row'', hcommitted', hrel'⟩ := hevolves i row' hcommitted
  exact ⟨i, row'', hcommitted', htrans _ _ _ hrel hrel'⟩

namespace Server.Assured

variable {t : ℕ} {call : κ} {phase : Phase L R α} {snapshot : ℕ}

/-- What is committed evolves when a transaction commits. -/
theorem evolves_commit (h : Assured rel Q db) (hrefl : ∀ a, rel a a) (t : ℕ) (call : κ) (a : α)
    (snapshot i : ℕ) (row : R) (hrow : (db.slots i).committed = some row) :
    ∃ row', ((db.commit t call a snapshot).slots i).committed = some row' ∧ rel row row' := by
  rw [Database.committed_commit]
  rcases hwrite : db.writeSet t i with _ | ⟨old, new⟩
  · exact ⟨row, hrow, hrefl row⟩
  · obtain rfl : some row = old := hrow.symm.trans (Database.writeSet_eq_some_iff.1 hwrite).2
    exact ⟨new, rfl, h.evolves t i row new hwrite⟩

/-- **The frame rule**: a step of one transaction leaves what the others have written, and lets the
rows evolve that they have seen. -/
theorem frame (h : Assured rel Q db) (htrans : ∀ a b c, rel a b → rel b c → rel a c) (t : ℕ)
    (hothers : ∀ t' ≠ t, db'.transactions t' = db.transactions t' ∧
      db'.writeSet t' = db.writeSet t')
    (hcommitted : ∀ i row, (db.slots i).committed = some row →
      ∃ row', (db'.slots i).committed = some row' ∧ rel row row')
    (hphase : ∀ call phase snapshot, db'.transactions t = some ⟨call, phase, snapshot⟩ →
      ∃ seen, db'.Seen rel seen ∧ phase.Ensures rel (Q call) seen (db'.writeSet t))
    (hevolves : ∀ i old new, db'.writeSet t i = some (some old, new) → rel old new) :
    Assured rel Q db' := by
  constructor
  · intro t' call phase snapshot here
    by_cases ht : t' = t
    · subst ht
      exact hphase call phase snapshot here
    · obtain ⟨hsame, hwrites⟩ := hothers t' ht
      rw [hsame] at here
      obtain ⟨seen, hseen, hensures⟩ := h.phases t' call phase snapshot here
      rw [hwrites]
      exact ⟨seen, hseen.mono htrans hcommitted, hensures⟩
  · intro t' i old new hwrite
    by_cases ht : t' = t
    · subst ht
      exact hevolves i old new hwrite
    · rw [(hothers t' ht).2] at hwrite
      exact h.evolves t' i old new hwrite

/-- A transaction goes on, and no row changes. -/
theorem setTransaction (h : Assured rel Q db) {seen : Set R} (hseen : db.Seen rel seen)
    (hensures : phase.Ensures rel (Q call) seen (db.writeSet t)) :
    Assured rel Q (db.setTransaction t ⟨call, phase, snapshot⟩) := by
  constructor
  · intro t' call' phase' snapshot' here
    rcases Database.transactions_setTransaction_cases here with ⟨rfl, hset⟩ | ⟨-, hold⟩
    · cases hset
      exact ⟨seen, hseen, hensures⟩
    · exact h.phases t' call' phase' snapshot' hold
  · exact h.evolves

/-- An update writes a row. -/
theorem write (h : Assured rel Q db) (hrefl : ∀ a, rel a a)
    (htrans : ∀ a b c, rel a b → rel b c → rel a c) {i : ℕ} {targets : List ℕ} {filter : R → Bool}
    {set : R → R} {returned : List R} {next : List R → Program L R α} {row : R}
    (here : db.transactions t = some ⟨call, .updating targets filter set returned next, snapshot⟩)
    (target : i ∈ targets) (free : ¬ (db.slots i).LockedFor t)
    (seen : (db.slots i).seenBy t = some row) (matched : filter row = true) :
    Assured rel Q ((db.write t i (set row)).setTransaction t ⟨call,
      .updating (targets.filter (· ≠ i)) filter set (returned ++ [set row]) next, snapshot⟩) := by
  obtain ⟨known, hknown, hset, before, hupdated, hnext⟩ := h.phases t _ _ _ here
  -- what is written of the row so far
  have hwas : db.writeSet t i = some ((db.slots i).committed, row) ∨
      db.writeSet t i = none ∧ (db.slots i).committed = some row := by
    rcases Slot.seenBy_eq_some seen with hown | ⟨hcommitted, hnot⟩
    · exact Or.inl (Database.writeSet_eq_some_iff.2 ⟨hown, rfl⟩)
    · exact Or.inr ⟨Database.writeSet_eq_none_iff.2 hnot, hcommitted⟩
  have hcommitted : ∀ j row', (db.slots j).committed = some row' →
      ∃ row'', (((db.write t i (set row)).setTransaction t ⟨call,
        .updating (targets.filter (· ≠ i)) filter set (returned ++ [set row]) next,
        snapshot⟩).slots j).committed = some row'' ∧ rel row' row'' := by
    intro j row' hrow'
    refine ⟨row', ?_, hrefl row'⟩
    rw [Database.slots_setTransaction]
    by_cases hj : j = i
    · subst hj
      rw [Database.slots_write_self]
      exact hrow'
    · rw [Database.slots_write_of_ne _ _ hj]
      exact hrow'
  refine h.frame htrans t ?_ hcommitted ?_ ?_
  · intro t' ht
    exact ⟨Database.transactions_setTransaction_of_ne _ _ _ ht,
      Database.writeSet_write_of_ne ht free (set row)⟩
  · intro call' phase' snapshot' here'
    rw [Database.transactions_setTransaction_self] at here'
    cases here'
    refine ⟨known, hknown.mono htrans hcommitted, hset, before, ?_, hnext⟩
    have hleft : db.writeSet t i = before i := hupdated.left i target
    rw [hleft] at hwas
    have hwrite := hupdated.write target hwas matched
    rw [← Database.writeSet_write_self] at hwrite
    exact hwrite
  · intro j old new hwrite
    have hwrite' : (db.write t i (set row)).writeSet t j = some (some old, new) := hwrite
    rw [Database.writeSet_write_self] at hwrite'
    by_cases hj : j = i
    · subst hj
      rw [Function.update_self] at hwrite'
      have hpair := Prod.mk.inj (Option.some.inj hwrite')
      rw [← hpair.2]
      rcases hwas with hown | ⟨-, hbelow⟩
      · rw [hpair.1] at hown
        exact htrans _ _ _ (h.evolves t j old row hown) (hset row matched)
      · rw [hpair.1] at hbelow
        obtain rfl : old = row := Option.some.inj hbelow
        exact hset old matched
    · rw [Function.update_of_ne hj] at hwrite'
      exact h.evolves t j old new hwrite'

/-- A row is inserted. -/
theorem insert (h : Assured rel Q db) (hrefl : ∀ a, rel a a)
    (htrans : ∀ a b c, rel a b → rel b c → rel a c) (hwell : db.WellFormed) {row : R}
    {next : Program L R α}
    (here : db.transactions t = some ⟨call, .ready (.insert row next), snapshot⟩) :
    Assured rel Q ((db.append t row).setTransaction t ⟨call, .ready next, snapshot⟩) := by
  obtain ⟨known, hknown, hprogram⟩ := h.phases t _ _ _ here
  have hcommitted : ∀ j row', (db.slots j).committed = some row' →
      ∃ row'', (((db.append t row).setTransaction t ⟨call, .ready next, snapshot⟩).slots
        j).committed = some row'' ∧ rel row' row'' := by
    intro j row' hrow'
    refine ⟨row', ?_, hrefl row'⟩
    rw [Database.slots_setTransaction, hwell.committed_append]
    exact hrow'
  refine h.frame htrans t ?_ hcommitted ?_ ?_
  · intro t' ht
    exact ⟨Database.transactions_setTransaction_of_ne _ _ _ ht, hwell.writeSet_append_of_ne ht row⟩
  · intro call' phase' snapshot' here'
    rw [Database.transactions_setTransaction_self] at here'
    cases here'
    refine ⟨known, hknown.mono htrans hcommitted, ?_⟩
    have hnext := hprogram db.size (hwell.writeSet_size t)
    rw [← Database.writeSet_append_self] at hnext
    exact hnext
  · intro j old new hwrite
    have hwrite' : (db.append t row).writeSet t j = some (some old, new) := hwrite
    rw [Database.writeSet_append_self] at hwrite'
    by_cases hj : j = db.size
    · subst hj
      rw [Function.update_self] at hwrite'
      cases hwrite'
    · rw [Function.update_of_ne hj] at hwrite'
      exact h.evolves t j old new hwrite'

/-- A transaction commits. -/
theorem commit (h : Assured rel Q db) (hrefl : ∀ a, rel a a)
    (htrans : ∀ a b c, rel a b → rel b c → rel a c) (t : ℕ) (call : κ) (a : α) (snapshot : ℕ) :
    Assured rel Q (db.commit t call a snapshot) := by
  refine h.frame htrans t ?_ (h.evolves_commit hrefl t call a snapshot) ?_ ?_
  · intro t' ht
    exact ⟨Database.transactions_commit_of_ne _ _ ht call a snapshot,
      Database.writeSet_commit_of_ne ht call a snapshot⟩
  · intro call' phase' snapshot' here'
    rw [Database.transactions_commit_self] at here'
    cases here'
    exact ⟨∅, Database.seen_empty, trivial⟩
  · intro i old new hwrite
    exact absurd rfl (Slot.pending_of_commit (Database.writeSet_eq_some_iff.1 hwrite).1).2.1

/-- A transaction is aborted. -/
theorem abort (h : Assured rel Q db) (hrefl : ∀ a, rel a a)
    (htrans : ∀ a b c, rel a b → rel b c → rel a c) (t : ℕ) (call : κ) (snapshot : ℕ) :
    Assured rel Q (db.abort t call snapshot) := by
  refine h.frame htrans t ?_ ?_ ?_ ?_
  · intro t' ht
    exact ⟨Database.transactions_abort_of_ne _ _ ht call snapshot,
      Database.writeSet_abort_of_ne ht call snapshot⟩
  · intro i row hrow
    exact ⟨row, (Slot.committed_rollback t (db.slots i)).trans hrow, hrefl row⟩
  · intro call' phase' snapshot' here'
    rw [Database.transactions_abort_self] at here'
    cases here'
    exact ⟨∅, Database.seen_empty, trivial⟩
  · intro i old new hwrite
    exact absurd rfl (Slot.pending_of_rollback (Database.writeSet_eq_some_iff.1 hwrite).1).2

end Server.Assured

namespace Server

variable {server : Server L K R α κ} {e : ReadCommitted.Step κ}

/-- What a transaction has written that is about to commit. -/
theorem Assured.about_to_commit (h : Assured rel Q db) {t : ℕ} {call : κ} {a : α} {snapshot : ℕ}
    (here : db.transactions t = some ⟨call, .ready (.ret a), snapshot⟩) :
    ∃ seen, db.Seen rel seen ∧ Q call seen (db.writeSet t) a :=
  h.phases t _ _ _ here

variable [DecidableEq L]

/-- **Only a commit changes what is committed, and which transactions are.** -/
theorem history_effect (hwell : db.WellFormed) (heffect : server.Effect db e db') :
    (∃ t call a snapshot, e = .commit t ∧
        db.transactions t = some ⟨call, .ready (.ret a), snapshot⟩ ∧
        db' = db.commit t call a snapshot) ∨
      (∀ i, (db'.slots i).committed = (db.slots i).committed) ∧
        ∀ t call a snapshot, db'.transactions t = some ⟨call, .committed a, snapshot⟩ ↔
          db.transactions t = some ⟨call, .committed a, snapshot⟩ := by
  by_cases hcommit : ∃ t call a snapshot, e = .commit t ∧
      db.transactions t = some ⟨call, .ready (.ret a), snapshot⟩ ∧
      db' = db.commit t call a snapshot
  · exact Or.inl hcommit
  · refine Or.inr ⟨(committed_effect hwell heffect).resolve_left hcommit, ?_⟩
    -- a transaction that goes on was not committed, and is not
    have hset : ∀ {db' : Database L R α κ} {t : ℕ} {transaction : Transaction L R α κ},
        db'.transactions = Function.update db.transactions t (some transaction) →
        (∀ a, transaction.phase ≠ .committed a) →
        (∀ call a snapshot, db.transactions t ≠ some ⟨call, .committed a, snapshot⟩) →
        ∀ t' call a snapshot, db'.transactions t' = some ⟨call, .committed a, snapshot⟩ ↔
          db.transactions t' = some ⟨call, .committed a, snapshot⟩ := by
      intro db' t transaction htransactions hphase hold t' call a snapshot
      rw [htransactions]
      by_cases ht : t' = t
      · subst ht
        rw [Function.update_self]
        constructor
        · intro h
          cases h
          exact absurd rfl (hphase a)
        · intro h
          exact absurd h (hold call a snapshot)
      · rw [Function.update_of_ne ht]
    have hgoing : ∀ {t : ℕ} {call : κ} {phase : Phase L R α} {snapshot : ℕ},
        db.transactions t = some ⟨call, phase, snapshot⟩ → phase.Going →
        ∀ call a snapshot, db.transactions t ≠ some ⟨call, .committed a, snapshot⟩ := by
      intro t call phase snapshot here going call' a snapshot' h
      rw [here] at h
      cases h
      cases going
    cases heffect with
    | none => exact fun _ _ _ _ => Iff.rfl
    | began fresh =>
        refine hset rfl (fun a h => ?_) fun call a snapshot h => ?_
        · cases h
        · rw [fresh] at h
          cases h
    | locked here free => exact hset rfl (fun a h => by cases h) (hgoing here (.ready _))
    | selected here => exact hset rfl (fun a h => by cases h) (hgoing here (.ready _))
    | started here => exact hset rfl (fun a h => by cases h) (hgoing here (.ready _))
    | wrote here target free seen matched =>
        exact hset rfl (fun a h => by cases h) (hgoing here (.updating _ _ _ _ _))
    | skipped here target free unmatched =>
        exact hset rfl (fun a h => by cases h) (hgoing here (.updating _ _ _ _ _))
    | ended here => exact hset rfl (fun a h => by cases h) (hgoing here (.updating _ _ _ _ _))
    | inserted here free accepts => exact hset rfl (fun a h => by cases h) (hgoing here (.ready _))
    | committed here => exact absurd ⟨_, _, _, _, rfl, here, rfl⟩ hcommit
    | aborted here going => exact hset rfl (fun a h => by cases h) (hgoing here going)

/-- **Every effect keeps the transactions on their way.** -/
theorem assured_effect (hrefl : ∀ a, rel a a) (htrans : ∀ a b c, rel a b → rel b c → rel a c)
    (hmain : ∀ call, (server.main call).Ensures rel (Q call) ∅ .empty) (hwell : db.WellFormed)
    (h : Assured rel Q db) (heffect : server.Effect db e db') : Assured rel Q db' := by
  cases heffect with
  | none => exact h
  | began fresh =>
      rename_i t call
      refine h.setTransaction Database.seen_empty ?_
      rw [hwell.writeSet_of_fresh fresh]
      exact hmain call
  | locked here free =>
      rename_i t call snapshot key next
      obtain ⟨seen, hseen, hprogram⟩ := h.phases _ _ _ _ here
      have htake : Assured rel Q (db.take t key) := ⟨h.phases, h.evolves⟩
      exact htake.setTransaction hseen hprogram
  | selected here =>
      rename_i t call snapshot next
      obtain ⟨seen, hseen, hprogram⟩ := h.phases _ _ _ _ here
      have hrows := hprogram (db.visible t) {row | ∃ i, (db.slots i).committed = some row} ?_
      · refine h.setTransaction ?_ hrows
        rintro row (hrow | ⟨i, hrow⟩)
        · exact hseen row hrow
        · exact ⟨i, row, hrow, hrefl row⟩
      · intro row hrow
        obtain ⟨i, -, hseenBy⟩ := Database.mem_visible.1 hrow
        rcases Slot.seenBy_eq_some hseenBy with hown | ⟨hcommitted, -⟩
        · exact Or.inr ⟨i, _, Database.writeSet_eq_some_iff.2 ⟨hown, rfl⟩⟩
        · exact Or.inl ⟨i, hcommitted⟩
  | started here =>
      rename_i t call snapshot filter set next
      obtain ⟨seen, hseen, hset, hprogram⟩ := h.phases _ _ _ _ here
      refine h.setTransaction hseen ⟨hset, db.writeSet t, .start ?_, hprogram⟩
      -- the rows that the transaction has written are visible to it
      intro i old row hwrite hfilter
      have hpending := (Database.writeSet_eq_some_iff.1 hwrite).1
      exact Database.mem_targets.2 ⟨hwell.lt_size_of_pending hpending, row,
        Slot.seenBy_of_pending hpending, hfilter⟩
  | wrote here target free seen matched => exact h.write hrefl htrans here target free seen matched
  | skipped here target free unmatched =>
      obtain ⟨seen, hseen, hset, before, hupdated, hnext⟩ := h.phases _ _ _ _ here
      refine h.setTransaction hseen ⟨hset, before, hupdated.skip target ?_, hnext⟩
      intro old row hwas
      rw [← hupdated.left _ target] at hwas
      exact unmatched row (Slot.seenBy_of_pending (Database.writeSet_eq_some_iff.1 hwas).1)
  | ended here =>
      obtain ⟨seen, hseen, -, before, hupdated, hnext⟩ := h.phases _ _ _ _ here
      exact h.setTransaction hseen (hnext _ _ hupdated)
  | inserted here free accepts => exact h.insert hrefl htrans hwell here
  | committed here => exact h.commit hrefl htrans _ _ _ _
  | aborted here going => exact h.abort hrefl htrans _ _ _

variable [DecidableEq K]

/-- **Over every interleaving, every transaction is on its way to what its program ensures.** -/
theorem assured_after (hrefl : ∀ a, rel a a) (htrans : ∀ a b c, rel a b → rel b c → rel a c)
    (hmain : ∀ call, (server.main call).Ensures rel (Q call) ∅ .empty)
    (steps : List (ReadCommitted.Step κ)) : Assured rel Q (server.after steps) := by
  refine (after_invariant (I := fun db => db.WellFormed ∧ Assured rel Q db)
    ⟨Database.wellFormed_empty, ?_, ?_⟩ ?_ steps).2
  · intro t call phase snapshot here
    cases here
  · intro t i old new hwrite
    cases hwrite
  · rintro db e db' ⟨hwell, h⟩ heffect
    exact ⟨wellFormed_effect hwell heffect, assured_effect hrefl htrans hmain hwell h heffect⟩

/-- **A committed row stays, and evolves.** -/
theorem committed_after_append (hrefl : ∀ a, rel a a)
    (htrans : ∀ a b c, rel a b → rel b c → rel a c)
    (hmain : ∀ call, (server.main call).Ensures rel (Q call) ∅ .empty)
    (pre post : List (ReadCommitted.Step κ)) {i : ℕ} {row : R}
    (hrow : ((server.after pre).slots i).committed = some row) :
    ∃ row', ((server.after (pre ++ post)).slots i).committed = some row' ∧ rel row row' := by
  induction post using List.reverseRecOn with
  | nil =>
      rw [List.append_nil]
      exact ⟨row, hrow, hrefl row⟩
  | append_singleton post e ih =>
      obtain ⟨row', hrow', hrel⟩ := ih
      rw [← List.append_assoc, after_concat]
      have hassured := assured_after hrefl htrans hmain (pre ++ post)
      rcases committed_effect (wellFormed_after (pre ++ post))
        (server.step_effect (server.after (pre ++ post)) e) with
        ⟨t, call, a, snapshot, rfl, -, hcommit⟩ | hsame
      · rw [hcommit]
        obtain ⟨row'', hrow'', hrel'⟩ := hassured.evolves_commit hrefl t call a snapshot i row' hrow'
        exact ⟨row'', hrow'', htrans _ _ _ hrel hrel'⟩
      · rw [hsame]
        exact ⟨row', hrow', hrel⟩

end Server

/-! ### Committed rows -/

/-- The row is committed. -/
def Database.Stores (db : Database L R α κ) (row : R) : Prop :=
  ∃ i, (db.slots i).committed = some row

theorem Database.Stores.congr (h : ∀ i, (db'.slots i).committed = (db.slots i).committed) {row : R} :
    db'.Stores row ↔ db.Stores row := by
  unfold Stores
  simp only [h]

/-- What a transaction that commits has written is stored. -/
theorem WriteSet.Has.stores {t : ℕ} {old : Option R} {row : R} (h : (db.writeSet t).Has old row)
    (call : κ) (a : α) (snapshot : ℕ) : (db.commit t call a snapshot).Stores row := by
  obtain ⟨i, hi⟩ := h
  exact ⟨i, Database.committed_of_writeSet call a snapshot hi⟩

/-- What a row is written over is stored. -/
theorem WriteSet.Has.stores_old {t : ℕ} {old row : R} (h : (db.writeSet t).Has (some old) row) :
    db.Stores old := by
  obtain ⟨i, hi⟩ := h
  exact ⟨i, (Database.writeSet_eq_some_iff.1 hi).2⟩

/-- What is stored once a transaction commits is written by it, or was stored before. -/
theorem Database.stores_commit_cases {t : ℕ} {call : κ} {a : α} {snapshot : ℕ} {row : R}
    (h : (db.commit t call a snapshot).Stores row) :
    (∃ old, (db.writeSet t).Has old row) ∨ db.Stores row := by
  obtain ⟨i, hi⟩ := h
  rcases committed_commit_cases t call a snapshot hi with ⟨old, hwrite, -⟩ | hold
  · exact Or.inl ⟨old, i, hwrite⟩
  · exact Or.inr ⟨i, hold⟩

/-- What is stored evolves when a transaction commits. -/
theorem Server.Assured.stores_commit (h : Server.Assured rel Q db) (hrefl : ∀ a, rel a a) (t : ℕ)
    (call : κ) (a : α) (snapshot : ℕ) {row : R} (hrow : db.Stores row) :
    ∃ row', (db.commit t call a snapshot).Stores row' ∧ rel row row' := by
  obtain ⟨i, hi⟩ := hrow
  obtain ⟨row', hi', hrel⟩ := h.evolves_commit hrefl t call a snapshot i row hi
  exact ⟨row', ⟨i, hi'⟩, hrel⟩

/-- Two rows with a key in common are one. -/
theorem Server.Constrained.eq_of_clash {server : Server L K R α κ} (h : server.Constrained db)
    {a b : R} (ha : db.Stores a) (hb : db.Stores b) (hclash : server.Clash a b) : a = b := by
  obtain ⟨i, hi⟩ := ha
  obtain ⟨j, hj⟩ := hb
  have hij := h.unique i j a b (Or.inl hi) (Or.inl hj) hclash
  subst hij
  rw [hi] at hj
  cases hj
  rfl

end ReadCommitted

end PlatformOps
