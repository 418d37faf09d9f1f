/-
**A transaction that runs by itself.**

A transaction goes on, statement by statement, as long as it has to wait for no other one.  Here its
steps are taken one after the other, and nothing comes between them: an update comes to its only
row, an insert is accepted, and the transaction commits.  This is how a call is shown to succeed
from a database that some run has led to.

Main definitions:

* `Server.RunsTo` — the steps of one transaction lead from one database to another;
* `Database.SameView` — a transaction sees what it saw.

Main results:

* `Server.runsTo_update`, `Server.runsTo_lock`, `Server.runsTo_insert`, `Server.runsTo_commit` — the
  statements;
* `Server.RunsTo.after` — what such a run leads to is reached by a run of the server.
-/

import PlatformOps.UniqueIndexes

set_option relaxedAutoImplicit false
set_option autoImplicit false

namespace PlatformOps

namespace ReadCommitted

universe u

variable {L K R α κ : Type u}

/-- The step is one of the transaction. -/
def Step.Of (t : ℕ) : Step κ → Prop
  | .begin t' _ => t' = t
  | .statement t' => t' = t
  | .row t' _ => t' = t
  | .commit t' => t' = t
  | .abort t' => t' = t

namespace Database

variable {db : Database L R α κ} {t : ℕ}

/-- An update goes through the only row that matches. -/
theorem targets_eq_singleton {filter : R → Bool} {i : ℕ} {row : R}
    (hi : i < db.size) (hseen : (db.slots i).seenBy t = some row) (hfilter : filter row = true)
    (honly : ∀ j other, (db.slots j).seenBy t = some other → filter other = true → j = i) :
    db.targets t filter = [i] := by
  have hnodup : (db.targets t filter).Nodup := List.nodup_range.filter _
  refine List.perm_singleton.1
    ((List.perm_ext_iff_of_nodup hnodup (List.pairwise_singleton _ i)).2 ?_)
  intro j
  rw [mem_targets, List.mem_singleton]
  constructor
  · rintro ⟨-, other, hother, hmatch⟩
    exact honly j other hother hmatch
  · rintro rfl
    exact ⟨hi, row, hseen, hfilter⟩

theorem setTransaction_setTransaction (transaction transaction' : Transaction L R α κ) :
    (db.setTransaction t transaction).setTransaction t transaction' =
      db.setTransaction t transaction' := by
  unfold setTransaction
  rw [Function.update_idem]

/-- A transaction sees the same rows, and what others have written is as it was. -/
structure SameView (t : ℕ) (db db' : Database L R α κ) : Prop where
  size : db'.size = db.size
  seen : ∀ i, (db'.slots i).seenBy t = (db.slots i).seenBy t
  locked : ∀ i, (db'.slots i).LockedFor t → db'.slots i = db.slots i

theorem SameView.of_slots {db' : Database L R α κ} (hsize : db'.size = db.size)
    (hslots : db'.slots = db.slots) : SameView t db db' :=
  ⟨hsize, fun i => by rw [hslots], fun i _ => by rw [hslots]⟩

theorem SameView.trans {db' db'' : Database L R α κ} (h : SameView t db db')
    (h' : SameView t db' db'') : SameView t db db'' := by
  refine ⟨h'.size.trans h.size, fun i => (h'.seen i).trans (h.seen i), fun i hi => ?_⟩
  have hsame := h'.locked i hi
  rw [hsame] at hi ⊢
  exact h.locked i hi

/-- A transaction that locks a row sees what it saw. -/
theorem SameView.write {i : ℕ} {row : R} (hseen : (db.slots i).seenBy t = some row) :
    SameView t db (db.write t i row) := by
  refine ⟨rfl, fun j => ?_, fun j hj => ?_⟩
  · by_cases hji : j = i
    · subst hji
      rw [hseen]
      exact Slot.seenBy_of_pending (by rw [slots_write_self])
    · rw [slots_write_of_ne _ _ hji]
  · by_cases hji : j = i
    · subst hji
      rw [slots_write_self] at hj
      obtain ⟨owner, row', hpending, hne⟩ := hj
      cases hpending
      exact absurd rfl hne
    · rw [slots_write_of_ne _ _ hji]

theorem SameView.mem_visible_iff {db' : Database L R α κ} (h : SameView t db db') {row : R} :
    row ∈ db'.visible t ↔ row ∈ db.visible t := by
  simp only [mem_visible, h.size, h.seen]

theorem setTransaction_write (transaction : Transaction L R α κ) (i : ℕ) (row : R) :
    (db.setTransaction t transaction).write t i row =
      (db.write t i row).setTransaction t transaction := rfl

end Database

namespace Server

variable [DecidableEq L] [DecidableEq K] {server : Server L K R α κ} {db db' db'' : Database L R α κ}
  {t : ℕ} {call : κ} {snapshot : ℕ}

/-- The steps of one transaction lead from one database to another. -/
def RunsTo (server : Server L K R α κ) (t : ℕ) (db db' : Database L R α κ) : Prop :=
  ∃ steps : List (ReadCommitted.Step κ), (∀ e ∈ steps, e.Of t) ∧ db' = steps.foldl server.step db

theorem RunsTo.single {e : ReadCommitted.Step κ} (he : e.Of t) (h : server.step db e = db') :
    server.RunsTo t db db' := by
  refine ⟨[e], ?_, h.symm⟩
  intro e' he'
  rw [List.mem_singleton.1 he']
  exact he

theorem RunsTo.trans (h : server.RunsTo t db db') (h' : server.RunsTo t db' db'') :
    server.RunsTo t db db'' := by
  obtain ⟨steps, hof, rfl⟩ := h
  obtain ⟨steps', hof', rfl⟩ := h'
  refine ⟨steps ++ steps', ?_, (List.foldl_append ..).symm⟩
  intro e he
  exact (List.mem_append.1 he).elim (hof e) (hof' e)

/-- What such a run leads to is reached by a run of the server. -/
theorem RunsTo.after {steps : List (ReadCommitted.Step κ)}
    (h : server.RunsTo t (server.after steps) db') :
    ∃ post, (∀ e ∈ post, e.Of t) ∧ db' = server.after (steps ++ post) := by
  obtain ⟨post, hof, rfl⟩ := h
  exact ⟨post, hof, (List.foldl_append ..).symm⟩

/-- The rows are read. -/
theorem runsTo_select {next : List R → Program L R α}
    (here : db.transactions t = some ⟨call, .ready (.select next), snapshot⟩) :
    server.RunsTo t db (db.setTransaction t ⟨call, .ready (next (db.visible t)), snapshot⟩) := by
  refine .single (e := .statement t) rfl ?_
  simp only [step, here, runStatement]

/-- A row is inserted. -/
theorem runsTo_insert {row : R} {next : Program L R α}
    (here : db.transactions t = some ⟨call, .ready (.insert row next), snapshot⟩)
    (hfree : ¬ server.Waits db t row) (haccepts : server.Accepts db t row) :
    server.RunsTo t db ((db.append t row).setTransaction t ⟨call, .ready next, snapshot⟩) := by
  refine .single (e := .statement t) rfl ?_
  simp only [step, here, runStatement, if_neg hfree, if_pos haccepts]

/-- **An update writes the only row that matches.** -/
theorem runsTo_update {filter : R → Bool} {set : R → R} {next : List R → Program L R α} {i : ℕ}
    {row : R} (here : db.transactions t = some ⟨call, .ready (.update filter set next), snapshot⟩)
    (hi : i < db.size) (hfree : ¬ (db.slots i).LockedFor t)
    (hseen : (db.slots i).seenBy t = some row) (hfilter : filter row = true)
    (honly : ∀ j other, (db.slots j).seenBy t = some other → filter other = true → j = i)
    (hcheck : server.check (set row) = true) :
    server.RunsTo t db ((db.write t i (set row)).setTransaction t
      ⟨call, .ready (next [set row]), db.clock⟩) := by
  have htargets := Database.targets_eq_singleton hi hseen hfilter honly
  have hstart : server.RunsTo t db
      (db.setTransaction t ⟨call, .updating [i] filter set [] next, db.clock⟩) := by
    refine .single (e := .statement t) rfl ?_
    simp only [step, here, runStatement, htargets]
  have hrow : server.RunsTo t
      (db.setTransaction t ⟨call, .updating [i] filter set [] next, db.clock⟩)
      ((db.write t i (set row)).setTransaction t
        ⟨call, .updating [] filter set [set row] next, db.clock⟩) := by
    refine .single (e := .row t i) rfl ?_
    simp only [step, Database.transactions_setTransaction_self, runRow]
    rw [if_pos ⟨List.mem_singleton.2 rfl, hfree⟩]
    simp only [Database.slots_setTransaction, hseen, hfilter, hcheck, if_true]
    rw [Database.setTransaction_write, Database.setTransaction_setTransaction]
    simp
  have hend : server.RunsTo t
      ((db.write t i (set row)).setTransaction t
        ⟨call, .updating [] filter set [set row] next, db.clock⟩)
      ((db.write t i (set row)).setTransaction t
        ⟨call, .ready (next [set row]), db.clock⟩) := by
    refine .single (e := .statement t) rfl ?_
    simp only [step, Database.transactions_setTransaction_self]
    rw [Database.setTransaction_setTransaction]
  exact (hstart.trans hrow).trans hend

/-- **A statement that locks the only row that matches** returns it, and changes nothing that the
transaction sees. -/
theorem runsTo_lock {filter : R → Bool} {next : List R → Program L R α} {i : ℕ} {row : R}
    (here : db.transactions t = some ⟨call, .ready (.update filter id next), snapshot⟩)
    (hi : i < db.size) (hfree : ¬ (db.slots i).LockedFor t)
    (hseen : (db.slots i).seenBy t = some row) (hfilter : filter row = true)
    (honly : ∀ j other, (db.slots j).seenBy t = some other → filter other = true → j = i)
    (hcheck : server.check row = true) :
    ∃ db' snapshot', server.RunsTo t db db' ∧ Database.SameView t db db' ∧
      db'.transactions t = some ⟨call, .ready (next [row]), snapshot'⟩ := by
  refine ⟨_, _, runsTo_update here hi hfree hseen hfilter honly hcheck, ?_,
    Database.transactions_setTransaction_self ..⟩
  exact (Database.SameView.write hseen).trans (.of_slots rfl rfl)

/-- The transaction commits. -/
theorem runsTo_commit {a : α} (here : db.transactions t = some ⟨call, .ready (.ret a), snapshot⟩) :
    server.RunsTo t db (db.commit t call a snapshot) :=
  .single (e := .commit t) rfl (step_commit here)

end Server

end ReadCommitted

end PlatformOps
