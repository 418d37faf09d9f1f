/-
**Unique indexes whose keys rows may give up.**

Where a unique index is partial, an update may take a row out of it: the row gives up its key, and
another row may have the key once the update is committed.  Until then, the committed version still
has it, and the transaction that has given it up may itself insert a row with the key.  So the
versions that are committed never clash with each other, nor do those that are pending; but a
committed version may clash with a pending one, where it is itself about to be replaced by the same
transaction.

Main definitions:

* `Server.GivesUpKeys` — the updates of a program give keys up, and never take any;
* `Server.Distinct` — which versions may clash.

Main results:

* `Server.Distinct.seen_unique` — what a transaction sees does not clash;
* `Server.distinct_after` — **over every interleaving, committed rows do not clash**.
-/

import PlatformOps.ReadCommitted

set_option relaxedAutoImplicit false
set_option autoImplicit false

namespace PlatformOps

namespace ReadCommitted

namespace Server

universe u

variable {L K R α κ : Type u}

/-- The updates of a program take no key for a row that it did not have. -/
def GivesUpKeys (server : Server L K R α κ) : Program L R α → Prop
  | .ret _ => True
  | .lock _ next => GivesUpKeys server next
  | .select next => ∀ rows, GivesUpKeys server (next rows)
  | .update _ set next =>
      (∀ row, server.keys (set row) ⊆ server.keys row) ∧ ∀ rows, GivesUpKeys server (next rows)
  | .insert _ next => GivesUpKeys server next

/-- What is left of a transaction takes no key for a row that it did not have. -/
def PhaseGivesUpKeys (server : Server L K R α κ) : Phase L R α → Prop
  | .ready program => server.GivesUpKeys program
  | .updating _ _ set _ next =>
      (∀ row, server.keys (set row) ⊆ server.keys row) ∧ ∀ rows, server.GivesUpKeys (next rows)
  | .committed _ => True
  | .aborted => True

/-- Two versions of different rows clash only where one is committed, and the transaction that has
written the other is about to replace it. -/
structure Distinct (server : Server L K R α κ) (db : Database L R α κ) : Prop where
  programs : ∀ t call phase snapshot, db.transactions t = some ⟨call, phase, snapshot⟩ →
    server.PhaseGivesUpKeys phase
  committed : ∀ i j a b, (db.slots i).committed = some a → (db.slots j).committed = some b →
    server.Clash a b → i = j
  pending : ∀ i j t t' a b, (db.slots i).pending = some (t, a) →
    (db.slots j).pending = some (t', b) → server.Clash a b → i = j
  below : ∀ i j t a b, (db.slots i).committed = some a → (db.slots j).pending = some (t, b) →
    server.Clash a b → i = j ∨ ∃ own, (db.slots i).pending = some (t, own)

variable {server : Server L K R α κ} {db db' : Database L R α κ} {t : ℕ}

theorem Clash.mono_left {a a' b : R} (h : server.Clash a b)
    (hsubset : server.keys a ⊆ server.keys a') : server.Clash a' b := by
  obtain ⟨k, ha, hb⟩ := h
  exact ⟨k, hsubset ha, hb⟩

theorem Clash.mono_right {a b b' : R} (h : server.Clash a b)
    (hsubset : server.keys b ⊆ server.keys b') : server.Clash a b' := by
  obtain ⟨k, ha, hb⟩ := h
  exact ⟨k, ha, hsubset hb⟩

namespace Distinct

theorem setTransaction (h : server.Distinct db) {transaction : Transaction L R α κ}
    (hphase : server.PhaseGivesUpKeys transaction.phase) :
    server.Distinct (db.setTransaction t transaction) := by
  refine ⟨?_, h.committed, h.pending, h.below⟩
  intro t' call phase snapshot htransaction
  rcases Database.transactions_setTransaction_cases htransaction with ⟨rfl, hset⟩ | ⟨-, hold⟩
  · cases hset
    exact hphase
  · exact h.programs t' _ _ _ hold

/-- A version that is written over another one has no new keys. -/
theorem write (h : server.Distinct db) {i : ℕ} {old row : R}
    (hfree : ¬ (db.slots i).LockedFor t) (hseen : (db.slots i).seenBy t = some old)
    (hkeys : server.keys row ⊆ server.keys old) : server.Distinct (db.write t i row) := by
  -- no pending version of another row clashes with the one that is written
  have hpending : ∀ j t' b, (db.slots j).pending = some (t', b) → server.Clash row b → i = j := by
    intro j t' b hb hclash
    have hold := hclash.mono_left hkeys
    rcases Slot.seenBy_eq_some hseen with hown | ⟨hcommitted, hnot⟩
    · exact h.pending i j t t' old b hown hb hold
    · rcases h.below i j t' old b hcommitted hb hold with hij | ⟨own, hown⟩
      · exact hij
      · by_cases ht : t' = t
        · subst ht
          exact absurd hown (hnot own)
        · exact absurd ⟨t', own, hown, ht⟩ hfree
  constructor
  · exact h.programs
  · intro j j' a b ha hb hclash
    have hcommitted : ∀ k, ((db.write t i row).slots k).committed = (db.slots k).committed := by
      intro k
      by_cases hk : k = i
      · subst hk
        rw [Database.slots_write_self]
      · rw [Database.slots_write_of_ne _ _ hk]
    rw [hcommitted] at ha hb
    exact h.committed j j' a b ha hb hclash
  · intro j j' t₁ t₂ a b ha hb hclash
    by_cases hj : j = i
    · subst hj
      by_cases hj' : j' = j
      · exact hj'.symm
      · rw [Database.slots_write_self] at ha
        cases ha
        rw [Database.slots_write_of_ne _ _ hj'] at hb
        exact hpending j' t₂ b hb hclash
    · rw [Database.slots_write_of_ne _ _ hj] at ha
      by_cases hj' : j' = i
      · subst hj'
        rw [Database.slots_write_self] at hb
        cases hb
        exact (hpending j t₁ a ha hclash.symm).symm
      · rw [Database.slots_write_of_ne _ _ hj'] at hb
        exact h.pending j j' t₁ t₂ a b ha hb hclash
  · intro j j' t' a b ha hb hclash
    by_cases hj' : j' = i
    · subst hj'
      rw [Database.slots_write_self] at hb
      cases hb
      by_cases hj : j = j'
      · exact Or.inl hj
      · rw [Database.slots_write_of_ne _ _ hj] at ha ⊢
        have hold := hclash.mono_right hkeys
        rcases Slot.seenBy_eq_some hseen with hown | ⟨hcommitted, -⟩
        · exact h.below j j' t a old ha hown hold
        · exact Or.inl (h.committed j j' a old ha hcommitted hold)
    · rw [Database.slots_write_of_ne _ _ hj'] at hb
      by_cases hj : j = i
      · subst hj
        rw [Database.slots_write_self] at ha ⊢
        rcases h.below j j' t' a b ha hb hclash with hij | ⟨own, hown⟩
        · exact Or.inl hij
        · by_cases ht : t' = t
          · subst ht
            exact Or.inr ⟨row, rfl⟩
          · exact absurd ⟨t', own, hown, ht⟩ hfree
      · rw [Database.slots_write_of_ne _ _ hj] at ha ⊢
        exact h.below j j' t' a b ha hb hclash

/-- A row that the constraints accept clashes with no pending version of another row, and with a
committed one only where the transaction is about to replace it. -/
theorem of_accepts [DecidableEq K] (hwell : db.WellFormed) {row : R}
    (hfree : ¬ server.Waits db t row) (haccepts : server.Accepts db t row) (i : ℕ) :
    (∀ t' a, (db.slots i).pending = some (t', a) → ¬ server.Clash row a) ∧
      ∀ a, (db.slots i).committed = some a → server.Clash row a →
        ∃ own, (db.slots i).pending = some (t, own) := by
  constructor
  · intro t' a hpending hclash
    have hi : i < db.size := hwell.lt_size_of_pending hpending
    by_cases ht : t' = t
    · subst ht
      obtain ⟨k, hk, hka⟩ := hclash
      exact haccepts.2.1 k hk
        ⟨a, Database.mem_visible.2 ⟨i, hi, Slot.seenBy_of_pending hpending⟩, hka⟩
    · refine hfree ⟨i, hi, ⟨t', a, hpending, ht⟩, Or.inr ?_⟩
      rw [hpending]
      exact hclash
  · intro a hcommitted hclash
    have hi : i < db.size := hwell.lt_size_of_committed hcommitted
    by_cases hlocked : (db.slots i).LockedFor t
    · refine absurd ⟨i, hi, hlocked, Or.inl ?_⟩ hfree
      rw [hcommitted]
      exact hclash
    · rcases Slot.seenBy_of_not_locked hlocked with ⟨own, hown⟩ | ⟨-, hseen⟩
      · exact ⟨own, hown⟩
      · obtain ⟨k, hk, hka⟩ := hclash
        exact absurd ⟨a, Database.mem_visible.2 ⟨i, hi, hseen.trans hcommitted⟩, hka⟩
          (haccepts.2.1 k hk)

/-- A row is inserted. -/
theorem append [DecidableEq K] (h : server.Distinct db) (hwell : db.WellFormed) {row : R}
    (hfree : ¬ server.Waits db t row) (haccepts : server.Accepts db t row) :
    server.Distinct (db.append t row) := by
  constructor
  · exact h.programs
  · intro i j a b ha hb hclash
    rw [hwell.committed_append] at ha hb
    exact h.committed i j a b ha hb hclash
  · intro i j t₁ t₂ a b ha hb hclash
    by_cases hi : i = db.size
    · subst hi
      rw [Database.slots_append_self] at ha
      cases ha
      by_cases hj : j = db.size
      · exact hj.symm
      · rw [Database.slots_append_of_ne _ _ hj] at hb
        exact absurd hclash ((of_accepts hwell hfree haccepts j).1 t₂ b hb)
    · rw [Database.slots_append_of_ne _ _ hi] at ha
      by_cases hj : j = db.size
      · subst hj
        rw [Database.slots_append_self] at hb
        cases hb
        exact absurd hclash.symm ((of_accepts hwell hfree haccepts i).1 t₁ a ha)
      · rw [Database.slots_append_of_ne _ _ hj] at hb
        exact h.pending i j t₁ t₂ a b ha hb hclash
  · intro i j t' a b ha hb hclash
    rw [hwell.committed_append] at ha
    have hi : i ≠ db.size := by
      rintro rfl
      rw [hwell.beyond db.size le_rfl] at ha
      cases ha
    rw [Database.slots_append_of_ne _ _ hi]
    by_cases hj : j = db.size
    · subst hj
      rw [Database.slots_append_self] at hb
      cases hb
      exact Or.inr ((of_accepts hwell hfree haccepts i).2 a ha hclash.symm)
    · rw [Database.slots_append_of_ne _ _ hj] at hb
      exact h.below i j t' a b ha hb hclash

/-- A transaction commits: what it has replaced no longer clashes. -/
theorem commit (h : server.Distinct db) (t : ℕ) (call : κ) (a : α) (snapshot : ℕ) :
    server.Distinct (db.commit t call a snapshot) := by
  constructor
  · intro t' call' phase snapshot' htransaction
    rcases Database.transactions_commit_cases htransaction with ⟨rfl, hset⟩ | ⟨-, hold⟩
    · cases hset
      trivial
    · exact h.programs t' _ _ _ hold
  · intro i j b c hb hc hclash
    rw [Database.slots_commit] at hb hc
    rcases Slot.committed_commit_cases hb with hb | ⟨hb, hnotb⟩
    · rcases Slot.committed_commit_cases hc with hc | ⟨hc, hnotc⟩
      · exact h.pending i j t t b c hb hc hclash
      · rcases h.below j i t c b hc hb hclash.symm with hij | ⟨own, hown⟩
        · exact hij.symm
        · exact absurd hown (hnotc own)
    · rcases Slot.committed_commit_cases hc with hc | ⟨hc, hnotc⟩
      · rcases h.below i j t b c hb hc hclash with hij | ⟨own, hown⟩
        · exact hij
        · exact absurd hown (hnotb own)
      · exact h.committed i j b c hb hc hclash
  · intro i j t₁ t₂ b c hb hc hclash
    exact h.pending i j t₁ t₂ b c (Slot.pending_of_commit hb).1 (Slot.pending_of_commit hc).1
      hclash
  · intro i j t' b c hb hc hclash
    obtain ⟨hc, ht, -⟩ := Slot.pending_of_commit hc
    rw [Database.slots_commit] at hb
    rcases Slot.committed_commit_cases hb with hb | ⟨hb, -⟩
    · exact Or.inl (h.pending i j t t' b c hb hc hclash)
    · rcases h.below i j t' b c hb hc hclash with hij | ⟨own, hown⟩
      · exact Or.inl hij
      · refine Or.inr ⟨own, ?_⟩
        rw [Database.slots_commit, Slot.commit_of_pending hown ht]
        exact hown

/-- A transaction is aborted. -/
theorem abort (h : server.Distinct db) (t : ℕ) (call : κ) (snapshot : ℕ) :
    server.Distinct (db.abort t call snapshot) := by
  constructor
  · intro t' call' phase snapshot' htransaction
    rcases Database.transactions_abort_cases htransaction with ⟨rfl, hset⟩ | ⟨-, hold⟩
    · cases hset
      trivial
    · exact h.programs t' _ _ _ hold
  · intro i j a b ha hb hclash
    rw [Database.slots_abort, Slot.committed_rollback] at ha hb
    exact h.committed i j a b ha hb hclash
  · intro i j t₁ t₂ a b ha hb hclash
    exact h.pending i j t₁ t₂ a b (Slot.pending_of_rollback ha).1 (Slot.pending_of_rollback hb).1
      hclash
  · intro i j t' a b ha hb hclash
    obtain ⟨hb, ht⟩ := Slot.pending_of_rollback hb
    rw [Database.slots_abort, Slot.committed_rollback] at ha
    rcases h.below i j t' a b ha hb hclash with hij | ⟨own, hown⟩
    · exact Or.inl hij
    · refine Or.inr ⟨own, ?_⟩
      rw [Database.slots_abort, Slot.rollback_of_pending hown ht]
      exact hown

/-- **What a transaction sees does not clash.** -/
theorem seen_unique (h : server.Distinct db) {i j : ℕ} {a b : R}
    (ha : (db.slots i).seenBy t = some a) (hb : (db.slots j).seenBy t = some b)
    (hclash : server.Clash a b) : i = j := by
  rcases Slot.seenBy_eq_some ha with ha | ⟨ha, hnota⟩
  · rcases Slot.seenBy_eq_some hb with hb | ⟨hb, hnotb⟩
    · exact h.pending i j t t a b ha hb hclash
    · rcases h.below j i t b a hb ha hclash.symm with hij | ⟨own, hown⟩
      · exact hij.symm
      · exact absurd hown (hnotb own)
  · rcases Slot.seenBy_eq_some hb with hb | ⟨hb, hnotb⟩
    · rcases h.below i j t a b ha hb hclash with hij | ⟨own, hown⟩
      · exact hij
      · exact absurd hown (hnota own)
    · exact h.committed i j a b ha hb hclash

end Distinct

variable [DecidableEq L] [DecidableEq K] {e : ReadCommitted.Step κ}

/-- Every effect keeps the versions distinct. -/
theorem distinct_effect (hgives : ∀ call, server.GivesUpKeys (server.main call))
    (hwell : db.WellFormed) (h : server.Distinct db) (heffect : server.Effect db e db') :
    server.Distinct db' := by
  cases heffect with
  | none => exact h
  | began fresh => exact h.setTransaction (hgives _)
  | locked here free =>
      rename_i t call snapshot key next
      have htake : server.Distinct (db.take t key) := ⟨h.programs, h.committed, h.pending, h.below⟩
      have hprogram := h.programs _ _ _ _ here
      exact htake.setTransaction hprogram
  | selected here => exact h.setTransaction (h.programs _ _ _ _ here _)
  | started here =>
      have hprogram := h.programs _ _ _ _ here
      exact h.setTransaction hprogram
  | wrote here target free seen matched =>
      have hprogram := h.programs _ _ _ _ here
      exact (h.write free seen (hprogram.1 _)).setTransaction hprogram
  | skipped here target free unmatched =>
      have hprogram := h.programs _ _ _ _ here
      exact h.setTransaction hprogram
  | ended here => exact h.setTransaction ((h.programs _ _ _ _ here).2 _)
  | inserted here free accepts =>
      have hprogram := h.programs _ _ _ _ here
      exact (h.append hwell free accepts).setTransaction hprogram
  | committed here => exact h.commit _ _ _ _
  | aborted here going => exact h.abort _ _ _

/-- **Over every interleaving, committed rows do not clash**, and versions do only where one is
about to be replaced. -/
theorem distinct_after (hgives : ∀ call, server.GivesUpKeys (server.main call))
    (steps : List (ReadCommitted.Step κ)) : server.Distinct (server.after steps) := by
  refine (after_invariant (I := fun db => db.WellFormed ∧ server.Distinct db)
    ⟨Database.wellFormed_empty, ?_⟩ ?_ steps).2
  · constructor
    · intro t call phase snapshot h
      cases h
    · intro i j a b h
      cases h
    · intro i j t t' a b h
      cases h
    · intro i j t a b h
      cases h
  · rintro db e db' ⟨hwell, h⟩ heffect
    exact ⟨wellFormed_effect hwell heffect, distinct_effect hgives hwell h heffect⟩

end Server

end ReadCommitted

end PlatformOps
