/-
**Attempts to verify an address, in concurrent transactions.**

The durable repository saves a new attempt with two statements: an update that invalidates the
usable attempts of the address, and an insert.  Neither of them takes a lock on the address, and no
unique index serialises them, so a save that overlaps another one of its address can miss the
attempt of that one.

Main definitions:

* `attemptsSchema`, `saveNewAttemptProgram`, `consumeEmailByDigestProgram`, `attemptServer` — the
  table and its transactions;
* `InAttempts` — where a transaction can be;
* `AttemptRows` — what is known of the rows at every moment;
* `Misses` — a save misses a usable attempt that was committed after its update began.

Main results:

* `attemptRows_after` — the invariant of the interleavings;
* `postgres_one_usable_iff` — **in a run an address has at most one usable attempt at every moment
  exactly if no save commits that misses one**;
* `two_saves_two_links` — two overlapping saves leave two usable attempts.
-/

import PlatformOps.ReadCommitted
import PlatformOps.Registration

set_option relaxedAutoImplicit false
set_option autoImplicit false

namespace PlatformOps

open ReadCommitted

/-! ### The table and its transactions -/

/-- `auth_verification_attempts`: the attempt id is its key, and an attempt is not both consumed and
invalidated. -/
def attemptsSchema : Schema String VerificationAttempt where
  keys attempt := [attempt.attemptId]
  references _ := []
  check attempt := !(attempt.consumedAt.isSome && attempt.invalidatedAt.isSome)

/-- Whether the attempt is a usable one of this address. -/
def usableOf (canonicalEmail : String) (attempt : VerificationAttempt) : Bool :=
  attempt.canonicalEmail = canonicalEmail ∧ attempt.Usable

/-- `SET invalidated_at`. -/
def setInvalidated (now : ℕ) (attempt : VerificationAttempt) : VerificationAttempt :=
  { attempt with invalidatedAt := some now }

/-- `save_new_attempt`: an update, and an insert. -/
def saveNewAttemptProgram (attempt : VerificationAttempt) (now : ℕ) :
    Program Empty VerificationAttempt (Option String) :=
  .update (usableOf attempt.canonicalEmail) (setInvalidated now) fun _ =>
    .insert attempt (.ret none)

/-- `consume_email_by_digest`: an update, and the address of its first row. -/
def consumeEmailByDigestProgram (digest : HexDigest) (now : ℕ) :
    Program Empty VerificationAttempt (Option String) :=
  .update (fun attempt => decide (attempt.Active digest now)) (·.consume now) fun rows =>
    .ret (rows.head?.map VerificationAttempt.canonicalEmail)

/-- A call of the repository that writes. -/
inductive AttemptCall
  | saveNewAttempt (attempt : VerificationAttempt) (now : ℕ)
  | consumeEmailByDigest (digest : HexDigest) (now : ℕ)
  deriving DecidableEq

/-- The transaction of a call. -/
def attemptProgram : AttemptCall → Program Empty VerificationAttempt (Option String)
  | .saveNewAttempt attempt now => saveNewAttemptProgram attempt now
  | .consumeEmailByDigest digest now => consumeEmailByDigestProgram digest now

/-- The server with the table. -/
def attemptServer : Server Empty String VerificationAttempt (Option String) AttemptCall :=
  { attemptsSchema with main := attemptProgram }

/-- The database of the attempts. -/
abbrev AttemptDatabase := Database Empty VerificationAttempt (Option String) AttemptCall

theorem not_usable_setInvalidated (now : ℕ) (attempt : VerificationAttempt) :
    ¬ (setInvalidated now attempt).Usable := by
  rintro ⟨-, h⟩
  cases h

theorem usableOf_eq_true_iff {canonicalEmail : String} {attempt : VerificationAttempt} :
    usableOf canonicalEmail attempt = true ↔
      attempt.canonicalEmail = canonicalEmail ∧ attempt.Usable := by
  simp [usableOf]

/-! ### Where a transaction can be -/

/-- Where the transaction of a call can be. -/
inductive InAttempts : AttemptCall → Phase Empty VerificationAttempt (Option String) → Prop
  | beginsSave (attempt : VerificationAttempt) (now : ℕ) :
      InAttempts (.saveNewAttempt attempt now)
        (.ready (.update (usableOf attempt.canonicalEmail) (setInvalidated now)
          fun _ => .insert attempt (.ret none)))
  | invalidating (attempt : VerificationAttempt) (now : ℕ) (targets : List ℕ)
      (returned : List VerificationAttempt) :
      InAttempts (.saveNewAttempt attempt now)
        (.updating targets (usableOf attempt.canonicalEmail) (setInvalidated now) returned
          fun _ => .insert attempt (.ret none))
  | invalidated (attempt : VerificationAttempt) (now : ℕ) :
      InAttempts (.saveNewAttempt attempt now) (.ready (.insert attempt (.ret none)))
  | saved (attempt : VerificationAttempt) (now : ℕ) :
      InAttempts (.saveNewAttempt attempt now) (.ready (.ret none))
  | beginsConsume (digest : HexDigest) (now : ℕ) :
      InAttempts (.consumeEmailByDigest digest now)
        (.ready (.update (fun attempt => decide (attempt.Active digest now)) (·.consume now)
          fun rows => .ret (rows.head?.map VerificationAttempt.canonicalEmail)))
  | consuming (digest : HexDigest) (now : ℕ) (targets : List ℕ)
      (returned : List VerificationAttempt) :
      InAttempts (.consumeEmailByDigest digest now)
        (.updating targets (fun attempt => decide (attempt.Active digest now)) (·.consume now)
          returned fun rows => .ret (rows.head?.map VerificationAttempt.canonicalEmail))
  | consumed (digest : HexDigest) (now : ℕ) (email : Option String) :
      InAttempts (.consumeEmailByDigest digest now) (.ready (.ret email))
  | committed (call : AttemptCall) (a : Option String) : InAttempts call (.committed a)
  | aborted (call : AttemptCall) : InAttempts call .aborted

/-- The rows an update has still to come to. -/
def left : Phase Empty VerificationAttempt (Option String) → List ℕ
  | .updating targets _ _ _ _ => targets
  | _ => []

/-- The transaction of a save whose update has begun, and which has not ended. -/
inductive Saving (attempt : VerificationAttempt) : AttemptCall →
    Phase Empty VerificationAttempt (Option String) → Prop
  | invalidating (now : ℕ) (targets : List ℕ) (returned : List VerificationAttempt) :
      Saving attempt (.saveNewAttempt attempt now)
        (.updating targets (usableOf attempt.canonicalEmail) (setInvalidated now) returned
          fun _ => .insert attempt (.ret none))
  | invalidated (now : ℕ) :
      Saving attempt (.saveNewAttempt attempt now) (.ready (.insert attempt (.ret none)))
  | saved (now : ℕ) : Saving attempt (.saveNewAttempt attempt now) (.ready (.ret none))

/-! ### The rows -/

/-- What is known of the rows at every moment: a version that was not committed yet is the one row
of a save that is about to commit; a version over a committed one is not usable; and a save comes to
every usable attempt of its address that was committed when its update began. -/
structure AttemptRows (db : AttemptDatabase) : Prop where
  phases : ∀ t call phase snapshot, db.transactions t = some ⟨call, phase, snapshot⟩ →
    InAttempts call phase
  past : ∀ t call phase snapshot, db.transactions t = some ⟨call, phase, snapshot⟩ →
    snapshot ≤ db.clock
  fresh : ∀ i t attempt, (db.slots i).committed = none → (db.slots i).pending = some (t, attempt) →
    ∃ now snapshot, db.transactions t =
      some ⟨.saveNewAttempt attempt now, .ready (.ret none), snapshot⟩
  single : ∀ i j t a b, (db.slots i).committed = none → (db.slots i).pending = some (t, a) →
    (db.slots j).committed = none → (db.slots j).pending = some (t, b) → i = j
  inserted : ∀ t attempt now snapshot, db.transactions t =
      some ⟨.saveNewAttempt attempt now, .ready (.ret none), snapshot⟩ →
    ∃ i, (db.slots i).committed = none ∧ (db.slots i).pending = some (t, attempt)
  replacing : ∀ i t old new, (db.slots i).committed = some old →
    (db.slots i).pending = some (t, new) → ¬ new.Usable
  reached : ∀ t attempt call phase snapshot, db.transactions t = some ⟨call, phase, snapshot⟩ →
    Saving attempt call phase → ∀ i other, (db.slots i).committed = some other → other.Usable →
      other.canonicalEmail = attempt.canonicalEmail →
      i ∈ left phase ∨ (∃ new, (db.slots i).pending = some (t, new)) ∨
        snapshot < (db.slots i).bornAt

namespace AttemptRows

variable {db : AttemptDatabase} {t : ℕ} {call : AttemptCall}
  {phase phase' : Phase Empty VerificationAttempt (Option String)} {snapshot : ℕ}

/-- A transaction goes on, and no row changes. -/
theorem setTransaction (h : AttemptRows db) (hphase : InAttempts call phase')
    (hpast : snapshot ≤ db.clock)
    (hfresh : ∀ i attempt, (db.slots i).committed = none →
      (db.slots i).pending ≠ some (t, attempt))
    (hsaved : ∀ attempt now, call = .saveNewAttempt attempt now → phase' ≠ .ready (.ret none))
    (hreached : ∀ attempt, Saving attempt call phase' → ∀ i other,
      (db.slots i).committed = some other → other.Usable →
      other.canonicalEmail = attempt.canonicalEmail →
      i ∈ left phase' ∨ (∃ new, (db.slots i).pending = some (t, new)) ∨
        snapshot < (db.slots i).bornAt) :
    AttemptRows (db.setTransaction t ⟨call, phase', snapshot⟩) := by
  constructor
  · intro t' call' phase'' snapshot' htransaction
    rcases Database.transactions_setTransaction_cases htransaction with ⟨rfl, hset⟩ | ⟨-, hold⟩
    · cases hset
      exact hphase
    · exact h.phases t' _ _ _ hold
  · intro t' call' phase'' snapshot' htransaction
    rcases Database.transactions_setTransaction_cases htransaction with ⟨rfl, hset⟩ | ⟨-, hold⟩
    · cases hset
      exact hpast
    · exact h.past t' _ _ _ hold
  · intro i t' attempt hcommitted hpending
    have ht : t' ≠ t := by
      rintro rfl
      exact hfresh i attempt hcommitted hpending
    rw [Database.transactions_setTransaction_of_ne _ _ _ ht]
    exact h.fresh i t' attempt hcommitted hpending
  · exact h.single
  · intro t' attempt now snapshot' htransaction
    rcases Database.transactions_setTransaction_cases htransaction with ⟨rfl, hset⟩ | ⟨-, hold⟩
    · cases hset
      exact absurd rfl (hsaved attempt now rfl)
    · exact h.inserted t' attempt now snapshot' hold
  · exact h.replacing
  · intro t' attempt call' phase'' snapshot' htransaction hsaving
    rcases Database.transactions_setTransaction_cases htransaction with ⟨rfl, hset⟩ | ⟨-, hold⟩
    · cases hset
      exact hreached attempt hsaving
    · exact h.reached t' attempt _ _ _ hold hsaving

/-- A transaction that is not about to commit a save has no row of its own. -/
theorem no_fresh (h : AttemptRows db) (here : db.transactions t = some ⟨call, phase, snapshot⟩)
    (hphase : phase ≠ .ready (.ret none)) (i : ℕ) (attempt : VerificationAttempt)
    (hcommitted : (db.slots i).committed = none) : (db.slots i).pending ≠ some (t, attempt) := by
  intro hpending
  obtain ⟨now, snapshot', htransaction⟩ := h.fresh i t attempt hcommitted hpending
  rw [here] at htransaction
  cases htransaction
  exact hphase rfl

/-- A committed row is written over by a version that is not usable. -/
theorem write (h : AttemptRows db) {i : ℕ} {old new : VerificationAttempt}
    (hcommitted : (db.slots i).committed = some old) (hfree : ¬ (db.slots i).LockedFor t)
    (hnew : ¬ new.Usable) : AttemptRows (db.write t i new) := by
  have hother : ∀ {j}, (db.slots j).committed = none → j ≠ i := by
    rintro j hnone rfl
    rw [hcommitted] at hnone
    cases hnone
  have hnone : ∀ {j}, ((db.write t i new).slots j).committed = none →
      (db.slots j).committed = none ∧ (db.write t i new).slots j = db.slots j := by
    intro j hnone
    by_cases hj : j = i
    · subst hj
      rw [Database.slots_write_self] at hnone
      exact absurd rfl (hother hnone)
    · rw [Database.slots_write_of_ne _ _ hj] at hnone ⊢
      exact ⟨hnone, rfl⟩
  constructor
  · exact h.phases
  · exact h.past
  · intro j t' attempt hj hpending
    obtain ⟨hold, hslot⟩ := hnone hj
    rw [hslot] at hpending
    exact h.fresh j t' attempt hold hpending
  · intro j j' t' a b hj ha hj' hb
    obtain ⟨hold, hslot⟩ := hnone hj
    obtain ⟨hold', hslot'⟩ := hnone hj'
    rw [hslot] at ha
    rw [hslot'] at hb
    exact h.single j j' t' a b hold ha hold' hb
  · intro t' attempt now snapshot' htransaction
    obtain ⟨j, hj, hpending⟩ := h.inserted t' attempt now snapshot' htransaction
    refine ⟨j, ?_⟩
    rw [Database.slots_write_of_ne _ _ (hother hj)]
    exact ⟨hj, hpending⟩
  · intro j t' old' new' hold hpending
    by_cases hj : j = i
    · subst hj
      rw [Database.slots_write_self] at hpending
      cases hpending
      exact hnew
    · rw [Database.slots_write_of_ne _ _ hj] at hold hpending
      exact h.replacing j t' old' new' hold hpending
  · intro t' attempt call' phase'' snapshot' htransaction hsaving j other hold husable hemail
    by_cases hj : j = i
    · subst hj
      rw [Database.slots_write_self] at hold ⊢
      rcases h.reached t' attempt _ _ _ htransaction hsaving j other hold husable hemail with
        hleft | ⟨new', hpending⟩ | hborn
      · exact Or.inl hleft
      · have ht : t' = t := by
          by_contra hne
          exact hfree ⟨t', new', hpending, hne⟩
        exact Or.inr (Or.inl ⟨new, by rw [ht]⟩)
      · exact Or.inr (Or.inr hborn)
    · rw [Database.slots_write_of_ne _ _ hj] at hold ⊢
      exact h.reached t' attempt _ _ _ htransaction hsaving j other hold husable hemail

/-- A save inserts its row. -/
theorem insert (h : AttemptRows db) (hwell : db.WellFormed) {attempt : VerificationAttempt}
    {now : ℕ} (here : db.transactions t =
      some ⟨.saveNewAttempt attempt now, .ready (.insert attempt (.ret none)), snapshot⟩) :
    AttemptRows ((db.append t attempt).setTransaction t
      ⟨.saveNewAttempt attempt now, .ready (.ret none), snapshot⟩) := by
  have hempty := hwell.beyond db.size le_rfl
  have hnot := h.no_fresh here (by simp)
  constructor
  · intro t' call' phase'' snapshot' htransaction
    rcases Database.transactions_setTransaction_cases htransaction with ⟨rfl, hset⟩ | ⟨-, hold⟩
    · cases hset
      exact .saved attempt now
    · exact h.phases t' _ _ _ hold
  · intro t' call' phase'' snapshot' htransaction
    rcases Database.transactions_setTransaction_cases htransaction with ⟨rfl, hset⟩ | ⟨-, hold⟩
    · cases hset
      exact h.past t' _ _ _ here
    · exact h.past t' _ _ _ hold
  · intro i t' other hcommitted hpending
    rw [Database.slots_setTransaction] at hcommitted hpending
    by_cases hi : i = db.size
    · subst hi
      rw [Database.slots_append_self] at hpending
      cases hpending
      exact ⟨now, snapshot, Database.transactions_setTransaction_self _ _ _⟩
    · rw [Database.slots_append_of_ne _ _ hi] at hcommitted hpending
      have ht : t' ≠ t := by
        rintro rfl
        exact hnot i other hcommitted hpending
      rw [Database.transactions_setTransaction_of_ne _ _ _ ht]
      exact h.fresh i t' other hcommitted hpending
  · intro i j t' a b hi ha hj hb
    rw [Database.slots_setTransaction] at hi ha hj hb
    by_cases hisize : i = db.size
    · by_cases hjsize : j = db.size
      · exact hisize.trans hjsize.symm
      · subst hisize
        rw [Database.slots_append_self] at ha
        rw [Database.slots_append_of_ne _ _ hjsize] at hj hb
        cases ha
        exact absurd hb (hnot j b hj)
    · rw [Database.slots_append_of_ne _ _ hisize] at hi ha
      by_cases hjsize : j = db.size
      · subst hjsize
        rw [Database.slots_append_self] at hb
        cases hb
        exact absurd ha (hnot i a hi)
      · rw [Database.slots_append_of_ne _ _ hjsize] at hj hb
        exact h.single i j t' a b hi ha hj hb
  · intro t' other now' snapshot' htransaction
    rw [Database.slots_setTransaction]
    rcases Database.transactions_setTransaction_cases htransaction with ⟨rfl, hset⟩ | ⟨-, hold⟩
    · cases hset
      refine ⟨db.size, ?_⟩
      rw [Database.slots_append_self]
      exact ⟨rfl, rfl⟩
    · obtain ⟨i, hcommitted, hpending⟩ := h.inserted t' other now' snapshot' hold
      have hi : i ≠ db.size := by
        rintro rfl
        rw [hempty] at hpending
        cases hpending
      refine ⟨i, ?_⟩
      rw [Database.slots_append_of_ne _ _ hi]
      exact ⟨hcommitted, hpending⟩
  · intro i t' old new hcommitted hpending
    rw [Database.slots_setTransaction] at hcommitted hpending
    by_cases hi : i = db.size
    · subst hi
      rw [Database.slots_append_self] at hcommitted
      cases hcommitted
    · rw [Database.slots_append_of_ne _ _ hi] at hcommitted hpending
      exact h.replacing i t' old new hcommitted hpending
  · intro t' attempt' call' phase'' snapshot' htransaction hsaving i other hcommitted husable hemail
    rw [Database.slots_setTransaction] at hcommitted ⊢
    have hi : i ≠ db.size := by
      rintro rfl
      rw [Database.slots_append_self] at hcommitted
      cases hcommitted
    rw [Database.slots_append_of_ne _ _ hi] at hcommitted ⊢
    rcases Database.transactions_setTransaction_cases htransaction with ⟨rfl, hset⟩ | ⟨-, hold⟩
    · cases hset
      cases hsaving
      have hreached := h.reached t' attempt _ _ _ here (.invalidated now) i other hcommitted husable
        hemail
      exact hreached
    · exact h.reached t' attempt' _ _ _ hold hsaving i other hcommitted husable hemail

theorem commit (h : AttemptRows db) (t : ℕ) (call : AttemptCall) (a : Option String)
    (snapshot : ℕ) (hpast : snapshot ≤ db.clock) : AttemptRows (db.commit t call a snapshot) := by
  constructor
  · intro t' call' phase' snapshot' htransaction
    rcases Database.transactions_commit_cases htransaction with ⟨rfl, hset⟩ | ⟨-, hold⟩
    · cases hset
      exact .committed _ _
    · exact h.phases t' _ _ _ hold
  · intro t' call' phase' snapshot' htransaction
    show snapshot' ≤ db.clock + 1
    rcases Database.transactions_commit_cases htransaction with ⟨rfl, hset⟩ | ⟨-, hold⟩
    · cases hset
      omega
    · have hpast := h.past t' _ _ _ hold
      omega
  · intro i t' attempt hcommitted hpending
    obtain ⟨hold, ht, hslot⟩ := Slot.pending_of_commit hpending
    rw [Database.transactions_commit_of_ne _ _ ht]
    have hcommitted' : ((db.slots i).commit t (db.clock + 1)).committed = none := hcommitted
    rw [hslot] at hcommitted'
    exact h.fresh i t' attempt hcommitted' hold
  · intro i j t' b c hi hb hj hc
    obtain ⟨holdi, -, hsloti⟩ := Slot.pending_of_commit hb
    obtain ⟨holdj, -, hslotj⟩ := Slot.pending_of_commit hc
    have hi' : ((db.slots i).commit t (db.clock + 1)).committed = none := hi
    have hj' : ((db.slots j).commit t (db.clock + 1)).committed = none := hj
    rw [hsloti] at hi'
    rw [hslotj] at hj'
    exact h.single i j t' b c hi' holdi hj' holdj
  · intro t' attempt now snapshot' htransaction
    have ht : t' ≠ t := by
      rintro rfl
      rw [Database.transactions_commit_self] at htransaction
      cases htransaction
    rw [Database.transactions_commit_of_ne _ _ ht] at htransaction
    obtain ⟨i, hcommitted, hpending⟩ := h.inserted t' attempt now snapshot' htransaction
    refine ⟨i, ?_⟩
    show ((db.slots i).commit t (db.clock + 1)).committed = none ∧
      ((db.slots i).commit t (db.clock + 1)).pending = some (t', attempt)
    rw [Slot.commit_of_pending hpending ht]
    exact ⟨hcommitted, hpending⟩
  · intro i t' old new hcommitted hpending
    obtain ⟨hold, -, hslot⟩ := Slot.pending_of_commit hpending
    have hcommitted' : ((db.slots i).commit t (db.clock + 1)).committed = some old := hcommitted
    rw [hslot] at hcommitted'
    exact h.replacing i t' old new hcommitted' hold
  · intro t' attempt call' phase' snapshot' htransaction hsaving i other hcommitted husable hemail
    have ht : t' ≠ t := by
      rintro rfl
      rw [Database.transactions_commit_self] at htransaction
      cases htransaction
      cases hsaving
    rw [Database.transactions_commit_of_ne _ _ ht] at htransaction
    have hcommitted' : ((db.slots i).commit t (db.clock + 1)).committed = some other := hcommitted
    show i ∈ left phase' ∨
      (∃ new, ((db.slots i).commit t (db.clock + 1)).pending = some (t', new)) ∨
      snapshot' < ((db.slots i).commit t (db.clock + 1)).bornAt
    rcases (db.slots i).commit_cases t (db.clock + 1) with ⟨row, hpending, hslot⟩ | ⟨-, hslot⟩
    · rw [hslot] at hcommitted' ⊢
      cases hcommitted'
      cases hold : (db.slots i).committed with
      | some old => exact absurd husable (h.replacing i t old other hold hpending)
      | none =>
          -- the row was committed just now, after the update of this save began
          refine Or.inr (Or.inr ?_)
          have hpast := h.past t' _ _ _ htransaction
          show snapshot' < db.clock + 1
          omega
    · rw [hslot] at hcommitted' ⊢
      exact h.reached t' attempt _ _ _ htransaction hsaving i other hcommitted' husable hemail

theorem abort (h : AttemptRows db) (t : ℕ) (call : AttemptCall) (snapshot : ℕ)
    (hpast : snapshot ≤ db.clock) : AttemptRows (db.abort t call snapshot) := by
  have hcommitted : ∀ i, ((db.abort t call snapshot).slots i).committed = (db.slots i).committed :=
    fun i => Slot.committed_rollback t (db.slots i)
  constructor
  · intro t' call' phase' snapshot' htransaction
    rcases Database.transactions_abort_cases htransaction with ⟨rfl, hset⟩ | ⟨-, hold⟩
    · cases hset
      exact .aborted _
    · exact h.phases t' _ _ _ hold
  · intro t' call' phase' snapshot' htransaction
    rcases Database.transactions_abort_cases htransaction with ⟨rfl, hset⟩ | ⟨-, hold⟩
    · cases hset
      exact hpast
    · exact h.past t' _ _ _ hold
  · intro i t' attempt hnone hpending
    obtain ⟨hold, ht⟩ := Slot.pending_of_rollback hpending
    rw [Database.transactions_abort_of_ne _ _ ht]
    exact h.fresh i t' attempt (hcommitted i ▸ hnone) hold
  · intro i j t' b c hi hb hj hc
    exact h.single i j t' b c (hcommitted i ▸ hi) (Slot.pending_of_rollback hb).1
      (hcommitted j ▸ hj) (Slot.pending_of_rollback hc).1
  · intro t' attempt now snapshot' htransaction
    have ht : t' ≠ t := by
      rintro rfl
      rw [Database.transactions_abort_self] at htransaction
      cases htransaction
    rw [Database.transactions_abort_of_ne _ _ ht] at htransaction
    obtain ⟨i, hnone, hpending⟩ := h.inserted t' attempt now snapshot' htransaction
    refine ⟨i, (hcommitted i).trans hnone, ?_⟩
    show ((db.slots i).rollback t).pending = some (t', attempt)
    rw [Slot.rollback_of_pending hpending ht]
    exact hpending
  · intro i t' old new hold hpending
    exact h.replacing i t' old new (hcommitted i ▸ hold) (Slot.pending_of_rollback hpending).1
  · intro t' attempt call' phase' snapshot' htransaction hsaving i other hold husable hemail
    have ht : t' ≠ t := by
      rintro rfl
      rw [Database.transactions_abort_self] at htransaction
      cases htransaction
      cases hsaving
    rw [Database.transactions_abort_of_ne _ _ ht] at htransaction
    show i ∈ left phase' ∨ (∃ new, ((db.slots i).rollback t).pending = some (t', new)) ∨
      snapshot' < ((db.slots i).rollback t).bornAt
    rw [Slot.bornAt_rollback]
    have hold' : (db.slots i).committed = some other := hcommitted i ▸ hold
    rcases h.reached t' attempt _ _ _ htransaction hsaving i other hold' husable hemail with
      hleft | ⟨new, hpending⟩ | hborn
    · exact Or.inl hleft
    · refine Or.inr (Or.inl ⟨new, ?_⟩)
      rw [Slot.rollback_of_pending hpending ht]
      exact hpending
    · exact Or.inr (Or.inr hborn)

end AttemptRows

theorem inAttempts_begun (call : AttemptCall) : InAttempts call (.ready (attemptProgram call)) := by
  cases call with
  | saveNewAttempt attempt now => exact .beginsSave attempt now
  | consumeEmailByDigest digest now => exact .beginsConsume digest now

/-- A save has not begun its update before its first statement. -/
theorem not_saving_begun {attempt : VerificationAttempt} {call : AttemptCall} :
    ¬ Saving attempt call (.ready (attemptProgram call)) := by
  intro h
  cases call with
  | saveNewAttempt attempt now => cases h
  | consumeEmailByDigest digest now => cases h

/-- **Every effect keeps what is known of the rows.** -/
theorem attemptRows_effect {db db' : AttemptDatabase} {e : ReadCommitted.Step AttemptCall}
    (hwell : db.WellFormed) (hsnapshots : db.Snapshots) (h : AttemptRows db)
    (heffect : attemptServer.Effect db e db') :
    AttemptRows db' := by
  cases heffect with
  | none => exact h
  | began fresh =>
      rename_i t call
      refine h.setTransaction (inAttempts_begun call) (Nat.zero_le _) ?_ ?_ ?_
      · intro i attempt _ hpending
        obtain ⟨_, _, _, hold, -⟩ := hwell.owner _ _ _ hpending
        rw [fresh] at hold
        cases hold
      · rintro attempt now rfl hphase
        cases hphase
      · intro attempt hsaving
        exact absurd hsaving not_saving_begun
  | locked here free => cases h.phases _ _ _ _ here
  | selected here => cases h.phases _ _ _ _ here
  | started here =>
      have hfresh := h.no_fresh here (by simp)
      cases h.phases _ _ _ _ here with
      | beginsSave attempt now =>
          refine h.setTransaction (.invalidating attempt now _ _) le_rfl hfresh (by simp) ?_
          intro attempt' hsaving i other hcommitted husable hemail
          cases hsaving
          rename_i t snapshot
          -- the update sees the attempt, and it is usable
          by_cases hown : ∃ new, (db.slots i).pending = some (t, new)
          · exact Or.inr (Or.inl hown)
          · refine Or.inl (Database.mem_targets.2 ⟨?_, other, ?_, ?_⟩)
            · exact hwell.lt_size_of_committed hcommitted
            · exact Slot.seenBy_of_committed hcommitted fun new hpending => hown ⟨new, hpending⟩
            · exact usableOf_eq_true_iff.2 ⟨hemail, husable⟩
      | beginsConsume digest now =>
          refine h.setTransaction (.consuming digest now _ _) le_rfl hfresh (by simp) ?_
          intro attempt hsaving
          cases hsaving
  | wrote here target free seen matched =>
      rename_i t i call snapshot targets filter set returned next row
      have hfresh := h.no_fresh here (by simp)
      obtain ⟨old, hcommitted⟩ : ∃ old, (db.slots i).committed = some old := by
        rcases hsnapshots.targets _ _ _ _ _ _ _ _ here i target with
          ⟨old, hcommitted, -⟩ | ⟨hnone, own, hpending⟩
        · exact ⟨old, hcommitted⟩
        · exact absurd hpending (hfresh i own hnone)
      have hnew : ¬ (set row).Usable := by
        cases h.phases _ _ _ _ here with
        | invalidating attempt now => exact not_usable_setInvalidated now row
        | consuming digest now => exact row.not_usable_consume now
      have hwrite := h.write hcommitted free hnew
      have here' : (db.write t i (set row)).transactions t =
        some ⟨call, .updating targets filter set returned next, snapshot⟩ := here
      have hfresh' := hwrite.no_fresh here' (by simp)
      refine hwrite.setTransaction ?_ (h.past _ _ _ _ here) hfresh' (by simp) ?_
      · cases h.phases _ _ _ _ here with
        | invalidating attempt now => exact .invalidating attempt now _ _
        | consuming digest now => exact .consuming digest now _ _
      · intro attempt hsaving j other hother husable hemail
        have hold : Saving attempt call (.updating targets filter set returned next) := by
          cases hsaving
          exact .invalidating _ _ _
        rcases hwrite.reached t attempt _ _ _ here' hold j other hother husable hemail with
          hleft | hpending | hborn
        · by_cases hj : j = i
          · subst hj
            exact Or.inr (Or.inl ⟨set row, by rw [Database.slots_write_self]⟩)
          · exact Or.inl (List.mem_filter.2 ⟨hleft, by simpa using hj⟩)
        · exact Or.inr (Or.inl hpending)
        · exact Or.inr (Or.inr hborn)
  | skipped here target free unmatched =>
      rename_i t i call snapshot targets filter set returned next
      have hfresh := h.no_fresh here (by simp)
      refine h.setTransaction ?_ (h.past _ _ _ _ here) hfresh (by simp) ?_
      · cases h.phases _ _ _ _ here with
        | invalidating attempt now => exact .invalidating attempt now _ _
        | consuming digest now => exact .consuming digest now _ _
      · intro attempt hsaving j other hother husable hemail
        cases hsaving with
        | invalidating now =>
            have hreached := h.reached t attempt _ _ _ here (.invalidating now _ _)
            rcases hreached j other hother husable hemail with hleft | hpending | hborn
            · by_cases hj : j = i
              · subst hj
                -- a row that is skipped is not usable, unless this save has written it
                rcases Slot.seenBy_of_not_locked free with hown | ⟨-, hseen⟩
                · exact Or.inr (Or.inl hown)
                · have hunmatched := unmatched other (hseen.trans hother)
                  rw [usableOf_eq_true_iff.2 ⟨hemail, husable⟩] at hunmatched
                  cases hunmatched
              · exact Or.inl (List.mem_filter.2 ⟨hleft, by simpa using hj⟩)
            · exact Or.inr (Or.inl hpending)
            · exact Or.inr (Or.inr hborn)
  | ended here =>
      have hfresh := h.no_fresh here (by simp)
      have hpast := h.past _ _ _ _ here
      cases h.phases _ _ _ _ here with
      | invalidating attempt now =>
          refine h.setTransaction (.invalidated attempt now) hpast hfresh (by simp) ?_
          intro attempt' hsaving j other hother husable hemail
          cases hsaving
          exact h.reached _ attempt _ _ _ here (.invalidating now _ _) j other hother husable hemail
      | consuming digest now =>
          refine h.setTransaction (.consumed digest now _) hpast hfresh (by simp) ?_
          intro attempt hsaving
          cases hsaving
  | inserted here free accepts =>
      cases h.phases _ _ _ _ here with
      | invalidated attempt now => exact h.insert hwell here
  | committed here => exact h.commit _ _ _ _ (h.past _ _ _ _ here)
  | aborted here going => exact h.abort _ _ _ (h.past _ _ _ _ here)

/-- **What is known of the rows holds over every interleaving.** -/
theorem attemptRows_after (steps : List (ReadCommitted.Step AttemptCall)) :
    AttemptRows (attemptServer.after steps) := by
  refine (Server.after_invariant
    (I := fun db : AttemptDatabase => (db.WellFormed ∧ db.Snapshots) ∧ AttemptRows db)
    ⟨⟨Database.wellFormed_empty, ?_⟩, ?_⟩ ?_ steps).2
  · constructor
    · intro t call targets filter set returned next snapshot h
      cases h
    · intro t call phase snapshot h
      cases h
  · constructor
    · intro t call phase snapshot h
      cases h
    · intro t call phase snapshot h
      cases h
    · intro i t attempt hnone h
      cases h
    · intro i j t a b hi ha
      cases ha
    · intro t attempt now snapshot h
      cases h
    · intro i t old new h
      cases h
    · intro t attempt call phase snapshot h
      cases h
  · rintro db e db' ⟨⟨hwell, hsnapshots⟩, h⟩ heffect
    exact ⟨⟨Server.wellFormed_effect hwell heffect,
      Server.snapshots_effect hwell hsnapshots heffect⟩,
      attemptRows_effect hwell hsnapshots h heffect⟩

/-! ### Usable attempts -/

/-- No two usable attempts that are committed have one address. -/
def OneUsable (db : AttemptDatabase) : Prop :=
  ∀ i j a b, (db.slots i).committed = some a → (db.slots j).committed = some b → a.Usable →
    b.Usable → a.canonicalEmail = b.canonicalEmail → i = j

/-- A save that is about to commit misses a usable attempt of its address: it was committed after
the update of the save had begun. -/
def Misses (db : AttemptDatabase) (t : ℕ) : Prop :=
  ∃ attempt now snapshot i other,
    db.transactions t = some ⟨.saveNewAttempt attempt now, .ready (.ret none), snapshot⟩ ∧
      attempt.Usable ∧ (db.slots i).committed = some other ∧ other.Usable ∧
      other.canonicalEmail = attempt.canonicalEmail ∧ snapshot < (db.slots i).bornAt

/-- A commit leaves one usable attempt of every address, unless it misses one. -/
theorem OneUsable.commit {db : AttemptDatabase} (h : OneUsable db) (hrows : AttemptRows db) {t : ℕ}
    (hmisses : ¬ Misses db t) (call : AttemptCall) (a : Option String) (snapshot : ℕ) :
    OneUsable (db.commit t call a snapshot) := by
  -- what is usable afterwards was committed before, or is the one row of a save
  have hbefore : ∀ i attempt, ((db.slots i).commit t (db.clock + 1)).committed = some attempt →
      attempt.Usable →
      (db.slots i).committed = some attempt ∧ (∀ new, (db.slots i).pending ≠ some (t, new)) ∨
        (db.slots i).committed = none ∧ (db.slots i).pending = some (t, attempt) := by
    intro i attempt hcommitted husable
    rcases Slot.committed_commit_cases hcommitted with hpending | hleft
    · cases hold : (db.slots i).committed with
      | none => exact Or.inr ⟨rfl, hpending⟩
      | some old => exact absurd husable (hrows.replacing i t old attempt hold hpending)
    · exact Or.inl hleft
  -- the row of a save and a usable attempt of its address that it has not written
  have hmissed : ∀ i j new other, (db.slots i).committed = none →
      (db.slots i).pending = some (t, new) → new.Usable → (db.slots j).committed = some other →
      (∀ row, (db.slots j).pending ≠ some (t, row)) → other.Usable →
      other.canonicalEmail ≠ new.canonicalEmail := by
    intro i j new other hnone hpending hnew hother hnot husable hemail
    obtain ⟨now, snapshot', here⟩ := hrows.fresh i t new hnone hpending
    rcases hrows.reached t new _ _ _ here (.saved now) j other hother husable hemail with
      hleft | ⟨row, hrow⟩ | hborn
    · cases hleft
    · exact hnot row hrow
    · exact hmisses ⟨new, now, snapshot', j, other, here, hnew, hother, husable, hemail, hborn⟩
  intro i j b c hb hc hbusable hcusable hemail
  rcases hbefore i b hb hbusable with ⟨hi, hinot⟩ | ⟨hi, hipending⟩
  · rcases hbefore j c hc hcusable with ⟨hj, -⟩ | ⟨hj, hjpending⟩
    · exact h i j b c hi hj hbusable hcusable hemail
    · exact absurd hemail (hmissed j i c b hj hjpending hcusable hi hinot hbusable)
  · rcases hbefore j c hc hcusable with ⟨hj, hjnot⟩ | ⟨hj, hjpending⟩
    · exact absurd hemail.symm (hmissed i j b c hi hipending hbusable hj hjnot hcusable)
    · exact hrows.single i j t b c hi hipending hj hjpending

/-- A save that misses an attempt leaves two usable ones. -/
theorem Misses.not_oneUsable {db : AttemptDatabase} (hsnapshots : db.Snapshots)
    (hrows : AttemptRows db) {t : ℕ} (h : Misses db t) :
    ¬ OneUsable (attemptServer.step db (.commit t)) := by
  obtain ⟨attempt, now, snapshot, i, other, here, hattempt, hother, husable, hemail, hborn⟩ := h
  obtain ⟨j, hnone, hpending⟩ := hrows.inserted t attempt now snapshot here
  rw [Server.step_commit here]
  intro hone
  have hi : ((db.slots i).commit t (db.clock + 1)).committed = some other := by
    rcases (db.slots i).commit_cases t (db.clock + 1) with ⟨row, hown, -⟩ | ⟨-, hslot⟩
    · -- the save has not written the attempt, because it was not in the snapshot of its update
      have hold := hsnapshots.written t _ _ _ here i row other hown hother
      omega
    · rw [hslot]
      exact hother
  have hj : ((db.slots j).commit t (db.clock + 1)).committed = some attempt :=
    Slot.committed_commit_of_pending hpending
  have hsame := hone i j other attempt hi hj husable hattempt hemail
  rw [hsame, hnone] at hother
  cases hother

/-- **An address has at most one usable attempt at every moment of a run exactly if no save commits
that misses one.** -/
theorem postgres_one_usable_iff (steps : List (ReadCommitted.Step AttemptCall)) :
    (∀ pre post, steps = pre ++ post → OneUsable (attemptServer.after pre)) ↔
      ∀ pre t post, steps = pre ++ .commit t :: post → ¬ Misses (attemptServer.after pre) t := by
  constructor
  · rintro h pre t post rfl hmisses
    have hone := h (pre ++ [.commit t]) post (by simp)
    rw [Server.after_concat] at hone
    exact hmisses.not_oneUsable (Server.snapshots_after pre) (attemptRows_after pre) hone
  · rintro h pre post rfl
    induction pre using List.reverseRecOn generalizing post with
    | nil =>
        intro i j a b hi
        cases hi
    | append_singleton pre e ih =>
        have hbefore : OneUsable (attemptServer.after pre) := ih (e :: post) (by simpa using h)
        have hwell : (attemptServer.after pre).WellFormed := Server.wellFormed_after pre
        have heffect : attemptServer.Effect (attemptServer.after pre) e
            (attemptServer.step (attemptServer.after pre) e) := Server.step_effect _ e
        rw [Server.after_concat]
        rcases Server.committed_effect hwell heffect with
          ⟨t, call, a, snapshot, rfl, -, hcommit⟩ | hsame
        · rw [hcommit]
          exact hbefore.commit (attemptRows_after pre) (h pre t post (by simp)) call a snapshot
        · intro i j a b hi hj
          rw [hsame] at hi hj
          exact hbefore i j a b hi hj

/-! ### Two saves that overlap -/

/-- An attempt to verify the address of Ann. -/
def annAttempt (attemptId : String) (digest : ℕ) : VerificationAttempt :=
  ⟨attemptId, "ann@example.com", .ofNat digest, 900, 0, none, none, quarterHour_pos⟩

/-- Two saves: both update before either inserts. -/
def overlappingSaves : List (ReadCommitted.Step AttemptCall) :=
  [.begin 0 (.saveNewAttempt (annAttempt "a1" 1) 0),
    .begin 1 (.saveNewAttempt (annAttempt "a2" 2) 1),
    .statement 0, .statement 0, .statement 1, .statement 1, .statement 0, .statement 1, .commit 0,
    .commit 1]

/-- Both saves have committed, and both attempts are usable. -/
theorem two_saves_two_links :
    let db := attemptServer.after overlappingSaves
    (∀ t ∈ [0, 1], ∃ call snapshot, db.transactions t = some ⟨call, .committed none, snapshot⟩) ∧
      (db.slots 0).committed = some (annAttempt "a1" 1) ∧
      (db.slots 1).committed = some (annAttempt "a2" 2) ∧ ¬ OneUsable db := by
  intro db
  have hfirst : (db.slots 0).committed = some (annAttempt "a1" 1) := by decide
  have hsecond : (db.slots 1).committed = some (annAttempt "a2" 2) := by decide
  refine ⟨?_, hfirst, hsecond, ?_⟩
  · intro t ht
    rcases List.mem_pair.1 ht with rfl | rfl
    · exact ⟨_, _, rfl⟩
    · exact ⟨_, _, rfl⟩
  intro hone
  have hsame := hone 0 1 _ _ hfirst hsecond ⟨rfl, rfl⟩ ⟨rfl, rfl⟩ rfl
  cases hsame

end PlatformOps
