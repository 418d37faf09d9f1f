/-
**Accounts and their verified addresses.**

An account is created for an address when the address is verified first, and recovered ever after.
The store in memory holds a lock while it looks the address up and stores what it created; the
database takes an advisory lock on the address, looks it up with a second statement, and inserts an
account and a contact, all in one transaction.

Main definitions:

* `AccountTables`, `AccountTables.AccountOf`, `AccountTables.Sound` — accounts and contacts,
  wherever they are stored, and what they must look like;
* `accountSchema`, `createOrRecoverProgram`, `accountServer` — the tables and their transactions;
* `OwnRows` — how far a transaction is, and what it has written;
* `AccountRows` — what is known of the rows at every moment;
* `usersAfter` — the store in memory after some calls.

Main results:

* `accountRows_after` — the invariant of the interleavings;
* `sound_accountTables`, `sound_userTables` — both stores are sound in every run;
* `one_account_per_email` — **an address has one account, which every successful call for it
  returns, and which is the account of no other address**.
-/

import PlatformOps.ReadCommitted
import PlatformOps.Registration

set_option relaxedAutoImplicit false
set_option autoImplicit false

namespace PlatformOps

open ReadCommitted

/-! ### Accounts of addresses -/

/-- The accounts and the contacts that are stored. -/
structure AccountTables where
  accounts : Set UserAccount
  contacts : Set VerifiedEmailContact

/-- The account is stored, and so is a contact that gives it to the address. -/
def AccountTables.AccountOf (tables : AccountTables) (canonicalEmail : String)
    (account : UserAccount) : Prop :=
  account ∈ tables.accounts ∧ ∃ contact ∈ tables.contacts,
    contact.canonicalEmail = canonicalEmail ∧ contact.userSubject = account.subject

/-- An address has one account at most, an account has exactly one address, and every contact refers
to an account. -/
structure AccountTables.Sound (tables : AccountTables) : Prop where
  one : ∀ email a b, tables.AccountOf email a → tables.AccountOf email b → a = b
  apart : ∀ email email' a, tables.AccountOf email a → tables.AccountOf email' a → email = email'
  referenced : ∀ contact ∈ tables.contacts,
    ∃ account ∈ tables.accounts, contact.userSubject = account.subject
  owned : ∀ account ∈ tables.accounts, ∃ email, tables.AccountOf email account

/-! ### The tables and their transactions -/

/-- A row of one of the tables. -/
inductive AccountRow
  | account (account : UserAccount)
  | contact (contact : VerifiedEmailContact)
  deriving DecidableEq

/-- The unique keys of the tables. -/
inductive AccountKey
  | subject (subject : String)
  | contactId (contactId : String)
  | canonicalEmail (canonicalEmail : String)
  deriving DecidableEq

/-- `auth_user_accounts` and `auth_verified_email_contacts`. -/
def accountSchema : Schema AccountKey AccountRow where
  keys
    | .account account => [.subject account.subject]
    | .contact contact => [.contactId contact.contactId, .canonicalEmail contact.canonicalEmail]
  references
    | .account _ => []
    | .contact contact => [.subject contact.userSubject]
  check _ := true

/-- A call, with an address that has a canonical form: all others raise before their transaction. -/
structure AccountCall (codec : IdnaCodec) where
  email : String
  localPart : String
  domain : String
  verifiedAt : ℕ
  generated : GeneratedUser
  canonical : canonicalizeEmail codec email = .ok (localPart, domain)

namespace AccountCall

variable {codec : IdnaCodec} (call : AccountCall codec)

/-- The canonical address. -/
def canonicalEmail : String := call.localPart ++ "@" ++ call.domain

/-- The account the call creates, if it creates one. -/
def account : UserAccount := call.generated.account

/-- The contact of that account. -/
def contact : VerifiedEmailContact :=
  ⟨call.generated.contactId, call.account.subject, call.email, call.canonicalEmail, call.domain,
    call.verifiedAt⟩

end AccountCall

/-- The first row of the contacts of an address joined with their accounts. -/
def joinedAccount (rows : List AccountRow) (canonicalEmail : String) : Option UserAccount :=
  rows.findSome? fun
    | .contact contact =>
        if contact.canonicalEmail = canonicalEmail then
          rows.findSome? fun
            | .account account =>
                if account.subject = contact.userSubject then some account else none
            | .contact _ => none
        else none
    | .account _ => none

variable {codec : IdnaCodec} (hashtext : String → ℤ)

/-- What a call does once it has looked its address up. -/
def recoverOrInsert (call : AccountCall codec) (rows : List AccountRow) :
    Program ℤ AccountRow UserAccount :=
  match joinedAccount rows call.canonicalEmail with
  | some account => .ret account
  | none => .insert (.account call.account) (.insert (.contact call.contact) (.ret call.account))

/-- `create_or_recover_verified_user`: the lock, the look-up, and the inserts. -/
def createOrRecoverProgram (call : AccountCall codec) : Program ℤ AccountRow UserAccount :=
  .lock (hashtext call.canonicalEmail) (.select (recoverOrInsert call))

/-- The server with the tables. -/
def accountServer (codec : IdnaCodec) (hashtext : String → ℤ) :
    Server ℤ AccountKey AccountRow UserAccount (AccountCall codec) :=
  { accountSchema with main := createOrRecoverProgram hashtext }

/-- The database of the accounts. -/
abbrev AccountDatabase (codec : IdnaCodec) := Database ℤ AccountRow UserAccount (AccountCall codec)

/-- What is committed. -/
def accountTables (db : AccountDatabase codec) : AccountTables where
  accounts := {account | ∃ i, (db.slots i).committed = some (.account account)}
  contacts := {contact | ∃ i, (db.slots i).committed = some (.contact contact)}

/-- What the look-up finds is the account of a contact of the address. -/
theorem joinedAccount_eq_some {rows : List AccountRow} {email : String} {account : UserAccount}
    (h : joinedAccount rows email = some account) :
    .account account ∈ rows ∧ ∃ contact, .contact contact ∈ rows ∧
      contact.canonicalEmail = email ∧ contact.userSubject = account.subject := by
  obtain ⟨row, hrow, hjoin⟩ := List.exists_of_findSome?_eq_some h
  cases row with
  | account other => cases hjoin
  | contact contact =>
      dsimp only at hjoin
      split at hjoin
      · rename_i hemail
        obtain ⟨row', hrow', hfound⟩ := List.exists_of_findSome?_eq_some hjoin
        cases row' with
        | contact other => cases hfound
        | account other =>
            dsimp only at hfound
            split at hfound
            · rename_i hsubject
              cases hfound
              exact ⟨hrow', contact, hrow, hemail, hsubject.symm⟩
            · cases hfound
      · cases hjoin

/-- The transactions update nothing. -/
theorem keepsKeys_createOrRecover (call : AccountCall codec) :
    (accountServer codec hashtext).KeepsKeys (createOrRecoverProgram hashtext call) := by
  intro rows
  unfold recoverOrInsert
  cases joinedAccount rows call.canonicalEmail with
  | some account => trivial
  | none => trivial

/-! ### How far a transaction is -/

/-- The transaction has written these rows only. -/
def WritesOnly (db : AccountDatabase codec) (t : ℕ) (rows : List AccountRow) : Prop :=
  ∀ i row, (db.slots i).pending = some (t, row) → row ∈ rows

/-- The transaction has written this row. -/
def Writes (db : AccountDatabase codec) (t : ℕ) (row : AccountRow) : Prop :=
  ∃ i, (db.slots i).pending = some (t, row)

/-- How far the transaction of a call is, and what it has written. -/
inductive OwnRows (db : AccountDatabase codec) (t : ℕ) (call : AccountCall codec) :
    Phase ℤ AccountRow UserAccount → Prop
  | begun (h : WritesOnly db t []) :
      OwnRows db t call
        (.ready (.lock (hashtext call.canonicalEmail) (.select (recoverOrInsert call))))
  | locked (h : WritesOnly db t []) : OwnRows db t call (.ready (.select (recoverOrInsert call)))
  | found {account : UserAccount} (h : WritesOnly db t [])
      (hof : (accountTables db).AccountOf call.canonicalEmail account) :
      OwnRows db t call (.ready (.ret account))
  | absent (h : WritesOnly db t []) :
      OwnRows db t call (.ready
        (.insert (.account call.account) (.insert (.contact call.contact) (.ret call.account))))
  | half (h : WritesOnly db t [.account call.account])
      (haccount : Writes db t (.account call.account)) :
      OwnRows db t call (.ready (.insert (.contact call.contact) (.ret call.account)))
  | created (h : WritesOnly db t [.account call.account, .contact call.contact])
      (haccount : Writes db t (.account call.account))
      (hcontact : Writes db t (.contact call.contact)) :
      OwnRows db t call (.ready (.ret call.account))
  | committed {account : UserAccount} (h : WritesOnly db t [])
      (hof : (accountTables db).AccountOf call.canonicalEmail account) :
      OwnRows db t call (.committed account)
  | aborted (h : WritesOnly db t []) : OwnRows db t call .aborted

variable {hashtext}

theorem AccountTables.AccountOf.mono {tables tables' : AccountTables} {email : String}
    {account : UserAccount} (h : tables.AccountOf email account)
    (haccounts : tables.accounts ⊆ tables'.accounts)
    (hcontacts : tables.contacts ⊆ tables'.contacts) : tables'.AccountOf email account := by
  obtain ⟨haccount, contact, hcontact, hemail⟩ := h
  exact ⟨haccounts haccount, contact, hcontacts hcontact, hemail⟩

/-- What is committed stays committed. -/
def Keeps (db db' : AccountDatabase codec) : Prop :=
  ∀ i row, (db.slots i).committed = some row → (db'.slots i).committed = some row

theorem Keeps.accountOf {db db' : AccountDatabase codec} (h : Keeps db db') {email : String}
    {account : UserAccount} (hof : (accountTables db).AccountOf email account) :
    (accountTables db').AccountOf email account := by
  refine hof.mono ?_ ?_
  · rintro account' ⟨i, hi⟩
    exact ⟨i, h i _ hi⟩
  · rintro contact ⟨i, hi⟩
    exact ⟨i, h i _ hi⟩

/-- A transaction is where it was when another one takes a step. -/
theorem OwnRows.frame {db db' : AccountDatabase codec} {t : ℕ} {call : AccountCall codec}
    {phase : Phase ℤ AccountRow UserAccount} (h : OwnRows hashtext db t call phase)
    (hpending : ∀ i row,
      (db'.slots i).pending = some (t, row) ↔ (db.slots i).pending = some (t, row))
    (hkeeps : Keeps db db') : OwnRows hashtext db' t call phase := by
  have honly : ∀ {rows}, WritesOnly db t rows → WritesOnly db' t rows := by
    intro rows hrows i row hrow
    exact hrows i row ((hpending i row).1 hrow)
  have hwrites : ∀ {row}, Writes db t row → Writes db' t row := by
    rintro row ⟨i, hi⟩
    exact ⟨i, (hpending i row).2 hi⟩
  cases h with
  | begun h => exact .begun (honly h)
  | locked h => exact .locked (honly h)
  | found h hof => exact .found (honly h) (hkeeps.accountOf hof)
  | absent h => exact .absent (honly h)
  | half h haccount => exact .half (honly h) (hwrites haccount)
  | created h haccount hcontact => exact .created (honly h) (hwrites haccount) (hwrites hcontact)
  | committed h hof => exact .committed (honly h) (hkeeps.accountOf hof)
  | aborted h => exact .aborted (honly h)

/-! ### The rows -/

/-- What is known of the rows at every moment: every transaction is somewhere, nothing is written
over a committed row, contacts and accounts belong together, and no account has two contacts. -/
structure AccountRows (hashtext : String → ℤ) (db : AccountDatabase codec) : Prop where
  own : ∀ t call phase snapshot, db.transactions t = some ⟨call, phase, snapshot⟩ →
    OwnRows hashtext db t call phase
  isNew : ∀ i t row, (db.slots i).pending = some (t, row) → (db.slots i).committed = none
  contact : ∀ j contact, (db.slots j).committed = some (.contact contact) →
    ∃ i account, (db.slots i).committed = some (.account account) ∧
      contact.userSubject = account.subject
  account : ∀ i account, (db.slots i).committed = some (.account account) →
    ∃ j contact, (db.slots j).committed = some (.contact contact) ∧
      contact.userSubject = account.subject
  apart : ∀ i j a b, (db.slots i).committed = some (.contact a) →
    (db.slots j).committed = some (.contact b) → a.userSubject = b.userSubject → i = j

namespace AccountRows

variable {db : AccountDatabase codec} {t : ℕ} {call : AccountCall codec}
  {phase : Phase ℤ AccountRow UserAccount} {snapshot : ℕ}

/-- A transaction goes on, and no row changes. -/
theorem setTransaction (h : AccountRows hashtext db) (hown : OwnRows hashtext db t call phase) :
    AccountRows hashtext (db.setTransaction t ⟨call, phase, snapshot⟩) := by
  refine ⟨?_, h.isNew, h.contact, h.account, h.apart⟩
  intro t' call' phase' snapshot' htransaction
  rcases Database.transactions_setTransaction_cases htransaction with ⟨rfl, hset⟩ | ⟨-, hold⟩
  · cases hset
    exact hown.frame (fun _ _ => Iff.rfl) (fun _ _ hcommitted => hcommitted)
  · exact (h.own t' _ _ _ hold).frame (fun _ _ => Iff.rfl) (fun _ _ hc => hc)

/-- A transaction inserts a row. -/
theorem insert (h : AccountRows hashtext db) (hwell : db.WellFormed) {row : AccountRow}
    (hown : OwnRows hashtext (db.append t row) t call phase) :
    AccountRows hashtext ((db.append t row).setTransaction t ⟨call, phase, snapshot⟩) := by
  have hkeeps : Keeps db (db.append t row) := by
    intro i row' hcommitted
    rw [hwell.committed_append]
    exact hcommitted
  have hsame : ∀ {i row'}, (((db.append t row).setTransaction t ⟨call, phase, snapshot⟩).slots
      i).committed = some row' → (db.slots i).committed = some row' := by
    intro i row' hcommitted
    rw [Database.slots_setTransaction, hwell.committed_append] at hcommitted
    exact hcommitted
  constructor
  · intro t' call' phase' snapshot' htransaction
    rcases Database.transactions_setTransaction_cases htransaction with ⟨rfl, hset⟩ | ⟨ht, hold⟩
    · cases hset
      exact hown.frame (fun _ _ => Iff.rfl) (fun _ _ hcommitted => hcommitted)
    · exact (h.own t' _ _ _ hold).frame (hwell.pending_append_iff ht row) hkeeps
  · intro i t' row' hpending
    rw [Database.slots_setTransaction] at hpending ⊢
    by_cases hi : i = db.size
    · subst hi
      rw [Database.slots_append_self]
    · rw [Database.slots_append_of_ne _ _ hi] at hpending ⊢
      exact h.isNew i t' row' hpending
  · intro j contact hcommitted
    obtain ⟨i, account, haccount, hsubject⟩ := h.contact j contact (hsame hcommitted)
    exact ⟨i, account, hkeeps i _ haccount, hsubject⟩
  · intro i account hcommitted
    obtain ⟨j, contact, hcontact, hsubject⟩ := h.account i account (hsame hcommitted)
    exact ⟨j, contact, hkeeps j _ hcontact, hsubject⟩
  · intro i j a b ha hb
    exact h.apart i j a b (hsame ha) (hsame hb)

/-- A transaction is aborted. -/
theorem abort (h : AccountRows hashtext db) (t : ℕ) (call : AccountCall codec) (snapshot : ℕ) :
    AccountRows hashtext (db.abort t call snapshot) := by
  have hcommitted : ∀ i, ((db.abort t call snapshot).slots i).committed = (db.slots i).committed :=
    fun i => Slot.committed_rollback t (db.slots i)
  have hkeeps : Keeps db (db.abort t call snapshot) := fun i row hrow => (hcommitted i).trans hrow
  constructor
  · intro t' call' phase' snapshot' htransaction
    rcases Database.transactions_abort_cases htransaction with ⟨rfl, hset⟩ | ⟨ht, hold⟩
    · cases hset
      refine .aborted ?_
      intro i row hpending
      exact absurd rfl (Slot.pending_of_rollback hpending).2
    · exact (h.own t' _ _ _ hold).frame (Database.pending_abort_iff ht call snapshot) hkeeps
  · intro i t' row hpending
    exact (hcommitted i).trans (h.isNew i t' row (Slot.pending_of_rollback hpending).1)
  · intro j contact hcontact
    obtain ⟨i, account, haccount, hsubject⟩ := h.contact j contact (hcommitted j ▸ hcontact)
    exact ⟨i, account, hkeeps i _ haccount, hsubject⟩
  · intro i account haccount
    obtain ⟨j, contact, hcontact, hsubject⟩ := h.account i account (hcommitted i ▸ haccount)
    exact ⟨j, contact, hkeeps j _ hcontact, hsubject⟩
  · intro i j a b ha hb
    exact h.apart i j a b (hcommitted i ▸ ha) (hcommitted j ▸ hb)

/-- What a transaction has written when it commits: nothing, or an account and its contact. -/
theorem own_ret (h : AccountRows hashtext db) {a : UserAccount}
    (here : db.transactions t = some ⟨call, .ready (.ret a), snapshot⟩) :
    WritesOnly db t [] ∧ (accountTables db).AccountOf call.canonicalEmail a ∨
      a = call.account ∧ WritesOnly db t [.account call.account, .contact call.contact] ∧
        Writes db t (.account call.account) ∧ Writes db t (.contact call.contact) := by
  cases h.own _ _ _ _ here with
  | found honly hof => exact Or.inl ⟨honly, hof⟩
  | created honly haccount hcontact => exact Or.inr ⟨rfl, honly, haccount, hcontact⟩

/-- **A transaction commits**: it changes nothing, or adds an account and its contact. -/
theorem commit (h : AccountRows hashtext db)
    (hconstrained : (accountServer codec hashtext).Constrained db) {a : UserAccount}
    (here : db.transactions t = some ⟨call, .ready (.ret a), snapshot⟩) :
    AccountRows hashtext (db.commit t call a snapshot) := by
  have hcommit : ∀ {i row}, (db.slots i).pending = some (t, row) →
      ((db.commit t call a snapshot).slots i).committed = some row :=
    fun hpending => Slot.committed_commit_of_pending hpending
  have hkeeps : Keeps db (db.commit t call a snapshot) := by
    intro i row hrow
    show ((db.slots i).commit t (db.clock + 1)).committed = some row
    rcases (db.slots i).commit_cases t (db.clock + 1) with ⟨row', hpending, -⟩ | ⟨-, hslot⟩
    · rw [h.isNew i t row' hpending] at hrow
      cases hrow
    · rw [hslot]
      exact hrow
  -- what is committed afterwards was committed before, or is written by the transaction
  have hbefore : ∀ {i row}, ((db.commit t call a snapshot).slots i).committed = some row →
      (db.slots i).committed = some row ∨ (db.slots i).pending = some (t, row) := by
    intro i row hrow
    rcases Slot.committed_commit_cases hrow with hpending | ⟨hold, -⟩
    · exact Or.inr hpending
    · exact Or.inl hold
  have hown := h.own_ret here
  constructor
  · intro t' call' phase' snapshot' htransaction
    rcases Database.transactions_commit_cases htransaction with ⟨rfl, hset⟩ | ⟨ht, hold⟩
    · cases hset
      refine .committed (fun i row hpending => absurd rfl (Slot.pending_of_commit hpending).2.1) ?_
      rcases hown with ⟨-, hof⟩ | ⟨rfl, -, ⟨i, haccount⟩, ⟨j, hcontact⟩⟩
      · exact hkeeps.accountOf hof
      · exact ⟨⟨i, hcommit haccount⟩, call.contact, ⟨j, hcommit hcontact⟩, rfl, rfl⟩
    · exact (h.own t' _ _ _ hold).frame (Database.pending_commit_iff ht call a snapshot)
        hkeeps
  · intro i t' row hpending
    obtain ⟨hold, -, hslot⟩ := Slot.pending_of_commit hpending
    show ((db.slots i).commit t (db.clock + 1)).committed = none
    rw [hslot]
    exact h.isNew i t' row hold
  · intro j contact hcontact
    rcases hbefore hcontact with hold | hpending
    · obtain ⟨i, account, haccount, hsubject⟩ := h.contact j contact hold
      exact ⟨i, account, hkeeps i _ haccount, hsubject⟩
    · rcases hown with ⟨honly, -⟩ | ⟨-, honly, ⟨i, haccount⟩, -⟩
      · exact absurd (honly j _ hpending) (by simp)
      · have hsame : contact = call.contact := by simpa using honly j _ hpending
        exact ⟨i, call.account, hcommit haccount, hsame ▸ rfl⟩
  · intro i account haccount
    rcases hbefore haccount with hold | hpending
    · obtain ⟨j, contact, hcontact, hsubject⟩ := h.account i account hold
      exact ⟨j, contact, hkeeps j _ hcontact, hsubject⟩
    · rcases hown with ⟨honly, -⟩ | ⟨-, honly, -, ⟨j, hcontact⟩⟩
      · exact absurd (honly i _ hpending) (by simp)
      · have hsame : account = call.account := by simpa using honly i _ hpending
        exact ⟨j, call.contact, hcommit hcontact, hsame ▸ rfl⟩
  · -- a new contact refers to the new account, and no contact referred to that before
    have hnew : ∀ {i j b c}, (db.slots i).pending = some (t, .contact b) →
        (db.slots j).committed = some (.contact c) → b.userSubject ≠ c.userSubject := by
      intro i j b c hb hc hsubject
      obtain ⟨k, account, haccount, hcaccount⟩ := h.contact j c hc
      rcases hown with ⟨honly, -⟩ | ⟨-, honly, ⟨l, hpending⟩, -⟩
      · exact absurd (honly i _ hb) (by simp)
      · have hsame : b = call.contact := by simpa using honly i _ hb
        have hclash : (accountServer codec hashtext).Clash (.account call.account)
            (.account account) := by
          refine ⟨.subject call.account.subject, List.mem_singleton.2 rfl, List.mem_singleton.2 ?_⟩
          rw [← hcaccount, ← hsubject, hsame]
          rfl
        have hslot := hconstrained.unique l k _ _ (Or.inr ⟨t, hpending⟩) (Or.inl haccount) hclash
        rw [← hslot, h.isNew l t _ hpending] at haccount
        cases haccount
    intro i j b c hb hc hsubject
    rcases hbefore hb with hbold | hbnew
    · rcases hbefore hc with hcold | hcnew
      · exact h.apart i j b c hbold hcold hsubject
      · exact absurd hsubject.symm (hnew hcnew hbold)
    · rcases hbefore hc with hcold | hcnew
      · exact absurd hsubject (hnew hbnew hcold)
      · rcases hown with ⟨honly, -⟩ | ⟨-, honly, -, -⟩
        · exact absurd (honly i _ hbnew) (by simp)
        · have hbsame : b = call.contact := by simpa using honly i _ hbnew
          have hcsame : c = call.contact := by simpa using honly j _ hcnew
          refine hconstrained.unique i j _ _ (Or.inr ⟨t, hbnew⟩) (Or.inr ⟨t, hcnew⟩) ?_
          rw [hbsame, hcsame]
          exact ⟨.contactId call.contact.contactId, List.mem_cons_self, List.mem_cons_self⟩

end AccountRows

/-- What a transaction without rows of its own sees is committed. -/
theorem committed_of_visible {db : AccountDatabase codec} {t : ℕ} (h : WritesOnly db t [])
    {row : AccountRow} (hrow : row ∈ db.visible t) : ∃ i, (db.slots i).committed = some row := by
  obtain ⟨i, -, hseen⟩ := Database.mem_visible.1 hrow
  rcases Slot.seenBy_eq_some hseen with hpending | ⟨hcommitted, -⟩
  · exact absurd (h i row hpending) (by simp)
  · exact ⟨i, hcommitted⟩

/-- An insert adds its row to what the transaction has written. -/
theorem WritesOnly.append {db : AccountDatabase codec} {t : ℕ} {rows : List AccountRow}
    (h : WritesOnly db t rows) (row : AccountRow) {rows' : List AccountRow} (hrow : row ∈ rows')
    (hrows : rows ⊆ rows') : WritesOnly (db.append t row) t rows' := by
  intro i row' hpending
  by_cases hi : i = db.size
  · subst hi
    rw [Database.slots_append_self] at hpending
    cases hpending
    exact hrow
  · rw [Database.slots_append_of_ne _ _ hi] at hpending
    exact hrows (h i row' hpending)

theorem writes_append (db : AccountDatabase codec) (t : ℕ) (row : AccountRow) :
    Writes (db.append t row) t row := ⟨db.size, by rw [Database.slots_append_self]⟩

theorem Writes.append {db : AccountDatabase codec} {t : ℕ} {row : AccountRow}
    (h : Writes db t row) (hwell : db.WellFormed) (row' : AccountRow) :
    Writes (db.append t row') t row := by
  obtain ⟨i, hi⟩ := h
  have hne : i ≠ db.size := by
    rintro rfl
    rw [hwell.beyond db.size le_rfl] at hi
    cases hi
  refine ⟨i, ?_⟩
  rw [Database.slots_append_of_ne _ _ hne]
  exact hi

/-- **Every effect keeps what is known of the rows.** -/
theorem accountRows_effect {db db' : AccountDatabase codec}
    {e : ReadCommitted.Step (AccountCall codec)} (hwell : db.WellFormed)
    (hconstrained : (accountServer codec hashtext).Constrained db)
    (h : AccountRows hashtext db) (heffect : (accountServer codec hashtext).Effect db e db') :
    AccountRows hashtext db' := by
  cases heffect with
  | none => exact h
  | began fresh =>
      refine h.setTransaction (.begun ?_)
      intro i row hpending
      obtain ⟨_, _, _, hold, -⟩ := hwell.owner _ _ _ hpending
      rw [fresh] at hold
      cases hold
  | locked here free =>
      rename_i t call snapshot key next
      have htake : AccountRows hashtext (db.take t key) :=
        ⟨fun t' call' phase snapshot' htransaction =>
          (h.own t' call' phase snapshot' htransaction).frame (fun _ _ => Iff.rfl)
            fun _ _ hcommitted => hcommitted, h.isNew, h.contact, h.account, h.apart⟩
      cases htake.own _ _ _ _ here with
      | begun honly => exact htake.setTransaction (.locked honly)
  | selected here =>
      rename_i t call snapshot next
      cases h.own _ _ _ _ here with
      | locked honly =>
          refine h.setTransaction ?_
          unfold recoverOrInsert
          cases hjoined : joinedAccount (db.visible t) call.canonicalEmail with
          | none => exact .absent honly
          | some account =>
              obtain ⟨haccount, contact, hcontact, hemail⟩ := joinedAccount_eq_some hjoined
              exact .found honly ⟨committed_of_visible honly haccount, contact,
                committed_of_visible honly hcontact, hemail⟩
  | started here => cases h.own _ _ _ _ here
  | wrote here target free seen matched => cases h.own _ _ _ _ here
  | skipped here target free unmatched => cases h.own _ _ _ _ here
  | ended here => cases h.own _ _ _ _ here
  | inserted here free accepts =>
      rename_i t call snapshot row next
      cases h.own _ _ _ _ here with
      | absent honly =>
          exact h.insert hwell (.half (honly.append _ (by simp) (by simp)) (writes_append _ _ _))
      | half honly haccount =>
          exact h.insert hwell (.created (honly.append _ (by simp) (by simp))
            (haccount.append hwell _) (writes_append _ _ _))
  | committed here => exact h.commit hconstrained here
  | aborted here going => exact h.abort _ _ _

/-- **What is known of the rows holds over every interleaving.** -/
theorem accountRows_after (steps : List (ReadCommitted.Step (AccountCall codec))) :
    AccountRows hashtext ((accountServer codec hashtext).after steps) := by
  induction steps using List.reverseRecOn with
  | nil =>
      constructor
      · intro t call phase snapshot h
        cases h
      · intro i t row h
        cases h
      · intro j contact h
        cases h
      · intro i account h
        cases h
      · intro i j a b h
        cases h
  | append_singleton steps e ih =>
      rw [Server.after_concat]
      exact accountRows_effect (Server.wellFormed_after steps)
        (Server.constrained_after (keepsKeys_createOrRecover hashtext) steps) ih
        (Server.step_effect _ e)

/-- **The tables of the database are sound at every moment of a run.** -/
theorem sound_accountTables (steps : List (ReadCommitted.Step (AccountCall codec))) :
    (accountTables ((accountServer codec hashtext).after steps)).Sound := by
  have hconstrained : (accountServer codec hashtext).Constrained
      ((accountServer codec hashtext).after steps) :=
    Server.constrained_after (keepsKeys_createOrRecover hashtext) steps
  have hrows : AccountRows hashtext ((accountServer codec hashtext).after steps) :=
    accountRows_after steps
  -- one key belongs to one row
  have hunique : ∀ {i j a b}, (((accountServer codec hashtext).after steps).slots i).committed =
      some a → (((accountServer codec hashtext).after steps).slots j).committed = some b →
      (accountServer codec hashtext).Clash a b → a = b := by
    intro i j a b ha hb hclash
    have hsame := hconstrained.unique i j a b (Or.inl ha) (Or.inl hb) hclash
    rw [hsame, hb] at ha
    exact (Option.some.inj ha).symm
  constructor
  · rintro email a b ⟨⟨i, ha⟩, c, ⟨j, hc⟩, hcemail, hca⟩ ⟨⟨i', hb⟩, d, ⟨j', hd⟩, hdemail, hdb⟩
    have hcontact : AccountRow.contact c = .contact d := by
      refine hunique hc hd ⟨.canonicalEmail email, ?_, ?_⟩
      · exact List.mem_cons_of_mem _ (List.mem_singleton.2 (congrArg _ hcemail.symm))
      · exact List.mem_cons_of_mem _ (List.mem_singleton.2 (congrArg _ hdemail.symm))
    cases hcontact
    have haccount : AccountRow.account a = .account b := by
      refine hunique ha hb ⟨.subject a.subject, List.mem_singleton.2 rfl, List.mem_singleton.2 ?_⟩
      rw [← hca, hdb]
    cases haccount
    rfl
  · rintro email email' a ⟨-, c, ⟨j, hc⟩, hcemail, hca⟩ ⟨-, d, ⟨j', hd⟩, hdemail, hda⟩
    have hsame := hrows.apart j j' c d hc hd (hca.trans hda.symm)
    rw [hsame, hd] at hc
    cases hc
    exact hcemail.symm.trans hdemail
  · rintro contact ⟨j, hcontact⟩
    obtain ⟨i, account, haccount, hsubject⟩ := hrows.contact j contact hcontact
    exact ⟨account, ⟨i, haccount⟩, hsubject⟩
  · rintro account ⟨i, haccount⟩
    obtain ⟨j, contact, hcontact, hsubject⟩ := hrows.account i account haccount
    exact ⟨contact.canonicalEmail, ⟨i, haccount⟩, contact, ⟨j, hcontact⟩, rfl, hsubject⟩

/-- What a call returned is the account of its address. -/
theorem accountOf_of_committed (steps : List (ReadCommitted.Step (AccountCall codec))) {t : ℕ}
    {call : AccountCall codec} {account : UserAccount} {snapshot : ℕ}
    (h : ((accountServer codec hashtext).after steps).transactions t =
      some ⟨call, .committed account, snapshot⟩) :
    (accountTables ((accountServer codec hashtext).after steps)).AccountOf call.canonicalEmail
      account := by
  cases (accountRows_after steps).own t _ _ _ h with
  | committed honly hof => exact hof

/-! ### The store in memory -/

/-- A call of the store in memory.  What it does between the lock and its release is one step. -/
structure UserCall where
  email : String
  verifiedAt : ℕ
  generated : GeneratedUser
  deriving DecidableEq

/-- What a call returns, and the store after it. -/
def createOrRecover (codec : IdnaCodec) (s : UserStore) (call : UserCall) :
    Except RegistrationFault UserAccount × UserStore :=
  s.createOrRecoverVerifiedUser codec call.email call.verifiedAt call.generated

/-- The store after some calls. -/
def usersAfter (codec : IdnaCodec) (calls : List UserCall) : UserStore :=
  calls.foldl (fun s call => (createOrRecover codec s call).2) .empty

/-- What is stored. -/
def userTables (s : UserStore) : AccountTables where
  accounts := {account | ∃ subject, s.accountsBySubject.get? subject = some account}
  contacts := {contact | ∃ email, s.contactsByCanonicalEmail.get? email = some contact}

/-- What is known of the store: contacts are stored by address and refer to accounts, accounts are
stored by subject and have a contact, a subject was generated by a call, and no account has two
contacts. -/
structure UserRows (calls : List UserCall) (s : UserStore) : Prop where
  contact : ∀ email contact, s.contactsByCanonicalEmail.get? email = some contact →
    contact.canonicalEmail = email ∧
      ∃ account, s.accountsBySubject.get? contact.userSubject = some account
  account : ∀ subject account, s.accountsBySubject.get? subject = some account →
    account.subject = subject ∧
      ∃ email contact, s.contactsByCanonicalEmail.get? email = some contact ∧
        contact.userSubject = subject
  generated : ∀ subject account, s.accountsBySubject.get? subject = some account →
    ∃ call ∈ calls, call.generated.subject = subject
  apart : ∀ email email' a b, s.contactsByCanonicalEmail.get? email = some a →
    s.contactsByCanonicalEmail.get? email' = some b → a.userSubject = b.userSubject → email = email'

/-- **A call raises, recovers the account of its address, or creates one.** -/
theorem createOrRecover_cases (codec : IdnaCodec) (s : UserStore) (call : UserCall) :
    (∃ fault, createOrRecover codec s call = (.error fault, s)) ∨
      ∃ localPart domain, canonicalizeEmail codec call.email = .ok (localPart, domain) ∧
        ((∃ contact account,
            s.contactsByCanonicalEmail.get? (localPart ++ "@" ++ domain) = some contact ∧
            s.accountsBySubject.get? contact.userSubject = some account ∧
            createOrRecover codec s call = (.ok account, s)) ∨
          s.contactsByCanonicalEmail.get? (localPart ++ "@" ++ domain) = none ∧
            createOrRecover codec s call =
              (.ok (s.create call.email localPart domain call.verifiedAt call.generated).1,
                (s.create call.email localPart domain call.verifiedAt call.generated).2)) := by
  unfold createOrRecover UserStore.createOrRecoverVerifiedUser
  rcases canonicalizeEmail codec call.email with detail | ⟨localPart, domain⟩
  · exact Or.inl ⟨_, rfl⟩
  · dsimp only
    cases hcontact : s.contactsByCanonicalEmail.get? (localPart ++ "@" ++ domain) with
    | none => exact Or.inr ⟨localPart, domain, rfl, Or.inr ⟨hcontact, rfl⟩⟩
    | some contact =>
        dsimp only
        cases haccount : s.accountsBySubject.get? contact.userSubject with
        | none => exact Or.inl ⟨_, rfl⟩
        | some account =>
            exact Or.inr ⟨localPart, domain, rfl,
              Or.inl ⟨contact, account, hcontact, haccount, rfl⟩⟩

theorem usersAfter_concat (codec : IdnaCodec) (calls : List UserCall) (call : UserCall) :
    usersAfter codec (calls ++ [call]) =
      (createOrRecover codec (usersAfter codec calls) call).2 := by
  unfold usersAfter
  rw [List.foldl_append]
  rfl

theorem UserRows.mono {calls : List UserCall} {s : UserStore} (h : UserRows calls s)
    (call : UserCall) : UserRows (calls ++ [call]) s := by
  refine ⟨h.contact, h.account, ?_, h.apart⟩
  intro subject account haccount
  obtain ⟨earlier, hmem, hsubject⟩ := h.generated subject account haccount
  exact ⟨earlier, List.mem_append_left _ hmem, hsubject⟩

/-- A call whose subject is new creates its account and its contact. -/
theorem UserRows.create {calls : List UserCall} {s : UserStore} (h : UserRows calls s)
    {call : UserCall}
    (hfresh : ∀ earlier ∈ calls, earlier.generated.subject ≠ call.generated.subject)
    {localPart domain : String}
    (hnone : s.contactsByCanonicalEmail.get? (localPart ++ "@" ++ domain) = none) :
    UserRows (calls ++ [call])
      (s.create call.email localPart domain call.verifiedAt call.generated).2 := by
  have hnew : ∀ {subject account}, s.accountsBySubject.get? subject = some account →
      subject ≠ call.generated.subject := by
    rintro subject account haccount rfl
    obtain ⟨earlier, hmem, hsubject⟩ := h.generated _ account haccount
    exact hfresh earlier hmem hsubject
  constructor
  · intro email contact hcontact
    rcases Dict.get?_set_eq_some_iff.1 hcontact with ⟨rfl, rfl⟩ | ⟨-, hold⟩
    · exact ⟨rfl, _, Dict.get?_set_self _ _ _⟩
    · obtain ⟨hemail, account, haccount⟩ := h.contact email contact hold
      exact ⟨hemail, account, (Dict.get?_set_of_ne _ _ (hnew haccount)).trans haccount⟩
  · intro subject account haccount
    rcases Dict.get?_set_eq_some_iff.1 haccount with ⟨rfl, rfl⟩ | ⟨-, hold⟩
    · exact ⟨rfl, _, _, Dict.get?_set_self _ _ _, rfl⟩
    · obtain ⟨hsubject, email, contact, hcontact, huser⟩ := h.account subject account hold
      have hne : email ≠ localPart ++ "@" ++ domain := by
        rintro rfl
        rw [hnone] at hcontact
        cases hcontact
      exact ⟨hsubject, email, contact, (Dict.get?_set_of_ne _ _ hne).trans hcontact, huser⟩
  · intro subject account haccount
    rcases Dict.get?_set_eq_some_iff.1 haccount with ⟨rfl, rfl⟩ | ⟨-, hold⟩
    · exact ⟨call, by simp, rfl⟩
    · obtain ⟨earlier, hmem, hsubject⟩ := h.generated subject account hold
      exact ⟨earlier, List.mem_append_left _ hmem, hsubject⟩
  · -- the new contact alone refers to the new account
    have hother : ∀ {email contact}, s.contactsByCanonicalEmail.get? email = some contact →
        contact.userSubject ≠ call.generated.subject := by
      intro email contact hcontact
      obtain ⟨-, account, haccount⟩ := h.contact email contact hcontact
      exact hnew haccount
    intro email email' a b ha hb hsubject
    rcases Dict.get?_set_eq_some_iff.1 ha with ⟨rfl, rfl⟩ | ⟨-, haold⟩
    · rcases Dict.get?_set_eq_some_iff.1 hb with ⟨rfl, rfl⟩ | ⟨-, hbold⟩
      · rfl
      · exact absurd hsubject.symm (hother hbold)
    · rcases Dict.get?_set_eq_some_iff.1 hb with ⟨rfl, rfl⟩ | ⟨-, hbold⟩
      · exact absurd hsubject (hother haold)
      · exact h.apart email email' a b haold hbold hsubject

/-- **What is known of the store holds after every call**, where no subject is generated twice. -/
theorem userRows_after (codec : IdnaCodec) (calls : List UserCall)
    (hsubjects : (calls.map fun call => call.generated.subject).Nodup) :
    UserRows calls (usersAfter codec calls) := by
  induction calls using List.reverseRecOn with
  | nil =>
      constructor
      · intro email contact h
        cases h
      · intro subject account h
        cases h
      · intro subject account h
        cases h
      · intro email email' a b h
        cases h
  | append_singleton calls call ih =>
      rw [List.map_append] at hsubjects
      obtain ⟨hcalls, -, hdisjoint⟩ := List.nodup_append.1 hsubjects
      have hrows := ih hcalls
      rw [usersAfter_concat]
      rcases createOrRecover_cases codec (usersAfter codec calls) call with
        ⟨fault, hcall⟩ | ⟨localPart, domain, -, ⟨contact, account, -, -, hcall⟩ | ⟨hnone, hcall⟩⟩
      · rw [hcall]
        exact hrows.mono call
      · rw [hcall]
        exact hrows.mono call
      · rw [hcall]
        refine hrows.create ?_ hnone
        intro earlier hmem hsame
        exact hdisjoint _ (List.mem_map_of_mem hmem) _ (by simp) hsame

theorem UserRows.sound {calls : List UserCall} {s : UserStore} (h : UserRows calls s) :
    (userTables s).Sound := by
  constructor
  · rintro email a b ⟨⟨k, ha⟩, c, ⟨l, hc⟩, hcemail, hca⟩ ⟨⟨k', hb⟩, d, ⟨l', hd⟩, hdemail, hdb⟩
    have hl : l = l' :=
      ((h.contact l c hc).1.symm.trans hcemail).trans (hdemail.symm.trans (h.contact l' d hd).1)
    rw [hl, hd] at hc
    cases hc
    have hk : k = k' :=
      ((h.account k a ha).1.symm.trans hca.symm).trans (hdb.trans (h.account k' b hb).1)
    rw [hk, hb] at ha
    cases ha
    rfl
  · rintro email email' a ⟨-, c, ⟨l, hc⟩, hcemail, hca⟩ ⟨-, d, ⟨l', hd⟩, hdemail, hda⟩
    have hl := h.apart l l' c d hc hd (hca.trans hda.symm)
    rw [hl, hd] at hc
    cases hc
    exact hcemail.symm.trans hdemail
  · rintro contact ⟨email, hcontact⟩
    obtain ⟨-, account, haccount⟩ := h.contact email contact hcontact
    exact ⟨account, ⟨_, haccount⟩, (h.account _ account haccount).1.symm⟩
  · rintro account ⟨subject, haccount⟩
    obtain ⟨hsubject, email, contact, hcontact, huser⟩ := h.account subject account haccount
    exact ⟨email, ⟨subject, haccount⟩, contact, ⟨email, hcontact⟩,
      (h.contact email contact hcontact).1, huser.trans hsubject.symm⟩

/-- The account of an address stays its account when a call with a new subject is made. -/
theorem UserRows.accountOf_mono {calls : List UserCall} {s : UserStore} (h : UserRows calls s)
    (codec : IdnaCodec) {later : UserCall}
    (hfresh : ∀ earlier ∈ calls, earlier.generated.subject ≠ later.generated.subject)
    {email : String} {account : UserAccount} (hof : (userTables s).AccountOf email account) :
    (userTables (createOrRecover codec s later).2).AccountOf email account := by
  rcases createOrRecover_cases codec s later with
    ⟨fault, hcall⟩ | ⟨localPart, domain, -, ⟨contact, other, -, -, hcall⟩ | ⟨hnone, hcall⟩⟩
  · rw [hcall]
    exact hof
  · rw [hcall]
    exact hof
  · rw [hcall]
    refine hof.mono ?_ ?_
    · rintro account' ⟨subject, haccount⟩
      have hne : subject ≠ later.generated.subject := by
        rintro rfl
        obtain ⟨earlier, hmem, hsubject⟩ := h.generated _ account' haccount
        exact hfresh earlier hmem hsubject
      exact ⟨subject, (Dict.get?_set_of_ne _ _ hne).trans haccount⟩
    · rintro contact ⟨email', hcontact⟩
      have hne : email' ≠ localPart ++ "@" ++ domain := by
        rintro rfl
        rw [hnone] at hcontact
        cases hcontact
      exact ⟨email', (Dict.get?_set_of_ne _ _ hne).trans hcontact⟩

/-- What a call returns is the account of its address, and stays it. -/
theorem accountOf_of_createOrRecover (codec : IdnaCodec) {pre post : List UserCall}
    {call : UserCall}
    (hsubjects : ((pre ++ call :: post).map fun call => call.generated.subject).Nodup)
    {account : UserAccount}
    (h : (createOrRecover codec (usersAfter codec pre) call).1 = .ok account) :
    ∃ canonical, canonicalEmail codec call.email = .ok canonical ∧
      (userTables (usersAfter codec (pre ++ call :: post))).AccountOf canonical account := by
  induction post using List.reverseRecOn with
  | nil =>
      rw [List.map_append] at hsubjects
      have hrows := userRows_after codec pre (List.nodup_append.1 hsubjects).1
      rw [usersAfter_concat]
      rcases createOrRecover_cases codec (usersAfter codec pre) call with
        ⟨fault, hcall⟩ | ⟨localPart, domain, hcanonical, ⟨contact, other, hcontact, hother, hcall⟩ |
          ⟨-, hcall⟩⟩
      · rw [hcall] at h
        cases h
      · rw [hcall] at h ⊢
        cases h
        refine ⟨localPart ++ "@" ++ domain, by rw [canonicalEmail, hcanonical]; rfl, ⟨_, hother⟩,
          contact, ⟨_, hcontact⟩, (hrows.contact _ contact hcontact).1, ?_⟩
        exact (hrows.account _ account hother).1.symm
      · rw [hcall] at h ⊢
        cases h
        exact ⟨localPart ++ "@" ++ domain, by rw [canonicalEmail, hcanonical]; rfl,
          ⟨_, Dict.get?_set_self _ _ _⟩, _, ⟨_, Dict.get?_set_self _ _ _⟩, rfl, rfl⟩
  | append_singleton post later ih =>
      have hcalls : pre ++ call :: (post ++ [later]) = (pre ++ call :: post) ++ [later] := by simp
      rw [hcalls, List.map_append] at hsubjects
      obtain ⟨hearlier, -, hdisjoint⟩ := List.nodup_append.1 hsubjects
      obtain ⟨canonical, hcanonical, hof⟩ := ih hearlier
      refine ⟨canonical, hcanonical, ?_⟩
      rw [hcalls, usersAfter_concat]
      refine (userRows_after codec _ hearlier).accountOf_mono codec ?_ hof
      intro earlier hmem hsame
      exact hdisjoint _ (List.mem_map_of_mem hmem) _ (by simp) hsame

/-! ### One account for an address -/

/-- **An address has one account.**  At every moment of every interleaving of the transactions, some
of which may have been aborted, and after every sequence of calls of the store in memory that
generates no subject twice, an address has one account at most, an account has one address, and
every contact refers to an account; and what calls for one address returned is one account, that of
the address. -/
theorem one_account_per_email (codec : IdnaCodec) (hashtext : String → ℤ) :
    (∀ steps : List (ReadCommitted.Step (AccountCall codec)),
      let db := (accountServer codec hashtext).after steps
      (accountTables db).Sound ∧
        (∀ t call account snapshot, db.transactions t = some ⟨call, .committed account, snapshot⟩ →
          (accountTables db).AccountOf call.canonicalEmail account) ∧
        ∀ t t' call call' a b snapshot snapshot',
          db.transactions t = some ⟨call, .committed a, snapshot⟩ →
          db.transactions t' = some ⟨call', .committed b, snapshot'⟩ →
          call.canonicalEmail = call'.canonicalEmail → a = b) ∧
      ∀ calls : List UserCall, (calls.map fun call => call.generated.subject).Nodup →
        (userTables (usersAfter codec calls)).Sound ∧
          (∀ pre call post account, calls = pre ++ call :: post →
            (createOrRecover codec (usersAfter codec pre) call).1 = .ok account →
            ∃ canonical, canonicalEmail codec call.email = .ok canonical ∧
              (userTables (usersAfter codec calls)).AccountOf canonical account) ∧
          ∀ pre pre' call call' post post' a b, calls = pre ++ call :: post →
            calls = pre' ++ call' :: post' →
            (createOrRecover codec (usersAfter codec pre) call).1 = .ok a →
            (createOrRecover codec (usersAfter codec pre') call').1 = .ok b →
            canonicalEmail codec call.email = canonicalEmail codec call'.email → a = b := by
  constructor
  · intro steps db
    have hsound : (accountTables db).Sound := sound_accountTables steps
    refine ⟨hsound, fun t call account snapshot h => accountOf_of_committed steps h, ?_⟩
    intro t t' call call' a b snapshot snapshot' ha hb hemail
    have hofa := accountOf_of_committed steps ha
    have hofb := accountOf_of_committed steps hb
    rw [hemail] at hofa
    exact hsound.one _ a b hofa hofb
  · intro calls hsubjects
    have hsound := (userRows_after codec calls hsubjects).sound
    have hof : ∀ {pre call post account}, calls = pre ++ call :: post →
        (createOrRecover codec (usersAfter codec pre) call).1 = .ok account →
        ∃ canonical, canonicalEmail codec call.email = .ok canonical ∧
          (userTables (usersAfter codec calls)).AccountOf canonical account := by
      rintro pre call post account rfl h
      exact accountOf_of_createOrRecover codec hsubjects h
    refine ⟨hsound, fun pre call post account => hof, ?_⟩
    intro pre pre' call call' post post' a b hcalls hcalls' ha hb hemail
    obtain ⟨canonical, hcanonical, hofa⟩ := hof hcalls ha
    obtain ⟨canonical', hcanonical', hofb⟩ := hof hcalls' hb
    rw [hcanonical, hcanonical'] at hemail
    cases hemail
    exact hsound.one _ a b hofa hofb

/-- Two calls for one address, in two spellings. -/
def annCalls : List UserCall :=
  [⟨"ann@Example.com", 0, ⟨"usr_1", 0, "contact_1", "session_1", by decide⟩⟩,
    ⟨"ann@example.com", 1, ⟨"usr_2", 1, "contact_2", "session_2", by decide⟩⟩]

/-- The second call recovers the account of the first one. -/
theorem ann_recovered :
    (createOrRecover .asciiOnly (usersAfter .asciiOnly (annCalls.take 1))
        ⟨"ann@example.com", 1, ⟨"usr_2", 1, "contact_2", "session_2", by decide⟩⟩).1 =
        .ok ⟨"usr_1", 0, by decide⟩ ∧
      (userTables (usersAfter .asciiOnly annCalls)).Sound :=
  ⟨by decide +kernel,
    ((one_account_per_email .asciiOnly fun _ => 0).2 annCalls (by decide)).1⟩

end PlatformOps
