/-
**Tables with unique keys.**

A table is a list of rows, each of which has some keys, and no key belongs to two rows.  A row is
inserted only if the table admits it, and an update keeps the keys or gives some up, so that a table
stays one.

Main definitions:

* `KeyedTable`, `KeyedTable.find?` — tables, and the row with a key;
* `KeyedTable.Admits`, `KeyedTable.insert` — rows that can be inserted;
* `KeyedTable.update`, `KeyedTable.giveUp` — the same change of every row;
* `KeyedTable.upsert` — an insertion that gives way to a row with the same key.

Main results:

* `KeyedTable.find?_eq_some_iff` — the row that is found is the one with the key;
* `KeyedTable.find?_insert`, `KeyedTable.find?_update`, `KeyedTable.mem_rows_upsert` — what is found
  afterwards.
-/

import Mathlib.Data.List.Pairwise

set_option relaxedAutoImplicit false
set_option autoImplicit false

namespace PlatformOps

universe u v

/-- Rows no two of which share a key. -/
structure KeyedTable {κ : Type u} {α : Type v} (keys : α → List κ) where
  rows : List α
  distinct : rows.Pairwise fun a b => ∀ k ∈ keys a, k ∉ keys b

namespace KeyedTable

variable {κ : Type u} {α : Type v} {keys : α → List κ}

/-- The table without rows. -/
def empty : KeyedTable keys := ⟨[], .nil⟩

/-- Two rows with a common key are one. -/
theorem eq_of_mem_keys (t : KeyedTable keys) {a b : α} (ha : a ∈ t.rows) (hb : b ∈ t.rows) {k : κ}
    (hka : k ∈ keys a) (hkb : k ∈ keys b) : a = b := by
  by_contra hne
  have hsymm : Std.Symm fun a b : α => ∀ k ∈ keys a, k ∉ keys b :=
    ⟨fun a b h k hkb hka => h k hka hkb⟩
  exact t.distinct.forall ha hb hne k hka hkb

/-! ### Rows that can be inserted -/

/-- No row has a key of this one. -/
def Admits (t : KeyedTable keys) (row : α) : Prop :=
  ∀ other ∈ t.rows, ∀ k ∈ keys other, k ∉ keys row

instance [DecidableEq κ] (t : KeyedTable keys) (row : α) : Decidable (t.Admits row) :=
  inferInstanceAs (Decidable (∀ other ∈ t.rows, ∀ k ∈ keys other, k ∉ keys row))

/-- The table with one row more. -/
def insert (t : KeyedTable keys) (row : α) (h : t.Admits row) : KeyedTable keys where
  rows := t.rows ++ [row]
  distinct := by
    refine List.pairwise_append.2 ⟨t.distinct, List.pairwise_singleton _ _, ?_⟩
    intro other hother b hb
    rw [List.mem_singleton.1 hb]
    exact h other hother

theorem mem_rows_insert {t : KeyedTable keys} {row : α} {h : t.Admits row} {a : α} :
    a ∈ (t.insert row h).rows ↔ a ∈ t.rows ∨ a = row := by
  simp [insert]

/-! ### Updates -/

/-- The same change of every row, which keeps the keys. -/
def update (t : KeyedTable keys) (f : α → α) (h : ∀ a, keys (f a) = keys a) : KeyedTable keys where
  rows := t.rows.map f
  distinct := by
    refine List.pairwise_map.2 (t.distinct.imp fun {a b} hab => ?_)
    rw [h a, h b]
    exact hab

/-- The same change of every row, which may give keys up. -/
def giveUp (t : KeyedTable keys) (f : α → α) (h : ∀ a, keys (f a) ⊆ keys a) : KeyedTable keys where
  rows := t.rows.map f
  distinct := by
    refine List.pairwise_map.2 (t.distinct.imp fun {a b} hab => ?_)
    intro k hka hkb
    exact hab k (h a hka) (h b hkb)

/-! ### The row with a key -/

variable [DecidableEq κ]

/-- The row with the key. -/
def find? (t : KeyedTable keys) (k : κ) : Option α := t.rows.find? fun row => decide (k ∈ keys row)

theorem mem_of_find? {t : KeyedTable keys} {k : κ} {row : α} (h : t.find? k = some row) :
    row ∈ t.rows ∧ k ∈ keys row := by
  unfold find? at h
  exact ⟨List.mem_of_find?_eq_some h, by simpa using List.find?_some h⟩

/-- **The row that is found** is the one with the key. -/
theorem find?_eq_some_iff {t : KeyedTable keys} {k : κ} {row : α} :
    t.find? k = some row ↔ row ∈ t.rows ∧ k ∈ keys row := by
  constructor
  · exact mem_of_find?
  · rintro ⟨hmem, hk⟩
    cases hfind : t.find? k with
    | none =>
        have hnone := List.find?_eq_none.1 hfind row hmem
        exact absurd (decide_eq_true hk) hnone
    | some other =>
        obtain ⟨hother, hkey⟩ := mem_of_find? hfind
        rw [t.eq_of_mem_keys hother hmem hkey hk]

theorem find?_eq_none_iff {t : KeyedTable keys} {k : κ} :
    t.find? k = none ↔ ∀ row ∈ t.rows, k ∉ keys row := by
  unfold find?
  simp [List.find?_eq_none]

/-- A row is admitted exactly if none is found under its keys. -/
theorem admits_iff {t : KeyedTable keys} {row : α} :
    t.Admits row ↔ ∀ k ∈ keys row, t.find? k = none := by
  constructor
  · intro h k hk
    exact find?_eq_none_iff.2 fun other hother hkother => h other hother k hkother hk
  · intro h other hother k hkother hk
    exact find?_eq_none_iff.1 (h k hk) other hother hkother

/-- What is found after an insertion. -/
theorem find?_insert (t : KeyedTable keys) {row : α} (h : t.Admits row) (k : κ) :
    (t.insert row h).find? k = if k ∈ keys row then some row else t.find? k := by
  by_cases hk : k ∈ keys row
  · rw [if_pos hk, find?_eq_some_iff]
    exact ⟨mem_rows_insert.2 (Or.inr rfl), hk⟩
  · rw [if_neg hk]
    unfold find? insert
    rw [List.find?_append]
    simp [hk]

@[simp] theorem find?_insert_self (t : KeyedTable keys) {row : α} (h : t.Admits row) {k : κ}
    (hk : k ∈ keys row) : (t.insert row h).find? k = some row := by
  rw [find?_insert, if_pos hk]

/-- What is found after an update. -/
theorem find?_update (t : KeyedTable keys) {f : α → α} (h : ∀ a, keys (f a) = keys a) (k : κ) :
    (t.update f h).find? k = (t.find? k).map f := by
  unfold find? update
  rw [List.find?_map]
  have hsame : ((fun row => decide (k ∈ keys row)) ∘ f) = fun row => decide (k ∈ keys row) := by
    funext row
    simp [h row]
  rw [hsame]

/-! ### Upserts -/

/-- The row an upsert leaves under a key: the row that was there, merged, or the new one. -/
def merged (t : KeyedTable keys) (k : κ) (row : α) (merge : α → α) : α :=
  ((t.find? k).map merge).getD row

/-- Insert a row, or merge it into the row that has the key already, if no other row has a key of
the result. -/
def upsert (t : KeyedTable keys) (k : κ) (row : α) (merge : α → α) : Option (KeyedTable keys) :=
  if h : ∀ a ∈ t.rows.filter (fun a => k ∉ keys a), ∀ k' ∈ keys a, k' ∉ keys (t.merged k row merge)
  then some
    { rows := t.rows.filter (fun a => k ∉ keys a) ++ [t.merged k row merge]
      distinct := by
        refine List.pairwise_append.2 ⟨t.distinct.sublist List.filter_sublist,
          List.pairwise_singleton _ _, ?_⟩
        intro a ha b hb
        rw [List.mem_singleton.1 hb]
        exact h a ha }
  else none

variable {t t' : KeyedTable keys} {k : κ} {row : α} {merge : α → α}

/-- **An upsert is accepted** exactly if no other row has a key of the result. -/
theorem isSome_upsert_iff : (t.upsert k row merge).isSome = true ↔
    ∀ a ∈ t.rows, k ∉ keys a → ∀ k' ∈ keys a, k' ∉ keys (t.merged k row merge) := by
  unfold upsert
  split
  · rename_i h
    constructor
    · intro _ a ha hk
      exact h a (List.mem_filter.2 ⟨ha, decide_eq_true hk⟩)
    · exact fun _ => rfl
  · rename_i h
    constructor
    · intro hfalse
      cases hfalse
    · intro hall
      refine absurd (fun a ha => ?_) h
      obtain ⟨hmem, hk⟩ := List.mem_filter.1 ha
      exact hall a hmem (of_decide_eq_true hk)

/-- **The rows after an upsert.** -/
theorem mem_rows_upsert (h : t.upsert k row merge = some t') {a : α} :
    a ∈ t'.rows ↔ a = t.merged k row merge ∨ a ∈ t.rows ∧ k ∉ keys a := by
  unfold upsert at h
  split at h
  · cases h
    simp [or_comm]
  · cases h

theorem merged_of_find? {other : α} (h : t.find? k = some other) :
    t.merged k row merge = merge other := by
  unfold merged
  rw [h]
  rfl

theorem merged_of_none (h : t.find? k = none) : t.merged k row merge = row := by
  unfold merged
  rw [h]
  rfl

end KeyedTable

end PlatformOps
