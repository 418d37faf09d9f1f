/-
**Tables with an index.**

A table keeps values under identifiers, and an index maps the key of a value back to its identifier.
Not every value has a key, and no two values share one.  A value that is written over another one
takes the key of its own, and the key of the value before it has to be given up: an index that is
only added to stays right exactly as long as no value that has a key is replaced by one without it.

Main definitions:

* `Dict.Indexes` — an index maps exactly the keys of the values to their identifiers;
* `Dict.putKey`, `Dict.dropKey` — taking a key, and giving one up;
* `Dict.KeyFree` — a key that no other value has;
* `Dict.Stale` — an entry of an index whose value does not have the key.

Main results:

* `Dict.Indexes.set_iff` — what an index of the table has to be after a write;
* `Dict.Indexes.move` — **the index is kept** if the old key is dropped before the new one is put;
* `Dict.Indexes.put_iff` — **without dropping it is kept exactly if** the old key is the new one;
* `Dict.Indexes.stale_of_put` — otherwise an entry is stale.
-/

import PlatformOps.Dict

set_option relaxedAutoImplicit false
set_option autoImplicit false

namespace PlatformOps

universe u v w

namespace Dict

variable {ι : Type u} {κ : Type v} {α : Type w} [DecidableEq ι] [DecidableEq κ]

/-- The index maps exactly the keys of the values to their identifiers. -/
def Indexes (index : Dict κ ι) (table : Dict ι α) (key : α → Option κ) : Prop :=
  ∀ k i, index.get? k = some i ↔ ∃ a, table.get? i = some a ∧ key a = some k

/-- Map the key, if there is one, to this identifier. -/
def putKey (index : Dict κ ι) (i : ι) : Option κ → Dict κ ι
  | some k => index.set k i
  | none => index

/-- Give the key up, if there is one. -/
def dropKey (index : Dict κ ι) : Option κ → Dict κ ι
  | some k => index.erase k
  | none => index

/-- The key, if there is one, belongs to no other identifier. -/
def KeyFree (index : Dict κ ι) (i : ι) (key : Option κ) : Prop :=
  ∀ k, key = some k → ∀ j, index.get? k = some j → j = i

/-- The entry of this key is of an identifier whose value does not have the key. -/
def Stale (index : Dict κ ι) (table : Dict ι α) (key : α → Option κ) (k : κ) (i : ι) : Prop :=
  index.get? k = some i ∧ ∀ a, table.get? i = some a → key a ≠ some k

/-! ### Lookups -/

omit [DecidableEq ι] in
theorem get?_putKey (index : Dict κ ι) (i : ι) (key : Option κ) (k : κ) :
    (index.putKey i key).get? k = if key = some k then some i else index.get? k := by
  cases key with
  | none => rfl
  | some k' =>
      unfold putKey
      rw [get?_set]
      simp [eq_comm]

omit [DecidableEq ι] in
theorem get?_dropKey (index : Dict κ ι) (key : Option κ) (k : κ) :
    (index.dropKey key).get? k = if key = some k then none else index.get? k := by
  cases key with
  | none => rfl
  | some k' =>
      unfold dropKey
      rw [get?_erase]
      simp [eq_comm]

omit [DecidableEq κ] in
/-- The values with a key after a write. -/
theorem exists_get?_set_iff {table : Dict ι α} {key : α → Option κ} {i j : ι} {a : α} {k : κ} :
    (∃ b, (table.set i a).get? j = some b ∧ key b = some k) ↔
      j = i ∧ key a = some k ∨ j ≠ i ∧ ∃ b, table.get? j = some b ∧ key b = some k := by
  by_cases hj : j = i
  · subst hj
    simp
  · simp [hj]

/-! ### What keeps an index -/

variable {index index' : Dict κ ι} {table : Dict ι α} {key : α → Option κ} {i j : ι} {a : α} {k : κ}

theorem indexes_empty : Indexes (empty : Dict κ ι) (empty : Dict ι α) key := by
  intro k i
  simp

namespace Indexes

variable (h : Indexes index table key)
include h

/-- **A key has no entry exactly if no value has it.** -/
theorem get?_eq_none_iff :
    index.get? k = none ↔ ∀ i a, table.get? i = some a → key a ≠ some k := by
  constructor
  · intro hnone i a ha hkey
    rw [(h k i).2 ⟨a, ha, hkey⟩] at hnone
    cases hnone
  · intro hall
    cases hget : index.get? k with
    | none => rfl
    | some i =>
        obtain ⟨a, ha, hkey⟩ := (h k i).1 hget
        exact absurd hkey (hall i a ha)

/-- **What an index has to be after a write.** -/
theorem set_iff : Indexes index' (table.set i a) key ↔
    ∀ k j, index'.get? k = some j ↔
      j = i ∧ key a = some k ∨ j ≠ i ∧ index.get? k = some j := by
  refine forall_congr' fun k => forall_congr' fun j => ?_
  rw [exists_get?_set_iff, h k j]

/-- **The index is kept** if the value before gives its key up, and the key of the value that is
written is free. -/
theorem move (hfree : KeyFree index i (key a)) :
    Indexes ((index.dropKey ((table.get? i).bind key)).putKey i (key a)) (table.set i a) key := by
  rw [h.set_iff]
  intro k j
  rw [get?_putKey, get?_dropKey]
  by_cases hk : key a = some k
  · rw [if_pos hk]
    constructor
    · intro hj
      exact Or.inl ⟨(Option.some.inj hj).symm, hk⟩
    · rintro (⟨rfl, -⟩ | ⟨hne, hget⟩)
      · rfl
      · exact absurd (hfree k hk j hget) hne
  · rw [if_neg hk]
    by_cases hold : (table.get? i).bind key = some k
    · -- the key was the one of the value before, and of no other
      have hown : index.get? k = some i := (h k i).2 (Option.bind_eq_some_iff.1 hold)
      rw [if_pos hold, hown]
      refine iff_of_false (fun hnone => by cases hnone) ?_
      rintro (⟨-, hk'⟩ | ⟨hne, hj⟩)
      · exact hk hk'
      · exact hne (Option.some.inj hj).symm
    · rw [if_neg hold]
      constructor
      · intro hget
        refine Or.inr ⟨?_, hget⟩
        rintro rfl
        exact hold (Option.bind_eq_some_iff.2 ((h k j).1 hget))
      · rintro (⟨-, hk'⟩ | ⟨-, hget⟩)
        · exact absurd hk' hk
        · exact hget

/-- **Without giving a key up the index is kept exactly if** the value before had none, or the same
one. -/
theorem put_iff (hfree : KeyFree index i (key a)) :
    Indexes (index.putKey i (key a)) (table.set i a) key ↔
      ∀ old, table.get? i = some old → ∀ k, key old = some k → key a = some k := by
  rw [h.set_iff]
  constructor
  · intro hafter old hold k hkold
    by_contra hk
    have hget := (hafter k i).1 (by
      rw [get?_putKey, if_neg hk]
      exact (h k i).2 ⟨old, hold, hkold⟩)
    rcases hget with ⟨-, hk'⟩ | ⟨hne, -⟩
    · exact hk hk'
    · exact hne rfl
  · intro hsame k j
    rw [get?_putKey]
    by_cases hk : key a = some k
    · rw [if_pos hk]
      constructor
      · intro hj
        exact Or.inl ⟨(Option.some.inj hj).symm, hk⟩
      · rintro (⟨rfl, -⟩ | ⟨hne, hget⟩)
        · rfl
        · exact absurd (hfree k hk j hget) hne
    · rw [if_neg hk]
      constructor
      · intro hget
        refine Or.inr ⟨?_, hget⟩
        rintro rfl
        obtain ⟨old, hold, hkold⟩ := (h k j).1 hget
        exact hk (hsame old hold k hkold)
      · rintro (⟨-, hk'⟩ | ⟨-, hget⟩)
        · exact absurd hk' hk
        · exact hget

/-- The key of a value that is replaced by one with another key, or with none, is stale. -/
theorem stale_of_put {old : α} (hold : table.get? i = some old) (hkold : key old = some k)
    (hk : key a ≠ some k) : Stale (index.putKey i (key a)) (table.set i a) key k i := by
  constructor
  · rw [get?_putKey, if_neg hk]
    exact (h k i).2 ⟨old, hold, hkold⟩
  · intro b hb
    rw [get?_set_self] at hb
    cases hb
    exact hk

end Indexes

/-- **A stale entry stays stale** if its key is never put again. -/
theorem Stale.put (h : Stale index table key k i) (hk : key a ≠ some k) :
    Stale (index.putKey j (key a)) (table.set j a) key k i := by
  constructor
  · rw [get?_putKey, if_neg hk]
    exact h.1
  · intro b hb
    rcases get?_set_eq_some_iff.1 hb with ⟨-, rfl⟩ | ⟨-, hold⟩
    · exact hk
    · exact h.2 b hold

end Dict

end PlatformOps
