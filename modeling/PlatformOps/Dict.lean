/-
**Insertion-ordered dictionaries.**

A dictionary is a list of key–value pairs whose keys are distinct; the list order is the order in
which the keys were first inserted.  Writing to a key that is present keeps its place, writing to
an absent key appends it, and removing a key leaves the order of the others alone.  The order is
observable through `Dict.values`; two dictionaries with the same lookups may differ in it, and
`Dict.SameMap` is the equality that forgets it.

Main definitions:

* `Dict`, `Dict.get?`, `Dict.set`, `Dict.erase`, `Dict.values`, `Dict.keys`;
* `Dict.ofPairs` — the dictionary built by writing a list of pairs in order;
* `Dict.SameMap` — equality of lookups.

Main results:

* `Dict.get?_set`, `Dict.get?_erase` — a write changes exactly one lookup;
* `Dict.mem_entries_iff`, `Dict.mem_values_iff` — the entries are exactly the lookups;
* `Dict.get?_ofPairs` — among pairs with one key the last one wins;
* `Dict.SameMap.perm` — **two dictionaries with the same lookups have the same entries up to
  order**.
-/

import Mathlib.Data.List.Nodup
import Mathlib.Data.List.Perm.Basic

set_option relaxedAutoImplicit false
set_option autoImplicit false

namespace PlatformOps

universe u v

/-- A dictionary that remembers the order in which its keys were first inserted. -/
structure Dict (κ : Type u) (α : Type v) where
  /-- The pairs, in insertion order. -/
  entries : List (κ × α)
  /-- No key occurs twice. -/
  nodup : (entries.map Prod.fst).Nodup

namespace Dict

variable {κ : Type u} {α : Type v}

theorem entries_injective {d e : Dict κ α} (h : d.entries = e.entries) : d = e := by
  cases d
  cases e
  cases h
  rfl

instance [DecidableEq κ] [DecidableEq α] : DecidableEq (Dict κ α) := fun d e =>
  decidable_of_iff (d.entries = e.entries) ⟨entries_injective, fun h => h ▸ rfl⟩

/-- The dictionary without entries. -/
def empty : Dict κ α := ⟨[], List.nodup_nil⟩

/-- The stored values, in insertion order. -/
def values (d : Dict κ α) : List α := d.entries.map Prod.snd

theorem entries_nodup (d : Dict κ α) : d.entries.Nodup := d.nodup.of_map Prod.fst

variable [DecidableEq κ]

/-- The value stored under a key. -/
def get? (d : Dict κ α) (k : κ) : Option α := d.entries.lookup k

/-! ### Writing -/

/-- Overwrite the pair of `k` in place, or append it. -/
def setEntries (k : κ) (v : α) : List (κ × α) → List (κ × α)
  | [] => [(k, v)]
  | (k', v') :: l => if k' = k then (k, v) :: l else (k', v') :: setEntries k v l

theorem mem_keys_setEntries {k : κ} {v : α} {l : List (κ × α)} {k' : κ} :
    k' ∈ (setEntries k v l).map Prod.fst ↔ k' = k ∨ k' ∈ l.map Prod.fst := by
  induction l with
  | nil => simp [setEntries]
  | cons p l ih =>
      obtain ⟨a, w⟩ := p
      by_cases h : a = k
      · subst h
        simp [setEntries]
      · simp only [setEntries, if_neg h, List.map_cons, List.mem_cons, ih]
        tauto

theorem nodup_keys_setEntries (k : κ) (v : α) {l : List (κ × α)}
    (hl : (l.map Prod.fst).Nodup) : ((setEntries k v l).map Prod.fst).Nodup := by
  induction l with
  | nil => simp [setEntries]
  | cons p l ih =>
      obtain ⟨a, w⟩ := p
      simp only [List.map_cons, List.nodup_cons] at hl
      by_cases h : a = k
      · subst h
        simpa [setEntries] using hl
      · simp only [setEntries, if_neg h, List.map_cons, List.nodup_cons]
        refine ⟨fun hmem => ?_, ih hl.2⟩
        rcases mem_keys_setEntries.1 hmem with h' | h'
        · exact h h'
        · exact hl.1 h'

/-- Store `v` under `k`: a key that is present keeps its place, a new key goes last. -/
def set (d : Dict κ α) (k : κ) (v : α) : Dict κ α :=
  ⟨setEntries k v d.entries, nodup_keys_setEntries k v d.nodup⟩

/-- Remove `k`, if present. -/
def erase (d : Dict κ α) (k : κ) : Dict κ α :=
  ⟨d.entries.filter fun p => decide (p.1 ≠ k),
    d.nodup.sublist ((List.filter_sublist).map Prod.fst)⟩

/-- The dictionary obtained by writing the pairs of a list in order. -/
def ofPairs (l : List (κ × α)) : Dict κ α := l.foldl (fun d p => d.set p.1 p.2) empty

/-! ### Reading back -/

@[simp] theorem get?_empty (k : κ) : (empty : Dict κ α).get? k = none := rfl

theorem lookup_setEntries (k k' : κ) (v : α) (l : List (κ × α)) :
    (setEntries k v l).lookup k' = if k' = k then some v else l.lookup k' := by
  induction l with
  | nil =>
      by_cases h : k' = k
      · simp [setEntries, h]
      · simp [setEntries, h, List.lookup_cons, beq_false_of_ne h]
  | cons p l ih =>
      obtain ⟨a, w⟩ := p
      by_cases ha : a = k
      · subst ha
        by_cases h : k' = a
        · simp [setEntries, h]
        · simp [setEntries, h, List.lookup_cons, beq_false_of_ne h]
      · by_cases h : k' = a
        · subst h
          simp [setEntries, ha]
        · simp only [setEntries, if_neg ha, List.lookup_cons, beq_false_of_ne h, ih]

theorem lookup_filter_ne (k k' : κ) (l : List (κ × α)) :
    (l.filter fun p => decide (p.1 ≠ k)).lookup k' = if k' = k then none else l.lookup k' := by
  induction l with
  | nil => simp
  | cons p l ih =>
      obtain ⟨a, w⟩ := p
      by_cases ha : a = k
      · subst ha
        by_cases h : k' = a
        · simpa [h] using ih
        · simpa [h, List.lookup_cons, beq_false_of_ne h] using ih
      · by_cases h : k' = a
        · subst h
          simp [ha]
        · simpa [ha, List.lookup_cons, beq_false_of_ne h] using ih

/-- **A write changes exactly one lookup.** -/
theorem get?_set (d : Dict κ α) (k k' : κ) (v : α) :
    (d.set k v).get? k' = if k' = k then some v else d.get? k' :=
  lookup_setEntries k k' v d.entries

/-- **A removal changes exactly one lookup.** -/
theorem get?_erase (d : Dict κ α) (k k' : κ) :
    (d.erase k).get? k' = if k' = k then none else d.get? k' :=
  lookup_filter_ne k k' d.entries

@[simp] theorem get?_set_self (d : Dict κ α) (k : κ) (v : α) : (d.set k v).get? k = some v := by
  simp [get?_set]

@[simp] theorem get?_set_of_ne (d : Dict κ α) {k k' : κ} (v : α) (h : k' ≠ k) :
    (d.set k v).get? k' = d.get? k' := by
  simp [get?_set, h]

@[simp] theorem get?_erase_self (d : Dict κ α) (k : κ) : (d.erase k).get? k = none := by
  simp [get?_erase]

@[simp] theorem get?_erase_of_ne (d : Dict κ α) {k k' : κ} (h : k' ≠ k) :
    (d.erase k).get? k' = d.get? k' := by
  simp [get?_erase, h]

theorem get?_set_eq_some_iff {d : Dict κ α} {k k' : κ} {v w : α} :
    (d.set k v).get? k' = some w ↔ k' = k ∧ w = v ∨ k' ≠ k ∧ d.get? k' = some w := by
  by_cases h : k' = k
  · subst h
    simp [eq_comm]
  · simp [h]

theorem get?_erase_eq_some_iff {d : Dict κ α} {k k' : κ} {v : α} :
    (d.erase k).get? k' = some v ↔ k' ≠ k ∧ d.get? k' = some v := by
  by_cases h : k' = k
  · subst h
    simp
  · simp [h]

theorem lookup_eq_some_iff_mem {l : List (κ × α)} (hl : (l.map Prod.fst).Nodup) {k : κ} {v : α} :
    l.lookup k = some v ↔ (k, v) ∈ l := by
  induction l with
  | nil => simp
  | cons p l ih =>
      obtain ⟨a, w⟩ := p
      simp only [List.map_cons, List.nodup_cons] at hl
      by_cases h : k = a
      · subst h
        simp only [List.lookup_cons_self, Option.some.injEq, List.mem_cons, Prod.mk.injEq, true_and]
        constructor
        · intro hv
          exact Or.inl hv.symm
        · rintro (hv | hv)
          · exact hv.symm
          · -- a second pair with this key would repeat it
            exact absurd (List.mem_map_of_mem (f := Prod.fst) hv) hl.1
      · simp [List.lookup_cons, beq_false_of_ne h, h, ih hl.2]

/-- The entries of a dictionary are its lookups. -/
theorem mem_entries_iff (d : Dict κ α) {k : κ} {v : α} : (k, v) ∈ d.entries ↔ d.get? k = some v :=
  (lookup_eq_some_iff_mem d.nodup).symm

theorem mem_values_iff (d : Dict κ α) {v : α} : v ∈ d.values ↔ ∃ k, d.get? k = some v := by
  simp only [values, List.mem_map, Prod.exists, exists_eq_right, mem_entries_iff]

/-- A new entry adds its value. -/
theorem mem_values_set_of_new {d : Dict κ α} {k : κ} (h : d.get? k = none) {v w : α} :
    w ∈ (d.set k v).values ↔ w = v ∨ w ∈ d.values := by
  rw [mem_values_iff, mem_values_iff]
  constructor
  · rintro ⟨k', hk'⟩
    rcases get?_set_eq_some_iff.1 hk' with ⟨-, rfl⟩ | ⟨-, hold⟩
    · exact Or.inl rfl
    · exact Or.inr ⟨k', hold⟩
  · rintro (rfl | ⟨k', hk'⟩)
    · exact ⟨k, get?_set_self d k w⟩
    · refine ⟨k', get?_set_eq_some_iff.2 (Or.inr ⟨?_, hk'⟩)⟩
      rintro rfl
      rw [h] at hk'
      cases hk'

/-- A new entry adds the row of its value to the rows of the values. -/
theorem mem_rows_set_of_new {ρ : Type*} {d : Dict κ α} {k : κ} (h : d.get? k = none) {v : α}
    {rowOf : α → ρ} {rows : List ρ} (hrows : ∀ row, row ∈ rows ↔ ∃ w ∈ d.values, row = rowOf w)
    (row : ρ) : row ∈ rows ∨ row = rowOf v ↔ ∃ w ∈ (d.set k v).values, row = rowOf w := by
  rw [hrows]
  constructor
  · rintro (⟨w, hw, rfl⟩ | rfl)
    · exact ⟨w, (mem_values_set_of_new h).2 (Or.inr hw), rfl⟩
    · exact ⟨v, (mem_values_set_of_new h).2 (Or.inl rfl), rfl⟩
  · rintro ⟨w, hw, rfl⟩
    rcases (mem_values_set_of_new h).1 hw with rfl | hw
    · exact Or.inr rfl
    · exact Or.inl ⟨w, hw, rfl⟩

/-! ### Keys -/

/-- The keys, in insertion order. -/
def keys (d : Dict κ α) : List κ := d.entries.map Prod.fst

omit [DecidableEq κ] in
theorem nodup_keys (d : Dict κ α) : d.keys.Nodup := d.nodup

theorem setEntries_of_notMem {k : κ} {v : α} {l : List (κ × α)} (h : k ∉ l.map Prod.fst) :
    setEntries k v l = l ++ [(k, v)] := by
  induction l with
  | nil => rfl
  | cons p l ih =>
      obtain ⟨k', v'⟩ := p
      simp only [List.map_cons, List.mem_cons, not_or] at h
      rw [setEntries, if_neg (Ne.symm h.1), ih h.2, List.cons_append]

/-- A new key goes last. -/
theorem keys_set_of_new {d : Dict κ α} {k : κ} (h : k ∉ d.keys) (v : α) :
    (d.set k v).keys = d.keys ++ [k] := by
  simp [keys, set, setEntries_of_notMem h]

/-! ### Dictionaries from lists of pairs -/

theorem get?_foldl_set (l : List (κ × α)) (d : Dict κ α) (k : κ) :
    (l.foldl (fun d p => d.set p.1 p.2) d).get? k = (l.reverse.lookup k).or (d.get? k) := by
  induction l generalizing d with
  | nil => simp
  | cons p l ih =>
      obtain ⟨a, w⟩ := p
      rw [List.foldl_cons, ih, List.reverse_cons, List.lookup_append, get?_set, Option.or_assoc]
      by_cases h : k = a
      · simp [h]
      · simp [h, List.lookup_cons, beq_false_of_ne h]

/-- **Among pairs with one key the last one wins.** -/
theorem get?_ofPairs (l : List (κ × α)) (k : κ) : (ofPairs l).get? k = l.reverse.lookup k := by
  simp [ofPairs, get?_foldl_set]

/-- What is looked up was written. -/
theorem mem_of_get?_ofPairs {l : List (κ × α)} {k : κ} {v : α} (h : (ofPairs l).get? k = some v) :
    (k, v) ∈ l := by
  rw [get?_ofPairs, List.lookup_eq_some_iff] at h
  obtain ⟨l₁, l₂, hl, -⟩ := h
  rw [← List.mem_reverse, hl]
  simp

/-- A key that was written is there. -/
theorem exists_get?_ofPairs {l : List (κ × α)} {k : κ} {v : α} (h : (k, v) ∈ l) :
    ∃ w, (ofPairs l).get? k = some w := by
  have hne : (ofPairs l).get? k ≠ none := by
    rw [get?_ofPairs, Ne, List.lookup_eq_none_iff]
    intro hnone
    simpa using hnone (k, v) (List.mem_reverse.2 h)
  exact Option.ne_none_iff_exists'.1 hne

/-- Pairs with new keys are appended as they are. -/
theorem entries_foldl_set {l : List (κ × α)} {d : Dict κ α}
    (h : (d.keys ++ l.map Prod.fst).Nodup) :
    (l.foldl (fun d p => d.set p.1 p.2) d).entries = d.entries ++ l := by
  induction l generalizing d with
  | nil => simp
  | cons p l ih =>
      obtain ⟨k, v⟩ := p
      have hkey : k ∉ d.keys := fun hmem => (List.nodup_append.1 h).2.2 _ hmem _ (by simp) rfl
      have hnodup : ((d.set k v).keys ++ l.map Prod.fst).Nodup := by
        rw [keys_set_of_new hkey]
        simpa using h
      rw [List.foldl_cons, ih hnodup]
      simp [set, setEntries_of_notMem hkey]

/-- Pairs with distinct keys are the entries of their dictionary. -/
theorem entries_ofPairs {l : List (κ × α)} (h : (l.map Prod.fst).Nodup) :
    (ofPairs l).entries = l :=
  entries_foldl_set (d := empty) h

/-! ### Equality of lookups -/

/-- Two dictionaries have the same lookups, whatever the order of their entries. -/
def SameMap (d e : Dict κ α) : Prop := ∀ k, d.get? k = e.get? k

theorem SameMap.refl (d : Dict κ α) : d.SameMap d := fun _ => rfl

theorem SameMap.symm {d e : Dict κ α} (h : d.SameMap e) : e.SameMap d := fun k => (h k).symm

/-- **Two dictionaries with the same lookups have the same entries up to order.** -/
theorem SameMap.perm {d e : Dict κ α} (h : d.SameMap e) : d.entries.Perm e.entries := by
  refine (List.perm_ext_iff_of_nodup d.entries_nodup e.entries_nodup).2 fun p => ?_
  obtain ⟨k, v⟩ := p
  rw [mem_entries_iff, mem_entries_iff, h k]

theorem sameMap_of_perm {d e : Dict κ α} (h : d.entries.Perm e.entries) : d.SameMap e := by
  intro k
  refine Option.ext fun v => ?_
  rw [← mem_entries_iff, ← mem_entries_iff, h.mem_iff]

end Dict

end PlatformOps
