/-
**The highest-ranked elements of a list.**

A list of entries is ranked by a number, and only the entries of the highest rank count.  They are
computed in two passes: the highest rank by a fold, and the entries that have it by a filter.  What
counts is said without the passes: the entries that no entry of the list outranks.

Main definitions:

* `topRank` — the highest rank, by a fold;
* `highest` — the entries that no entry outranks.

Main results:

* `filter_topRank` — the two passes find the entries that no entry outranks;
* `highest_perm` — reordering the list reorders them;
* `highest_append_of_lt`, `highest_append_of_eq` — entries of a lower rank change nothing, entries
  of the same rank are added.
-/

import Mathlib.Data.List.Basic
import Mathlib.Data.List.Perm.Basic
import Mathlib.Order.Basic

set_option relaxedAutoImplicit false
set_option autoImplicit false

namespace PlatformOps.MostSpecific

universe u

variable {α : Type u} (rank : α → ℕ)

/-- The highest rank in a list with a first entry. -/
def topRank (first : α) (rest : List α) : ℕ :=
  rest.foldl (fun n a => max n (rank a)) (rank first)

/-- The entries that no entry outranks. -/
def highest (l : List α) : List α := l.filter fun a => ∀ b ∈ l, rank b ≤ rank a

theorem foldl_max_spec (l : List α) (n : ℕ) :
    n ≤ l.foldl (fun n a => max n (rank a)) n ∧
      (∀ a ∈ l, rank a ≤ l.foldl (fun n a => max n (rank a)) n) ∧
      (l.foldl (fun n a => max n (rank a)) n = n ∨
        ∃ a ∈ l, rank a = l.foldl (fun n a => max n (rank a)) n) := by
  induction l generalizing n with
  | nil => simp
  | cons a l ih =>
      obtain ⟨hstart, hall, hsome⟩ := ih (max n (rank a))
      simp only [List.foldl_cons]
      refine ⟨by omega, ?_, ?_⟩
      · intro b hb
        rcases List.mem_cons.1 hb with rfl | hb
        · omega
        · exact hall b hb
      · rcases hsome with hsame | ⟨b, hb, hrank⟩
        · rcases Nat.le_total (rank a) n with hle | hle
          · exact .inl (by rw [hsame]; omega)
          · exact .inr ⟨a, List.mem_cons_self, by rw [hsame]; omega⟩
        · exact .inr ⟨b, List.mem_cons_of_mem a hb, hrank⟩

theorem le_topRank (first : α) (rest : List α) {a : α} (ha : a ∈ first :: rest) :
    rank a ≤ topRank rank first rest := by
  obtain ⟨hstart, hall, -⟩ := foldl_max_spec rank rest (rank first)
  rcases List.mem_cons.1 ha with rfl | ha
  · exact hstart
  · exact hall a ha

theorem exists_rank_eq_topRank (first : α) (rest : List α) :
    ∃ a ∈ first :: rest, rank a = topRank rank first rest := by
  obtain ⟨-, -, hsome⟩ := foldl_max_spec rank rest (rank first)
  rcases hsome with hsame | ⟨a, ha, hrank⟩
  · exact ⟨first, List.mem_cons_self, hsame.symm⟩
  · exact ⟨a, List.mem_cons_of_mem first ha, hrank⟩

/-- **The two passes find the entries that no entry outranks.** -/
theorem filter_topRank (first : α) (rest : List α) :
    (first :: rest).filter (fun a => rank a = topRank rank first rest) =
      highest rank (first :: rest) := by
  obtain ⟨top, htop, hrank⟩ := exists_rank_eq_topRank rank first rest
  refine List.filter_congr fun a ha => decide_eq_decide.2 ⟨fun heq b hb => ?_, fun hall => ?_⟩
  · rw [heq]
    exact le_topRank rank first rest hb
  · have hle := le_topRank rank first rest ha
    have hge := hall top htop
    omega

variable {rank}

theorem mem_highest {l : List α} {a : α} :
    a ∈ highest rank l ↔ a ∈ l ∧ ∀ b ∈ l, rank b ≤ rank a := by
  simp [highest]

theorem highest_nil : highest rank ([] : List α) = [] := rfl

theorem exists_mem_highest {l : List α} (h : l ≠ []) : ∃ a, a ∈ highest rank l := by
  cases l with
  | nil => exact absurd rfl h
  | cons first rest =>
      obtain ⟨a, ha, hrank⟩ := exists_rank_eq_topRank rank first rest
      refine ⟨a, mem_highest.2 ⟨ha, fun b hb => ?_⟩⟩
      rw [hrank]
      exact le_topRank rank first rest hb

/-- Reordering the list reorders the highest entries. -/
theorem highest_perm {l l' : List α} (h : l.Perm l') :
    (highest rank l).Perm (highest rank l') := by
  have hsame : l'.filter (fun a => decide (∀ b ∈ l, rank b ≤ rank a)) = highest rank l' := by
    refine List.filter_congr fun a _ => decide_eq_decide.2 ?_
    exact forall_congr' fun b => by rw [h.mem_iff]
  rw [← hsame]
  exact h.filter _

/-- **Entries of a lower rank change nothing.** -/
theorem highest_append_of_lt {l extra : List α}
    (h : ∀ x ∈ extra, ∃ a ∈ l, rank x < rank a) : highest rank (l ++ extra) = highest rank l := by
  have hextra : extra.filter (fun a => decide (∀ b ∈ l ++ extra, rank b ≤ rank a)) = [] := by
    refine List.filter_eq_nil_iff.2 fun x hx hall => ?_
    obtain ⟨a, ha, hlt⟩ := h x hx
    have hle := of_decide_eq_true hall a (List.mem_append_left _ ha)
    omega
  have hold : l.filter (fun a => decide (∀ b ∈ l ++ extra, rank b ≤ rank a)) =
      highest rank l := by
    refine List.filter_congr fun a _ => decide_eq_decide.2 ⟨fun hall b hb => ?_, fun hall b hb => ?_⟩
    · exact hall b (List.mem_append_left _ hb)
    · rcases List.mem_append.1 hb with hb | hb
      · exact hall b hb
      · obtain ⟨c, hc, hlt⟩ := h b hb
        have hle := hall c hc
        omega
  unfold highest at hold ⊢
  rw [List.filter_append, hextra, List.append_nil, hold]

/-- **Entries of the highest rank are added.** -/
theorem highest_append_of_eq {l extra : List α} {a : α} (ha : a ∈ highest rank l)
    (h : ∀ x ∈ extra, rank x = rank a) : highest rank (l ++ extra) = highest rank l ++ extra := by
  obtain ⟨hmem, htop⟩ := mem_highest.1 ha
  have hextra : extra.filter (fun a => decide (∀ b ∈ l ++ extra, rank b ≤ rank a)) = extra := by
    refine List.filter_eq_self.2 fun x hx => decide_eq_true fun b hb => ?_
    have hx' := h x hx
    rcases List.mem_append.1 hb with hb | hb
    · have hb' := htop b hb
      omega
    · have hb' := h b hb
      omega
  have hold : l.filter (fun a => decide (∀ b ∈ l ++ extra, rank b ≤ rank a)) =
      highest rank l := by
    refine List.filter_congr fun c _ => decide_eq_decide.2 ⟨fun hall b hb => ?_, fun hall b hb => ?_⟩
    · exact hall b (List.mem_append_left _ hb)
    · rcases List.mem_append.1 hb with hb | hb
      · exact hall b hb
      · have hb' := h b hb
        have hc := hall a hmem
        omega
  unfold highest at hold ⊢
  rw [List.filter_append, hextra, hold]

end PlatformOps.MostSpecific
