/-
**Texts joined with a separator.**

Joining a list of texts with a separator forgets where the separators inside the texts end and the
ones between them begin.  What it does not forget is everything else: two lists of texts with the
same join are equal as soon as the texts contain the separator equally often, place by place.  The
lists that share a join are therefore the different *readings* of one sequence of pieces, and a list
whose texts are free of the separator is read back from its join in only one way.

Main results:

* `Separator.cut_inj` — a separator that is preceded by the same number of separators cuts two
  equal texts at the same place;
* `Separator.intercalate_inj` — **a join is determined up to the number of separators in each
  text**;
* `Separator.intercalate_inj_of_free` — texts free of the separator are determined by their join;
* `Separator.append_cons_inj_of_free` — a suffix free of the separator is cut off unambiguously;
* `Separator.join_eq_iff_pieces` — a join is the sequence of the pieces of its parts;
* `Separator.join_inj`, `Separator.join_inj_of_free` — the same for strings.
-/

import Mathlib.Data.List.Basic
import Mathlib.Data.List.Infix
import Mathlib.Algebra.BigOperators.Group.List.Basic
import Mathlib.Tactic.Linarith

set_option relaxedAutoImplicit false
set_option autoImplicit false

namespace PlatformOps

namespace Separator

universe u

variable {α : Type u} [DecidableEq α]

/-! ### Lists -/

/-- A separator preceded by the same number of separators cuts two equal texts at the same
place. -/
theorem cut_inj {c : α} : ∀ {xs ys r s : List α}, xs.count c = ys.count c →
    xs ++ c :: r = ys ++ c :: s → xs = ys ∧ r = s := by
  intro xs
  induction xs with
  | nil =>
      intro ys r s hc h
      cases ys with
      | nil => exact ⟨rfl, by simpa using h⟩
      | cons y ys =>
          simp only [List.nil_append, List.cons_append, List.cons.injEq] at h
          -- `ys` begins with the separator, of which `[]` has none
          rw [← h.1] at hc
          simp at hc
  | cons x xs ih =>
      intro ys r s hc h
      cases ys with
      | nil =>
          simp only [List.nil_append, List.cons_append, List.cons.injEq] at h
          rw [h.1] at hc
          simp at hc
      | cons y ys =>
          simp only [List.cons_append, List.cons.injEq] at h
          obtain ⟨rfl, h⟩ := h
          obtain ⟨hxs, hrs⟩ := ih (by simpa [List.count_cons] using hc) h
          exact ⟨by rw [hxs], hrs⟩

/-- **A join is determined up to the number of separators in each text.** -/
theorem intercalate_inj {c : α} : ∀ {L M : List (List α)},
    L.map (List.count c) = M.map (List.count c) →
    [c].intercalate L = [c].intercalate M → L = M := by
  intro L
  induction L with
  | nil =>
      intro M hc _
      cases M with
      | nil => rfl
      | cons m M => simp at hc
  | cons l L ih =>
      intro M hc h
      cases M with
      | nil => simp at hc
      | cons m M =>
          simp only [List.map_cons, List.cons.injEq] at hc
          cases L with
          | nil =>
              obtain rfl : M = [] := by simpa using hc.2.symm
              simpa using h
          | cons l' L =>
              cases M with
              | nil => simp at hc
              | cons m' M =>
                  rw [List.intercalate_cons_cons, List.intercalate_cons_cons, List.append_assoc,
                    List.append_assoc, List.singleton_append, List.singleton_append] at h
                  -- the first texts end at the same separator
                  obtain ⟨hlm, hrest⟩ := cut_inj hc.1 h
                  rw [hlm, ih hc.2 hrest]

/-- The separators of a join are those of the texts and one between any two of them. -/
theorem count_intercalate (c : α) (l : List α) (L : List (List α)) :
    ([c].intercalate (l :: L)).count c = ((l :: L).map (List.count c)).sum + L.length := by
  induction L generalizing l with
  | nil => simp
  | cons l' L ih =>
      rw [List.intercalate_cons_cons, List.count_append, List.count_append, ih]
      simp only [List.count_singleton_self, List.map_cons, List.sum_cons, List.length_cons]
      omega

theorem map_count_eq_replicate {c : α} {L : List (List α)} (h : ∀ l ∈ L, c ∉ l) :
    L.map (List.count c) = List.replicate L.length 0 := by
  refine List.eq_replicate_iff.2 ⟨by simp, fun n hn => ?_⟩
  obtain ⟨l, hl, rfl⟩ := List.mem_map.1 hn
  exact List.count_eq_zero.2 (h l hl)

/-- Texts free of the separator are determined by their join. -/
theorem intercalate_inj_of_free {c : α} {L M : List (List α)} (hL : L ≠ []) (hM : M ≠ [])
    (hLc : ∀ l ∈ L, c ∉ l) (hMc : ∀ m ∈ M, c ∉ m)
    (h : [c].intercalate L = [c].intercalate M) : L = M := by
  obtain ⟨l, L, rfl⟩ := List.exists_cons_of_ne_nil hL
  obtain ⟨m, M, rfl⟩ := List.exists_cons_of_ne_nil hM
  have hlen : (l :: L).length = (m :: M).length := by
    have hcount := congrArg (List.count c) h
    rw [count_intercalate, count_intercalate, map_count_eq_replicate hLc,
      map_count_eq_replicate hMc] at hcount
    simpa using hcount
  refine intercalate_inj ?_ h
  rw [map_count_eq_replicate hLc, map_count_eq_replicate hMc, hlen]

/-- A suffix free of the separator is cut off unambiguously. -/
theorem append_cons_inj_of_free {c : α} {xs ys r s : List α} (hr : c ∉ r) (hs : c ∉ s)
    (h : xs ++ c :: r = ys ++ c :: s) : xs = ys ∧ r = s := by
  have hcount := congrArg (List.count c) h
  simp only [List.count_append, List.count_cons_self, List.count_eq_zero.2 hr,
    List.count_eq_zero.2 hs] at hcount
  exact cut_inj (by omega) h

/-- Cutting a join at its separators gives the pieces of its parts. -/
theorem splitOn_intercalate_eq_flatMap (c : α) {L : List (List α)} (hL : L ≠ []) :
    ([c].intercalate L).splitOn c = L.flatMap (List.splitOn c) := by
  induction L with
  | nil => exact absurd rfl hL
  | cons l L ih =>
      cases L with
      | nil => simp [List.intercalate]
      | cons m M =>
          have hcons : [c].intercalate (l :: m :: M) = l ++ c :: [c].intercalate (m :: M) := by
            simp [List.intercalate]
          rw [hcons, List.splitOn_append_cons_self, ih (by simp)]
          simp

/-- A map that keeps the separator, and makes no other, keeps the pieces. -/
theorem splitOn_map {c : α} {f : α → α} (hf : ∀ x, f x = c ↔ x = c) (l : List α) :
    (l.map f).splitOn c = (l.splitOn c).map (List.map f) := by
  induction l with
  | nil => simp
  | cons x l ih =>
      rw [List.map_cons, List.splitOn_cons_eq_if_modifyHead, List.splitOn_cons_eq_if_modifyHead, ih]
      by_cases hx : x = c
      · simp [hx, (hf c).2 rfl]
      · have hfx : f x ≠ c := fun h => hx ((hf x).1 h)
        cases hl : l.splitOn c with
        | nil => exact absurd hl (List.splitOn_ne_nil c l)
        | cons y ys => simp [hx, hfx]

/-- The last piece is not empty, unless there is nothing or a separator at the end. -/
theorem getLast?_splitOn_ne_nil {c : α} {l : List α} (hl : l ≠ []) (hlast : l.getLast? ≠ some c) :
    (l.splitOn c).getLast? ≠ some [] := by
  induction l with
  | nil => exact absurd rfl hl
  | cons x l ih =>
      rw [List.splitOn_cons_eq_if_modifyHead]
      cases l with
      | nil =>
          have hx : x ≠ c := by simpa using hlast
          simp [hx]
      | cons y l =>
          have hrest := ih (by simp) (by simpa [List.getLast?_cons_cons] using hlast)
          cases hsplit : (y :: l).splitOn c with
          | nil => exact absurd hsplit (List.splitOn_ne_nil c _)
          | cons p ps =>
              rw [hsplit] at hrest
              by_cases hx : x = c
              · simpa [hx, List.getLast?_cons_cons] using hrest
              · cases ps with
                | nil => simp [hx]
                | cons q qs => simpa [hx, List.getLast?_cons_cons] using hrest

omit [DecidableEq α] in
/-- What is in a join is in one of the texts, or a separator. -/
theorem mem_of_mem_intercalate {c x : α} {L : List (List α)} (h : x ∈ [c].intercalate L) :
    x = c ∨ ∃ l ∈ L, x ∈ l := by
  induction L with
  | nil => simp at h
  | cons l L ih =>
      cases L with
      | nil => exact Or.inr ⟨l, by simp, by simpa using h⟩
      | cons m M =>
          rw [List.intercalate_cons_cons, List.mem_append, List.mem_append] at h
          rcases h with (h | h) | h
          · exact Or.inr ⟨l, by simp, h⟩
          · exact Or.inl (List.mem_singleton.1 h)
          · rcases ih h with h | ⟨k, hk, h⟩
            · exact Or.inl h
            · exact Or.inr ⟨k, List.mem_cons_of_mem l hk, h⟩

omit [DecidableEq α] in
theorem mem_intercalate_of_mem {c x : α} {L : List (List α)} {l : List α} (hl : l ∈ L)
    (hx : x ∈ l) : x ∈ [c].intercalate L := by
  induction L with
  | nil => cases hl
  | cons k L ih =>
      cases L with
      | nil =>
          obtain rfl := List.mem_singleton.1 hl
          simpa using hx
      | cons m M =>
          rw [List.intercalate_cons_cons, List.mem_append, List.mem_append]
          rcases List.mem_cons.1 hl with rfl | hl
          · exact Or.inl (Or.inl hx)
          · exact Or.inr (ih hl)

/-! ### Strings -/

/-- The number of occurrences of a character in a string. -/
def occurrences (c : Char) (s : String) : ℕ := s.toList.count c

theorem map_occurrences (c : Char) (L : List String) :
    L.map (occurrences c) = (L.map String.toList).map (List.count c) := by
  simp [occurrences, Function.comp_def]

theorem map_toList_injective {L M : List String} (h : L.map String.toList = M.map String.toList) :
    L = M :=
  List.map_injective_iff.2 (fun _ _ => String.toList_inj.1) h

theorem toList_join (c : Char) (L : List String) :
    ((String.singleton c).intercalate L).toList = [c].intercalate (L.map String.toList) := by
  simp [String.toList_intercalate]

/-- The pieces of a string between the occurrences of a character. -/
def pieces (c : Char) (s : String) : List (List Char) := s.toList.splitOn c

/-- **A join is determined by the pieces of its parts, and determines them.** -/
theorem join_eq_iff_pieces {c : Char} {L M : List String} (hL : L ≠ []) (hM : M ≠ []) :
    (String.singleton c).intercalate L = (String.singleton c).intercalate M ↔
      L.flatMap (pieces c) = M.flatMap (pieces c) := by
  have hsplit : ∀ {K : List String}, K ≠ [] →
      ((String.singleton c).intercalate K).toList.splitOn c = K.flatMap (pieces c) := by
    intro K hK
    rw [toList_join, splitOn_intercalate_eq_flatMap c (by simpa using hK), List.flatMap_map]
    rfl
  rw [← hsplit hL, ← hsplit hM]
  constructor
  · intro h
    rw [h]
  · intro h
    -- joining the pieces of a text gives the text back
    have hjoin := congrArg [c].intercalate h
    rwa [List.intercalate_splitOn, List.intercalate_splitOn, String.toList_inj] at hjoin

/-- **Strings with one join that hold the separator equally often, place by place, are equal.** -/
theorem join_inj {c : Char} {L M : List String} (hc : L.map (occurrences c) = M.map (occurrences c))
    (h : (String.singleton c).intercalate L = (String.singleton c).intercalate M) : L = M := by
  refine map_toList_injective (intercalate_inj (c := c) ?_ ?_)
  · rw [← map_occurrences, ← map_occurrences, hc]
  · rw [← toList_join, ← toList_join, h]

theorem join_inj_of_free {c : Char} {L M : List String} (hL : L ≠ []) (hM : M ≠ [])
    (hLc : ∀ s ∈ L, c ∉ s.toList) (hMc : ∀ s ∈ M, c ∉ s.toList)
    (h : (String.singleton c).intercalate L = (String.singleton c).intercalate M) : L = M := by
  refine map_toList_injective (intercalate_inj_of_free (c := c) (by simpa using hL)
    (by simpa using hM) (by simpa using hLc) (by simpa using hMc) ?_)
  rw [← toList_join, ← toList_join, h]

end Separator

end PlatformOps
