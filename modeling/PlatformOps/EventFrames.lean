/-
**Texts in marked lines.**

A sender writes each text behind a mark on a line of its own, with an empty line after it.  A reader
splits what arrives at the ends of lines and takes what follows the mark on the lines that have it.
Where neither the mark nor a text has the end of a line in it, the reader gets the texts back, in
order.

Main definitions:

* `framed` — the mark, a text, and the ends of two lines;
* `payload?`, `payloads` — what follows the mark on a line, and on the lines that have it.

Main results:

* `splitOn_frames` — the lines of a sequence of frames;
* `payloads_frames` — **a reader gets the texts back**.
-/

import Mathlib.Data.List.Basic

set_option relaxedAutoImplicit false
set_option autoImplicit false

namespace PlatformOps

universe u

section

variable {α : Type u} [DecidableEq α]

/-- A text behind a mark, with an empty line after it. -/
def framed (mark : List α) (lineEnd : α) (text : List α) : List α :=
  mark ++ text ++ [lineEnd, lineEnd]

/-- What follows the mark, if the line has it. -/
def payload? (mark line : List α) : Option (List α) :=
  if mark.isPrefixOf line then some (line.drop mark.length) else none

/-- What follows the mark on the lines that have it. -/
def payloads (mark : List α) (lines : List (List α)) : List (List α) :=
  lines.filterMap (payload? mark)

variable {mark : List α} {lineEnd : α}

theorem payload?_append (mark text : List α) : payload? mark (mark ++ text) = some text := by
  simp [payload?]

/-- What has a payload is the mark and the payload. -/
theorem eq_append_of_payload? {line text : List α} (h : payload? mark line = some text) :
    line = mark ++ text := by
  unfold payload? at h
  split at h
  · rename_i hmarked
    cases h
    exact (List.prefix_iff_eq_append.1 (List.isPrefixOf_iff_prefix.1 hmarked)).symm
  · cases h

/-- A mark is not nothing, so that an empty line has none. -/
theorem payload?_nil (h : mark ≠ []) : payload? mark [] = none := by
  cases mark with
  | nil => exact absurd rfl h
  | cons a mark => simp [payload?]

/-- A frame is a marked line and an empty one. -/
theorem splitOn_frame_append {text : List α} (hmark : lineEnd ∉ mark) (htext : lineEnd ∉ text)
    (rest : List α) :
    (framed mark lineEnd text ++ rest).splitOn lineEnd =
      (mark ++ text) :: [] :: rest.splitOn lineEnd := by
  have hline : lineEnd ∉ mark ++ text := by simp [hmark, htext]
  have hshape : framed mark lineEnd text ++ rest =
      (mark ++ text) ++ lineEnd :: ([] ++ lineEnd :: rest) := by simp [framed]
  rw [hshape, List.splitOn_append_cons_self, List.splitOn_append_cons_self,
    List.splitOn_eq_singleton hline, List.splitOn_nil]
  rfl

/-- **The lines of a sequence of frames**: each has a marked line and an empty one, and the last line
is empty. -/
theorem splitOn_frames {texts : List (List α)} (hmark : lineEnd ∉ mark)
    (htexts : ∀ text ∈ texts, lineEnd ∉ text) :
    ((texts.map (framed mark lineEnd)).flatten).splitOn lineEnd =
      (texts.flatMap fun text => [mark ++ text, []]) ++ [[]] := by
  induction texts with
  | nil => simp [List.splitOn_nil]
  | cons text texts ih =>
      rw [List.map_cons, List.flatten_cons,
        splitOn_frame_append hmark (htexts text List.mem_cons_self),
        ih fun text' h => htexts text' (List.mem_cons_of_mem _ h)]
      simp

/-- **A reader gets the texts back**, in order. -/
theorem payloads_frames {texts : List (List α)} (hne : mark ≠ []) (hmark : lineEnd ∉ mark)
    (htexts : ∀ text ∈ texts, lineEnd ∉ text) :
    payloads mark (((texts.map (framed mark lineEnd)).flatten).splitOn lineEnd) = texts := by
  rw [splitOn_frames hmark htexts]
  unfold payloads
  rw [List.filterMap_append, List.filterMap_flatMap]
  induction texts with
  | nil => simp [payload?_nil hne]
  | cons text texts ih =>
      have hrest := ih fun text' h => htexts text' (List.mem_cons_of_mem _ h)
      simp only [List.flatMap_cons, List.filterMap_cons, payload?_append, payload?_nil hne,
        List.filterMap_nil, List.append_nil] at hrest ⊢
      simp [hrest]

end

end PlatformOps
