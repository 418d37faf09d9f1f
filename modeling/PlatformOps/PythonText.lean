/-
**Text as the source handles it.**

Whitespace, case and substrings of texts.  Whitespace is listed.  The case of a letter is a table of
Unicode: lowering is a parameter here, of which only the ASCII part is written down, together with
what every lowering of Unicode respects.

Main definitions:

* `ValidationError`, `FitsLength` — what fails validation, and bounds on the length of a text;
* `isSpace`, `strip`, `splitWords`, `splitOnce`, `joinWords` — whitespace, and what `strip` and
  `split` do;
* `containsText` — substrings;
* `CaseMapping`, `CaseMapping.asciiOnly` — lowering, and the one that leaves all other letters
  alone.

Main results:

* `strip_of_not_hasSpace` — a text without whitespace is stripped already;
* `splitWords_strip`, `head?_splitOnce` — stripping keeps the words, and splitting once finds the
  first one;
* `length_joinWords_le` — joining the words of a text does not make it longer.
-/

import Mathlib.Data.List.DropRight
import Mathlib.Data.List.Flatten
import Mathlib.Data.List.Infix
import Mathlib.Data.String.Basic

set_option relaxedAutoImplicit false
set_option autoImplicit false

namespace PlatformOps

/-! ### Validation -/

/-- A value that fails validation at a field of a model. -/
structure ValidationError where
  model : String
  field : String
  deriving DecidableEq

/-! ### Length -/

/-- The length of a text is between these bounds. -/
def FitsLength (low high : ℕ) (text : String) : Prop := low ≤ text.length ∧ text.length ≤ high

instance (low high : ℕ) : DecidablePred (FitsLength low high) := fun text =>
  inferInstanceAs (Decidable (low ≤ text.length ∧ text.length ≤ high))

theorem one_le_length_iff {text : String} : 1 ≤ text.length ↔ text ≠ "" := by
  rw [Nat.one_le_iff_ne_zero, Ne, Ne, String.length_eq_zero_iff]

/-! ### Whitespace -/

/-- The characters `str.isspace` holds of. -/
def isSpace (c : Char) : Bool :=
  (9 ≤ c.toNat && c.toNat ≤ 13) || (28 ≤ c.toNat && c.toNat ≤ 32) || c.toNat = 0x85 ||
    c.toNat = 0xA0 || c.toNat = 0x1680 || (0x2000 ≤ c.toNat && c.toNat ≤ 0x200A) ||
    c.toNat = 0x2028 || c.toNat = 0x2029 || c.toNat = 0x202F || c.toNat = 0x205F || c.toNat = 0x3000

/-- Some character of the text is whitespace. -/
def hasSpace (text : String) : Bool := text.toList.any isSpace

/-- `str.strip`. -/
def strip (text : String) : String :=
  String.ofList ((text.toList.dropWhile isSpace).rdropWhile isSpace)

/-- `str.split` at runs of whitespace. -/
def splitWords (text : String) : List (List Char) :=
  (text.toList.splitOnP isSpace).filter fun word => !word.isEmpty

/-- `str.split(maxsplit=1)`: the first word and, where there is more, the rest from the second. -/
def splitOnce (text : String) : List (List Char) :=
  match text.toList.dropWhile isSpace with
  | [] => []
  | c :: chars =>
      let word := (c :: chars).takeWhile fun c => !isSpace c
      match ((c :: chars).dropWhile fun c => !isSpace c).dropWhile isSpace with
      | [] => [word]
      | rest => [word, rest]

/-- The words of a text with one blank between two of them. -/
def joinWords (text : String) : String := String.ofList ([' '].intercalate (splitWords text))

theorem strip_of_not_hasSpace {text : String} (h : hasSpace text = false) : strip text = text := by
  have hchars : ∀ c ∈ text.toList, isSpace c = false := by
    intro c hc
    have hnone := List.any_eq_false.1 h c hc
    simpa using hnone
  have hfront : text.toList.dropWhile isSpace = text.toList := by
    cases htext : text.toList with
    | nil => rfl
    | cons c chars =>
        have hc := hchars c (by simp [htext])
        rw [List.dropWhile_cons_of_neg (by simp [hc])]
  have hback : text.toList.rdropWhile isSpace = text.toList := by
    rw [List.rdropWhile_eq_self_iff]
    intro hne
    have hlast := hchars _ (List.getLast_mem hne)
    simp [hlast]
  rw [strip, hfront, hback, String.ofList_toList]

/-- The words of a list of characters. -/
def wordsOf (chars : List Char) : List (List Char) :=
  (chars.splitOnP isSpace).filter fun word => !word.isEmpty

theorem wordsOf_cons_of_space {c : Char} (h : isSpace c = true) (chars : List Char) :
    wordsOf (c :: chars) = wordsOf chars := by
  unfold wordsOf
  rw [List.splitOnP_cons_eq_if_modifyHead, if_pos h]
  rfl

theorem wordsOf_dropWhile (chars : List Char) :
    wordsOf (chars.dropWhile isSpace) = wordsOf chars := by
  induction chars with
  | nil => rfl
  | cons c chars ih =>
      by_cases h : isSpace c = true
      · rw [List.dropWhile_cons_of_pos h, wordsOf_cons_of_space h, ih]
      · rw [List.dropWhile_cons_of_neg h]

theorem wordsOf_rdropWhile (chars : List Char) :
    wordsOf (chars.rdropWhile isSpace) = wordsOf chars := by
  induction chars using List.reverseRecOn with
  | nil => rfl
  | append_singleton chars c ih =>
      by_cases h : isSpace c = true
      · rw [List.rdropWhile_concat_pos _ _ _ h, ih]
        unfold wordsOf
        rw [List.splitOnP_append_cons _ _ h, List.filter_append]
        exact (List.append_nil _).symm
      · rw [List.rdropWhile_concat_neg _ _ _ h]

/-- The first word goes up to the first whitespace. -/
theorem wordsOf_cons {c : Char} (h : isSpace c = false) (chars : List Char) :
    wordsOf (c :: chars) = (c :: chars.takeWhile fun c => !isSpace c) ::
      wordsOf (chars.dropWhile fun c => !isSpace c) := by
  have hword : ∀ d ∈ c :: chars.takeWhile (fun c => !isSpace c), isSpace d = false := by
    intro d hd
    rcases List.mem_cons.1 hd with rfl | hd
    · exact h
    · simpa using List.mem_takeWhile_imp hd
  have hsplit : c :: chars = (c :: chars.takeWhile fun c => !isSpace c) ++
      chars.dropWhile fun c => !isSpace c := by
    rw [List.cons_append, List.takeWhile_append_dropWhile]
  cases hrest : chars.dropWhile fun c => !isSpace c with
  | nil =>
      rw [hrest, List.append_nil] at hsplit
      rw [hsplit]
      unfold wordsOf
      rw [List.splitOnP_eq_singleton hword]
      rfl
  | cons d rest =>
      have hspace : isSpace d = true := by
        have hhead := List.head_dropWhile_not (fun c => !isSpace c) (by rw [hrest]; simp)
        simpa [hrest] using hhead
      rw [hrest] at hsplit
      rw [hsplit, wordsOf_cons_of_space hspace]
      unfold wordsOf
      rw [List.splitOnP_append_cons_of_forall_mem hword _ hspace]
      rfl

theorem not_isSpace_of_dropWhile {chars rest : List Char} {c : Char}
    (h : chars.dropWhile isSpace = c :: rest) : isSpace c = false := by
  have hhead := List.head_dropWhile_not isSpace (by rw [h]; exact List.cons_ne_nil c rest)
  simpa [h] using hhead

/-- **Stripping keeps the words.** -/
theorem splitWords_strip (text : String) : splitWords (strip text) = splitWords text := by
  show wordsOf (strip text).toList = wordsOf text.toList
  unfold strip
  rw [String.toList_ofList, wordsOf_rdropWhile, wordsOf_dropWhile]

/-- **Splitting once finds the first word.** -/
theorem head?_splitOnce (text : String) : (splitOnce text).head? = (splitWords text).head? := by
  show _ = (wordsOf text.toList).head?
  rw [← wordsOf_dropWhile]
  unfold splitOnce
  cases h : text.toList.dropWhile isSpace with
  | nil => rfl
  | cons c chars =>
      have hc : isSpace c = false := not_isSpace_of_dropWhile h
      rw [wordsOf_cons hc, List.head?_cons]
      dsimp only
      rw [List.takeWhile_cons_of_pos (by simp [hc])]
      split
      · rfl
      · rfl

/-- A stripped text begins with its first word, and is empty where it has none. -/
theorem splitWords_of_strip (text : String) :
    ((strip text).toList = [] ∧ splitWords text = []) ∨
      ∃ c rest word words, (strip text).toList = c :: rest ∧
        splitWords text = (c :: word) :: words := by
  have hwords : wordsOf (strip text).toList = splitWords text := splitWords_strip text
  cases h : (strip text).toList with
  | nil =>
      rw [h] at hwords
      exact Or.inl ⟨rfl, hwords.symm⟩
  | cons c rest =>
      have hc : isSpace c = false := by
        have hprefix : c :: rest <+: text.toList.dropWhile isSpace := by
          rw [← h, strip, String.toList_ofList]
          exact List.rdropWhile_prefix _ _
        obtain ⟨more, hmore⟩ := hprefix
        exact not_isSpace_of_dropWhile hmore.symm
      rw [h, wordsOf_cons hc] at hwords
      exact Or.inr ⟨c, rest, _, _, rfl, hwords.symm⟩

/-- The characters of a split text, with one for each place where it was split. -/
theorem length_flatten_splitOnP (p : Char → Bool) (chars : List Char) :
    (chars.splitOnP p).flatten.length + (chars.splitOnP p).length = chars.length + 1 := by
  induction chars with
  | nil => simp [List.splitOnP_nil]
  | cons c chars ih =>
      by_cases hc : p c = true
      · simp only [List.splitOnP_cons_eq_if_modifyHead, hc, if_true, List.flatten_cons,
          List.nil_append, List.length_cons]
        omega
      · have hne := List.splitOnP_ne_nil p chars
        cases hsplit : chars.splitOnP p with
        | nil => exact absurd hsplit hne
        | cons word words =>
            rw [hsplit] at ih
            simp only [List.splitOnP_cons_eq_if_modifyHead, hc, hsplit, List.modifyHead_cons,
              List.flatten_cons, List.length_append, List.length_cons] at ih ⊢
            simp only [Bool.false_eq_true, if_false, List.flatten_cons, List.length_append,
              List.length_cons]
            omega

theorem length_intercalate_le (words : List (List Char)) :
    ([' '].intercalate words).length ≤ words.flatten.length + (words.length - 1) := by
  induction words with
  | nil => simp [List.intercalate]
  | cons word words ih =>
      cases words with
      | nil => simp [List.intercalate]
      | cons word' words =>
          simp only [List.intercalate, List.intersperse_cons_cons, List.flatten_cons,
            List.length_append, List.length_cons, List.length_nil] at ih ⊢
          omega

theorem length_flatten_filter_le (p : List Char → Bool) (words : List (List Char)) :
    (words.filter p).flatten.length ≤ words.flatten.length :=
  (List.Sublist.flatten List.filter_sublist).length_le

/-- Joining the words of a text does not make it longer. -/
theorem length_joinWords_le (text : String) : (joinWords text).length ≤ text.length := by
  have hsplit := length_flatten_splitOnP isSpace text.toList
  have hjoin := length_intercalate_le (splitWords text)
  have hflat := length_flatten_filter_le (fun word => !word.isEmpty)
    (text.toList.splitOnP isSpace)
  have hcount := List.length_filter_le (fun word => !word.isEmpty)
    (text.toList.splitOnP isSpace)
  have hlen : text.toList.length = text.length := String.length_toList
  have hjoined : (joinWords text).length = ([' '].intercalate (splitWords text)).length := by
    rw [joinWords, String.length_ofList]
  have hpos := List.length_pos_iff.2 (List.splitOnP_ne_nil isSpace text.toList)
  rw [hjoined]
  unfold splitWords at hjoin ⊢
  omega

/-! ### Substrings -/

/-- `needle in text`. -/
def containsText (needle text : String) : Bool := decide (needle.toList <:+: text.toList)

/-! ### Case -/

/-- Every character is ASCII. -/
def isAscii (text : String) : Bool := text.toList.all fun c => c.toNat < 128

/-- The ASCII letters of a text lowered. -/
def asciiLower (text : String) : String := String.ofList (text.toList.map Char.toLower)

/-- `str.lower`: it lowers ASCII texts letter by letter, and lowering a text again changes nothing,
keeps it from being empty, and brings in neither whitespace nor an `@`. -/
structure CaseMapping where
  lower : String → String
  ascii : ∀ text, isAscii text = true → lower text = asciiLower text
  idempotent : ∀ text, lower (lower text) = lower text
  nonempty : ∀ text, text ≠ "" → lower text ≠ ""
  noSpace : ∀ text, hasSpace text = false → hasSpace (lower text) = false
  noAt : ∀ text, '@' ∉ text.toList → '@' ∉ (lower text).toList

theorem toNat_toLower (c : Char) :
    c.toLower.toNat = if 65 ≤ c.toNat ∧ c.toNat ≤ 90 then c.toNat + 32 else c.toNat := by
  unfold Char.toLower
  have hval : c.toNat = c.val.toNat := rfl
  by_cases h : c.val ≥ 'A'.val ∧ c.val ≤ 'Z'.val
  · have hrange : 65 ≤ c.toNat ∧ c.toNat ≤ 90 :=
      ⟨UInt32.le_iff_toNat_le.1 h.1, UInt32.le_iff_toNat_le.1 h.2⟩
    rw [dif_pos h, if_pos hrange]
    show (c.val + ('a'.val - 'A'.val)).toNat = _
    rw [UInt32.toNat_add]
    have hdiff : ('a'.val - 'A'.val).toNat = 32 := by decide
    omega
  · have hrange : ¬ (65 ≤ c.toNat ∧ c.toNat ≤ 90) := by
      rintro ⟨hlow, hhigh⟩
      exact h ⟨UInt32.le_iff_toNat_le.2 hlow, UInt32.le_iff_toNat_le.2 hhigh⟩
    rw [dif_neg h, if_neg hrange]

theorem toLower_toLower (c : Char) : c.toLower.toLower = c.toLower := by
  apply Char.toNat_inj.1
  rw [toNat_toLower, toNat_toLower]
  by_cases h : 65 ≤ c.toNat ∧ c.toNat ≤ 90
  · rw [if_pos h, if_neg (by omega)]
  · rw [if_neg h, if_neg h]

/-- Lowering a character makes no whitespace. -/
theorem isSpace_toLower (c : Char) : isSpace c.toLower = isSpace c := by
  unfold isSpace
  rw [toNat_toLower]
  split
  · rename_i h
    rw [Bool.eq_iff_iff]
    simp only [Bool.or_eq_true, Bool.and_eq_true, decide_eq_true_eq]
    omega
  · rfl

theorem toLower_eq_at {c : Char} (h : c.toLower = '@') : c = '@' := by
  have hnat := congrArg Char.toNat h
  have hat : '@'.toNat = 64 := by decide
  rw [toNat_toLower, hat] at hnat
  apply Char.toNat_inj.1
  rw [hat]
  split at hnat <;> omega

/-- Lowering a text again changes nothing. -/
theorem asciiLower_asciiLower (text : String) : asciiLower (asciiLower text) = asciiLower text := by
  unfold asciiLower
  rw [String.toList_ofList, List.map_map]
  exact congrArg String.ofList (List.map_congr_left fun c _ => toLower_toLower c)

/-- The lowering that leaves every letter alone that is not ASCII. -/
def CaseMapping.asciiOnly : CaseMapping where
  lower := asciiLower
  ascii _ _ := rfl
  idempotent := asciiLower_asciiLower
  nonempty text h := by simpa [asciiLower] using h
  noSpace text h := by
    have hcomp : isSpace ∘ Char.toLower = isSpace := funext isSpace_toLower
    simpa [asciiLower, hasSpace, hcomp] using h
  noAt text h := by
    intro hmem
    simp only [asciiLower, String.toList_ofList, List.mem_map] at hmem
    obtain ⟨c, hc, hlower⟩ := hmem
    exact h (toLower_eq_at hlower ▸ hc)

end PlatformOps
