/-
**JSON values and their canonical text.**

A JSON value is what a request body, a resume payload or a tool call carries, and what a digest is
taken of.  This module writes a value the way `json.dumps(value, sort_keys=True,
separators=(",", ":"), ensure_ascii=True)` does and proves that nothing is lost: the text determines
the value up to the order of the keys of its objects.

The argument is that every part of the text is *self-delimiting*: an escaped character, a quoted
string and a closed list end where they end, whatever follows.  Numbers are the exception, they
need a character behind them that no number contains, and a comma or a closing bracket is one.

Main definitions:

* `Json`, `Json.truthy`, `Json.asObject` — values, their truth value, and the object reading of one;
* `Json.escapeChar`, `Json.quote`, `Json.dumps` — escaping, quoting and writing a value;
* `Json.sortKeys`, `Json.canonical` — sorting the keys of every object, and the canonical text;
* `RequestBody`, `BodyFault` — what is read of the body of a request, and why it is not read.

Main results:

* `Json.unescape_escapeChar` — an escaped character is read back, whatever follows it;
* `Json.quote_append_inj`, `Json.dumps_append_inj` — quoted strings and written values are
  self-delimiting;
* `Json.canonical_inj` — **the canonical text determines the value up to the order of keys**;
* `Json.sortKeys_ofStrings_iff` — a dictionary of strings is determined, as a map, by its object.
-/

import Mathlib.Data.List.Sort
import Mathlib.Data.String.Basic
import Mathlib.Tactic.IntervalCases
import PlatformOps.Dict

set_option relaxedAutoImplicit false
set_option autoImplicit false

namespace PlatformOps

/-- A character that can stand in the text of a number. -/
def isNumberChar (c : Char) : Bool :=
  c.isDigit || c = '-' || c = '+' || c = '.' || c = 'e' || c = 'E'

/-- The text of a number, as it is printed. -/
structure NumberText where
  /-- The printed number. -/
  text : String
  /-- It is not empty. -/
  nonempty : text.toList ≠ []
  /-- It has the characters of a number only. -/
  numeric : ∀ c ∈ text.toList, isNumberChar c = true

/-- The number of a natural number. -/
def NumberText.ofNat (n : ℕ) : NumberText where
  text := toString n
  nonempty := by simp [Nat.toDigits_ne_nil]
  numeric c hc := by
    have hd : c.isDigit = true :=
      Nat.isDigit_of_mem_toDigits (by omega) le_rfl (by simpa using hc)
    simp [isNumberChar, hd]

/-- The decimal text of a natural number tells it. -/
theorem toString_nat_inj {n m : ℕ} (h : toString n = toString m) : n = m := by
  have hdigits : Nat.toDigits 10 n = Nat.toDigits 10 m := by
    have hlist := congrArg String.toList h
    simpa using hlist
  rw [← Nat.ofDigitChars_ten_toDigits (n := n), hdigits, Nat.ofDigitChars_ten_toDigits]

theorem NumberText.ofNat_injective {n m : ℕ} (h : NumberText.ofNat n = NumberText.ofNat m) :
    n = m :=
  toString_nat_inj (congrArg NumberText.text h)

/-- A JSON value.  The fields of an object are in insertion order. -/
inductive Json
  | null
  | bool (b : Bool)
  | number (n : NumberText)
  | str (s : String)
  | arr (items : List Json)
  | obj (fields : List (String × Json))

namespace Json

/-- The value `value or default` tests for: `null`, `false`, zero and the empty string, list and
object are false, everything else is true.  A number is zero when it is printed as one. -/
def truthy : Json → Bool
  | .null => false
  | .bool b => b
  | .number n => n.text ≠ "0" && n.text ≠ "0.0" && n.text ≠ "-0.0"
  | .str s => s ≠ ""
  | .arr l => !l.isEmpty
  | .obj l => !l.isEmpty

/-- The dictionary an object is read as: of two fields with one key the later counts. -/
def asObject : Json → Option (Dict String Json)
  | .obj l => some (Dict.ofPairs l)
  | _ => none

/-- The value of a field of an object. -/
def field (v : Json) (key : String) : Option Json := v.asObject.bind fun d => d.get? key

/-- The string a value is, if it is one. -/
def asString : Json → Option String
  | .str s => some s
  | _ => none

@[simp] theorem asString_eq_some {v : Json} {s : String} : v.asString = some s ↔ v = .str s := by
  cases v <;> simp [asString]

/-! ### Escaping -/

/-- The four hexadecimal digits of a code unit. -/
def hex4 (n : ℕ) : List Char :=
  [Nat.digitChar (n / 4096 % 16), Nat.digitChar (n / 256 % 16), Nat.digitChar (n / 16 % 16),
    Nat.digitChar (n % 16)]

/-- A code unit as `\uXXXX`. -/
def escapeUnit (n : ℕ) : List Char := '\\' :: 'u' :: hex4 n

/-- How `ensure_ascii` writes one character: printable ASCII stands for itself except for the quote
and the backslash, the five control characters with a short form use it, and everything else is
written in code units, two of them above the basic plane. -/
def escapeChar (c : Char) : List Char :=
  if c = '"' then ['\\', '"']
  else if c = '\\' then ['\\', '\\']
  else if c = '\n' then ['\\', 'n']
  else if c = '\r' then ['\\', 'r']
  else if c = '\t' then ['\\', 't']
  else if c = '\x0c' then ['\\', 'f']
  else if c = '\x08' then ['\\', 'b']
  else if 32 ≤ c.toNat ∧ c.toNat ≤ 126 then [c]
  else if c.toNat < 65536 then escapeUnit c.toNat
  else
    escapeUnit (55296 + (c.toNat - 65536) / 1024) ++ escapeUnit (56320 + (c.toNat - 65536) % 1024)

/-- A string in quotes. -/
def quote (s : String) : List Char := '"' :: (s.toList.flatMap escapeChar ++ ['"'])

/-- The value of a hexadecimal digit. -/
def hexValue (c : Char) : ℕ := if c.isDigit then c.toNat - 48 else c.toNat - 87

/-- The code unit named by four hexadecimal digits. -/
def unitValue (a b c d : Char) : ℕ :=
  hexValue a * 4096 + hexValue b * 256 + hexValue c * 16 + hexValue d

/-- Reading one escaped character. -/
def unescape : List Char → Option (Char × List Char)
  | '\\' :: '"' :: r => some ('"', r)
  | '\\' :: '\\' :: r => some ('\\', r)
  | '\\' :: 'n' :: r => some ('\n', r)
  | '\\' :: 'r' :: r => some ('\r', r)
  | '\\' :: 't' :: r => some ('\t', r)
  | '\\' :: 'f' :: r => some ('\x0c', r)
  | '\\' :: 'b' :: r => some ('\x08', r)
  | '\\' :: 'u' :: a :: b :: c :: d :: r =>
      if unitValue a b c d < 55296 ∨ 56320 ≤ unitValue a b c d then
        some (Char.ofNat (unitValue a b c d), r)
      else
        -- the first half of a pair of surrogates is read together with the second
        match r with
        | '\\' :: 'u' :: e :: f :: g :: h :: r =>
            some (Char.ofNat (65536 + (unitValue a b c d - 55296) * 1024
              + (unitValue e f g h - 56320)), r)
        | _ => none
  | c :: r => some (c, r)
  | [] => none

theorem hexValue_digitChar {n : ℕ} (h : n < 16) : hexValue (Nat.digitChar n) = n := by
  interval_cases n <;> decide

theorem unitValue_hex4 {n : ℕ} (h : n < 65536) :
    unitValue (Nat.digitChar (n / 4096 % 16)) (Nat.digitChar (n / 256 % 16))
      (Nat.digitChar (n / 16 % 16)) (Nat.digitChar (n % 16)) = n := by
  simp only [unitValue]
  rw [hexValue_digitChar (by omega), hexValue_digitChar (by omega), hexValue_digitChar (by omega),
    hexValue_digitChar (by omega)]
  omega

/-- A code unit outside the surrogates is read back as its character. -/
theorem unescape_escapeUnit {n : ℕ} (h : n < 65536) (hs : n < 55296 ∨ 56320 ≤ n) (r : List Char) :
    unescape (escapeUnit n ++ r) = some (Char.ofNat n, r) := by
  simp only [escapeUnit, hex4, List.cons_append, List.nil_append, unescape, unitValue_hex4 h,
    if_pos hs]

/-- A pair of surrogates is read back as one character. -/
theorem unescape_escapeUnit_pair {n m : ℕ} (hn : 55296 ≤ n) (hn' : n < 56320) (hm : m < 65536)
    (r : List Char) : unescape (escapeUnit n ++ (escapeUnit m ++ r)) =
      some (Char.ofNat (65536 + (n - 55296) * 1024 + (m - 56320)), r) := by
  have hs : ¬(n < 55296 ∨ 56320 ≤ n) := by omega
  simp only [escapeUnit, hex4, List.cons_append, List.nil_append, unescape,
    unitValue_hex4 (show n < 65536 by omega), if_neg hs, unitValue_hex4 hm]

/-- A character that needs no escape is read back as itself. -/
theorem unescape_cons_of_ne {c : Char} (h : c ≠ '\\') (r : List Char) :
    unescape (c :: r) = some (c, r) := by
  unfold unescape
  split <;> simp_all

theorem toNat_lt (c : Char) : c.toNat < 1114112 := by
  have h := c.valid
  simp only [UInt32.isValidChar, Nat.isValidChar] at h
  have : c.toNat = c.val.toNat := rfl
  omega

theorem toNat_not_surrogate (c : Char) : c.toNat < 55296 ∨ 57343 < c.toNat := by
  have h := c.valid
  simp only [UInt32.isValidChar, Nat.isValidChar] at h
  have : c.toNat = c.val.toNat := rfl
  omega

/-- **An escaped character is read back, whatever follows it.** -/
theorem unescape_escapeChar (c : Char) (r : List Char) :
    unescape (escapeChar c ++ r) = some (c, r) := by
  unfold escapeChar
  split_ifs with h1 h2 h3 h4 h5 h6 h7 h8 h9
  · rw [h1]; rfl
  · rw [h2]; rfl
  · rw [h3]; rfl
  · rw [h4]; rfl
  · rw [h5]; rfl
  · rw [h6]; rfl
  · rw [h7]; rfl
  · exact unescape_cons_of_ne h2 r
  · -- one code unit
    have hs := toNat_not_surrogate c
    rw [unescape_escapeUnit h9 (by omega), Char.ofNat_toNat]
  · -- above the basic plane: a pair of surrogates
    have hlt := toNat_lt c
    rw [List.append_assoc, unescape_escapeUnit_pair (by omega) (by omega) (by omega)]
    have hsum : 65536 + (55296 + (c.toNat - 65536) / 1024 - 55296) * 1024
        + (56320 + (c.toNat - 65536) % 1024 - 56320) = c.toNat := by omega
    rw [hsum, Char.ofNat_toNat]

/-- Escaped characters are self-delimiting. -/
theorem escapeChar_append_inj {c d : Char} {r s : List Char}
    (h : escapeChar c ++ r = escapeChar d ++ s) : c = d ∧ r = s := by
  have hu := congrArg unescape h
  rw [unescape_escapeChar, unescape_escapeChar] at hu
  simpa using hu

/-- No escaped character begins with a quote, so the closing quote of a string is the first one. -/
theorem escapeChar_ne_quote (c : Char) (r s : List Char) : escapeChar c ++ r ≠ '"' :: s := by
  intro h
  have hu := congrArg unescape h
  rw [unescape_escapeChar, unescape_cons_of_ne (by decide)] at hu
  obtain ⟨rfl, -⟩ : c = '"' ∧ r = s := by simpa using hu
  simp [escapeChar] at h

theorem escapes_append_inj : ∀ {xs ys r s : List Char},
    xs.flatMap escapeChar ++ '"' :: r = ys.flatMap escapeChar ++ '"' :: s → xs = ys ∧ r = s := by
  intro xs
  induction xs with
  | nil =>
      intro ys r s h
      cases ys with
      | nil => exact ⟨rfl, by simpa using h⟩
      | cons y ys =>
          rw [List.flatMap_cons, List.append_assoc] at h
          exact absurd h.symm (escapeChar_ne_quote y _ _)
  | cons x xs ih =>
      intro ys r s h
      cases ys with
      | nil =>
          rw [List.flatMap_cons, List.append_assoc] at h
          exact absurd h (escapeChar_ne_quote x _ _)
      | cons y ys =>
          rw [List.flatMap_cons, List.flatMap_cons, List.append_assoc, List.append_assoc] at h
          obtain ⟨rfl, hrest⟩ := escapeChar_append_inj h
          obtain ⟨rfl, hrs⟩ := ih hrest
          exact ⟨rfl, hrs⟩

/-- Quoted strings are self-delimiting. -/
theorem quote_append_inj {s t : String} {r r' : List Char} (h : quote s ++ r = quote t ++ r') :
    s = t ∧ r = r' := by
  simp only [quote, List.cons_append, List.append_assoc, List.nil_append, List.cons.injEq,
    true_and] at h
  obtain ⟨hst, hr⟩ := escapes_append_inj h
  exact ⟨String.toList_inj.1 hst, hr⟩

/-! ### Writing a value -/

mutual

/-- The text of a value, without blanks and with the keys in insertion order. -/
def dumps : Json → List Char
  | .null => ['n', 'u', 'l', 'l']
  | .bool true => ['t', 'r', 'u', 'e']
  | .bool false => ['f', 'a', 'l', 's', 'e']
  | .number n => n.text.toList
  | .str s => quote s
  | .arr [] => ['[', ']']
  | .arr (v :: l) => '[' :: (dumps v ++ dumpsItems l)
  | .obj [] => ['\x7b', '\x7d']
  | .obj ((k, v) :: l) => '\x7b' :: (quote k ++ ':' :: (dumps v ++ dumpsFields l))

/-- The items of a list behind the first, and the closing bracket. -/
def dumpsItems : List Json → List Char
  | [] => [']']
  | v :: l => ',' :: (dumps v ++ dumpsItems l)

/-- The fields of an object behind the first, and the closing brace. -/
def dumpsFields : List (String × Json) → List Char
  | [] => ['\x7d']
  | (k, v) :: l => ',' :: (quote k ++ ':' :: (dumps v ++ dumpsFields l))

end

/-- The rest of the text does not continue a number. -/
def Stops (r : List Char) : Prop := ∀ c ∈ r.head?, isNumberChar c = false

theorem stops_nil : Stops [] := by simp [Stops]

theorem stops_dumpsItems (l : List Json) (r : List Char) : Stops (dumpsItems l ++ r) := by
  cases l <;> simp [Stops, dumpsItems] <;> decide

theorem stops_dumpsFields (l : List (String × Json)) (r : List Char) :
    Stops (dumpsFields l ++ r) := by
  cases l <;> simp [Stops, dumpsFields] <;> decide

theorem takeWhile_number (n : NumberText) {r : List Char} (hr : Stops r) :
    (n.text.toList ++ r).takeWhile isNumberChar = n.text.toList := by
  rw [List.takeWhile_append_of_pos n.numeric]
  cases r with
  | nil => simp
  | cons c r => simp [hr c (by simp)]

/-- Numbers are delimited by what cannot stand in one. -/
theorem number_append_inj {n m : NumberText} {r s : List Char} (hr : Stops r) (hs : Stops s)
    (h : n.text.toList ++ r = m.text.toList ++ s) : n = m ∧ r = s := by
  have htw := congrArg (List.takeWhile isNumberChar) h
  rw [takeWhile_number n hr, takeWhile_number m hs] at htw
  refine ⟨?_, ?_⟩
  · cases n
    cases m
    simpa using String.toList_inj.1 htw
  · rw [htw] at h
    exact List.append_cancel_left h

/-- The character a value begins with, except for a number. -/
def lead : Json → Option Char
  | .null => some 'n'
  | .bool true => some 't'
  | .bool false => some 'f'
  | .number _ => none
  | .str _ => some '"'
  | .arr _ => some '['
  | .obj _ => some '\x7b'

theorem head?_dumps_of_lead {v : Json} {c : Char} (h : lead v = some c) (r : List Char) :
    (dumps v ++ r).head? = some c ∧ isNumberChar c = false := by
  cases v with
  | number n => simp [lead] at h
  | bool b =>
      obtain rfl : c = if b then 't' else 'f' := by cases b <;> simpa [lead] using h.symm
      cases b <;> exact ⟨rfl, by decide⟩
  | arr l =>
      obtain rfl : c = '[' := by simpa [lead] using h.symm
      cases l <;> exact ⟨by simp [dumps], by decide⟩
  | obj l =>
      obtain rfl : c = '\x7b' := by simpa [lead] using h.symm
      cases l <;> exact ⟨by simp [dumps], by decide⟩
  | _ =>
      obtain rfl : _ = c := by simpa [lead] using h
      exact ⟨by simp [dumps, quote], by decide⟩

theorem head?_dumps_of_number (n : NumberText) (r : List Char) :
    ∃ c, (dumps (.number n) ++ r).head? = some c ∧ isNumberChar c = true := by
  obtain ⟨d, l, hl⟩ := List.exists_cons_of_ne_nil n.nonempty
  exact ⟨d, by simp [dumps, hl], n.numeric d (by simp [hl])⟩

theorem eq_number_of_lead {v : Json} (h : lead v = none) : ∃ n, v = .number n := by
  cases v with
  | number n => exact ⟨n, rfl⟩
  | bool b => cases b <;> simp [lead] at h
  | _ => simp [lead] at h

/-- The first character of a value tells which kind of value it is. -/
theorem lead_eq_of_dumps_append {v w : Json} {r s : List Char}
    (h : dumps v ++ r = dumps w ++ s) : lead v = lead w := by
  cases hv : lead v with
  | none =>
      obtain ⟨n, rfl⟩ := eq_number_of_lead hv
      obtain ⟨c, hc, hcn⟩ := head?_dumps_of_number n r
      cases hw : lead w with
      | none => rfl
      | some d =>
          obtain ⟨hd, hdn⟩ := head?_dumps_of_lead hw s
          rw [h, hd, Option.some.injEq] at hc
          rw [hc, hcn] at hdn
          exact absurd hdn (by decide)
  | some c =>
      obtain ⟨hc, hcn⟩ := head?_dumps_of_lead hv r
      cases hw : lead w with
      | none =>
          obtain ⟨n, rfl⟩ := eq_number_of_lead hw
          obtain ⟨d, hd, hdn⟩ := head?_dumps_of_number n s
          rw [← h, hc, Option.some.injEq] at hd
          rw [← hd, hcn] at hdn
          exact absurd hdn (by decide)
      | some d =>
          obtain ⟨hd, -⟩ := head?_dumps_of_lead hw s
          rw [h, hd, Option.some.injEq] at hc
          rw [hc]

/-- No value begins with a closing bracket. -/
theorem dumps_ne_cons_bracket (v : Json) (r s : List Char) : dumps v ++ r ≠ ']' :: s := by
  intro h
  cases hv : lead v with
  | none =>
      obtain ⟨n, rfl⟩ := eq_number_of_lead hv
      obtain ⟨c, hc, hcn⟩ := head?_dumps_of_number n r
      rw [h, List.head?_cons, Option.some.injEq] at hc
      rw [← hc] at hcn
      exact absurd hcn (by decide)
  | some c =>
      obtain ⟨hc, -⟩ := head?_dumps_of_lead hv r
      rw [h, List.head?_cons, Option.some.injEq] at hc
      subst hc
      cases v with
      | bool b => cases b <;> simp [lead] at hv
      | _ => simp [lead] at hv

mutual

/-- **Written values are self-delimiting.** -/
theorem dumps_append_inj : ∀ (v w : Json) {r s : List Char}, Stops r → Stops s →
    dumps v ++ r = dumps w ++ s → v = w ∧ r = s
  | .null, w, r, s, _, _, h => by
      have hl := lead_eq_of_dumps_append h
      cases w with
      | null => exact ⟨rfl, by simpa [dumps] using h⟩
      | bool b => cases b <;> simp [lead] at hl
      | _ => simp [lead] at hl
  | .bool b, w, r, s, _, _, h => by
      have hl := lead_eq_of_dumps_append h
      cases w with
      | bool b' => cases b <;> cases b' <;> simp_all [dumps, lead]
      | _ => cases b <;> simp [lead] at hl
  | .number n, w, r, s, hr, hs, h => by
      have hl := lead_eq_of_dumps_append h
      cases w with
      | number m =>
          simp only [dumps] at h
          obtain ⟨rfl, hrs⟩ := number_append_inj hr hs h
          exact ⟨rfl, hrs⟩
      | bool b => cases b <;> simp [lead] at hl
      | _ => simp [lead] at hl
  | .str t, w, r, s, _, _, h => by
      have hl := lead_eq_of_dumps_append h
      cases w with
      | str t' =>
          simp only [dumps] at h
          obtain ⟨rfl, hrs⟩ := quote_append_inj h
          exact ⟨rfl, hrs⟩
      | bool b => cases b <;> simp [lead] at hl
      | _ => simp [lead] at hl
  | .arr l, w, r, s, _, _, h => by
      have hl := lead_eq_of_dumps_append h
      cases w with
      | arr m => exact arr_append_inj l m h
      | bool b => cases b <;> simp [lead] at hl
      | _ => simp [lead] at hl
  | .obj l, w, r, s, _, _, h => by
      have hl := lead_eq_of_dumps_append h
      cases w with
      | obj m => exact obj_append_inj l m h
      | bool b => cases b <;> simp [lead] at hl
      | _ => simp [lead] at hl

theorem arr_append_inj : ∀ (l m : List Json) {r s : List Char},
    dumps (.arr l) ++ r = dumps (.arr m) ++ s → Json.arr l = .arr m ∧ r = s
  | [], [], r, s, h => ⟨rfl, by simpa [dumps] using h⟩
  | [], w :: m, r, s, h => by
      simp only [dumps, List.cons_append, List.append_assoc, List.cons.injEq, true_and] at h
      exact absurd h.symm (dumps_ne_cons_bracket w _ _)
  | v :: l, [], r, s, h => by
      simp only [dumps, List.cons_append, List.append_assoc, List.cons.injEq, true_and] at h
      exact absurd h (dumps_ne_cons_bracket v _ _)
  | v :: l, w :: m, r, s, h => by
      simp only [dumps, List.cons_append, List.append_assoc, List.cons.injEq, true_and] at h
      obtain ⟨rfl, hrest⟩ :=
        dumps_append_inj v w (stops_dumpsItems l r) (stops_dumpsItems m s) h
      obtain ⟨rfl, hrs⟩ := dumpsItems_append_inj l m hrest
      exact ⟨rfl, hrs⟩

theorem obj_append_inj : ∀ (l m : List (String × Json)) {r s : List Char},
    dumps (.obj l) ++ r = dumps (.obj m) ++ s → Json.obj l = .obj m ∧ r = s
  | [], [], r, s, h => ⟨rfl, by simpa [dumps] using h⟩
  | [], p :: m, r, s, h => by simp [dumps, quote] at h
  | p :: l, [], r, s, h => by simp [dumps, quote] at h
  | (k, v) :: l, (k', w) :: m, r, s, h => by
      simp only [dumps, List.cons_append, List.append_assoc, List.cons.injEq, true_and] at h
      obtain ⟨rfl, hcolon⟩ := quote_append_inj h
      obtain ⟨rfl, hrest⟩ := dumps_append_inj v w (stops_dumpsFields l r) (stops_dumpsFields m s)
        (List.cons.inj hcolon).2
      obtain ⟨rfl, hrs⟩ := dumpsFields_append_inj l m hrest
      exact ⟨rfl, hrs⟩

theorem dumpsItems_append_inj : ∀ (l m : List Json) {r s : List Char},
    dumpsItems l ++ r = dumpsItems m ++ s → l = m ∧ r = s
  | [], [], r, s, h => ⟨rfl, by simpa [dumpsItems] using h⟩
  | [], w :: m, r, s, h => by simp [dumpsItems] at h
  | v :: l, [], r, s, h => by simp [dumpsItems] at h
  | v :: l, w :: m, r, s, h => by
      simp only [dumpsItems, List.cons_append, List.append_assoc, List.cons.injEq, true_and] at h
      obtain ⟨rfl, hrest⟩ :=
        dumps_append_inj v w (stops_dumpsItems l r) (stops_dumpsItems m s) h
      obtain ⟨rfl, hrs⟩ := dumpsItems_append_inj l m hrest
      exact ⟨rfl, hrs⟩

theorem dumpsFields_append_inj : ∀ (l m : List (String × Json)) {r s : List Char},
    dumpsFields l ++ r = dumpsFields m ++ s → l = m ∧ r = s
  | [], [], r, s, h => ⟨rfl, by simpa [dumpsFields] using h⟩
  | [], p :: m, r, s, h => by simp [dumpsFields] at h
  | p :: l, [], r, s, h => by simp [dumpsFields] at h
  | (k, v) :: l, (k', w) :: m, r, s, h => by
      simp only [dumpsFields, List.cons_append, List.append_assoc, List.cons.injEq,
        true_and] at h
      obtain ⟨rfl, hcolon⟩ := quote_append_inj h
      obtain ⟨rfl, hrest⟩ := dumps_append_inj v w (stops_dumpsFields l r) (stops_dumpsFields m s)
        (List.cons.inj hcolon).2
      obtain ⟨rfl, hrs⟩ := dumpsFields_append_inj l m hrest
      exact ⟨rfl, hrs⟩

end

/-! ### The canonical text -/

/-- The order of fields by key. -/
def keyLe (p q : String × Json) : Prop := p.1 ≤ q.1

instance : DecidableRel keyLe := fun p q => inferInstanceAs (Decidable (p.1 ≤ q.1))

instance : Std.Total keyLe := ⟨fun p q => le_total p.1 q.1⟩

instance : IsTrans (String × Json) keyLe := ⟨fun _ _ _ h h' => le_trans (α := String) h h'⟩

mutual

/-- The value with the keys of every object in order. -/
def sortKeys : Json → Json
  | .arr l => .arr (sortItems l)
  | .obj l => .obj ((sortFields l).insertionSort keyLe)
  | .null => .null
  | .bool b => .bool b
  | .number n => .number n
  | .str s => .str s

/-- The items of a list, with their keys in order. -/
def sortItems : List Json → List Json
  | [] => []
  | v :: l => sortKeys v :: sortItems l

/-- The fields of an object, with the keys inside their values in order. -/
def sortFields : List (String × Json) → List (String × Json)
  | [] => []
  | (k, v) :: l => (k, sortKeys v) :: sortFields l

end

/-- **The canonical text of a value**: keys sorted, no blanks, ASCII only. -/
def canonical (v : Json) : String := String.ofList (dumps (sortKeys v))

/-- **The canonical text determines the value up to the order of keys.** -/
theorem canonical_inj {v w : Json} (h : canonical v = canonical w) : sortKeys v = sortKeys w := by
  have hd : dumps (sortKeys v) ++ [] = dumps (sortKeys w) ++ [] := by
    simpa [canonical] using congrArg String.toList h
  exact (dumps_append_inj _ _ stops_nil stops_nil hd).1

/-- The text of an object starts with its brace. -/
theorem head?_canonical_obj (l : List (String × Json)) :
    (canonical (.obj l)).toList.head? = some '\x7b' := by
  have hdumps : ∀ m, (dumps (.obj m)).head? = some '\x7b' := by
    intro m
    cases m with
    | nil => rfl
    | cons p m => rfl
  simpa [canonical, sortKeys] using hdumps _

theorem canonical_eq_iff {v w : Json} : canonical v = canonical w ↔ sortKeys v = sortKeys w :=
  ⟨canonical_inj, fun h => by rw [canonical, canonical, h]⟩

/-- A dictionary of strings as a JSON object. -/
def ofStrings (d : Dict String String) : Json := .obj (d.entries.map fun p => (p.1, .str p.2))

theorem sortFields_map_str (l : List (String × String)) :
    sortFields (l.map fun p => (p.1, .str p.2)) = l.map fun p => (p.1, Json.str p.2) := by
  induction l with
  | nil => simp [sortFields]
  | cons p l ih => simp [sortFields, sortKeys, ih]

theorem strField_injective :
    Function.Injective fun p : String × String => (p.1, Json.str p.2) := by
  rintro ⟨k, v⟩ ⟨k', v'⟩ h
  simpa using h

/-- Fields with distinct keys are sorted in only one way. -/
theorem insertionSort_eq_of_perm {l m : List (String × Json)} (hl : (l.map Prod.fst).Nodup)
    (h : l.Perm m) : l.insertionSort keyLe = m.insertionSort keyLe := by
  have hp : (l.insertionSort keyLe).Perm (m.insertionSort keyLe) :=
    (List.perm_insertionSort _ l).trans (h.trans (List.perm_insertionSort _ m).symm)
  have hanti : ∀ p q, p ∈ l.insertionSort keyLe → q ∈ m.insertionSort keyLe → keyLe p q →
      keyLe q p → p = q := by
    intro p q hpl hqm hpq hqp
    have hpl' : p ∈ l := (List.perm_insertionSort _ l).mem_iff.1 hpl
    have hql' : q ∈ l := h.mem_iff.2 ((List.perm_insertionSort _ m).mem_iff.1 hqm)
    -- fields with one key are one field
    exact List.inj_on_of_nodup_map hl hpl' hql' (le_antisymm (α := String) hpq hqp)
  exact List.Perm.eq_of_pairwise hanti (List.pairwise_insertionSort _ l)
    (List.pairwise_insertionSort _ m) hp

/-- **A dictionary of strings is determined, as a map, by its sorted object.** -/
theorem sortKeys_ofStrings_iff {d e : Dict String String} :
    sortKeys (ofStrings d) = sortKeys (ofStrings e) ↔ d.SameMap e := by
  simp only [ofStrings, sortKeys, sortFields_map_str, Json.obj.injEq]
  constructor
  · intro h
    have hp : (d.entries.map fun p => (p.1, Json.str p.2)).Perm
        (e.entries.map fun p => (p.1, Json.str p.2)) := by
      refine (List.perm_insertionSort keyLe _).symm.trans ?_
      rw [h]
      exact List.perm_insertionSort keyLe _
    exact Dict.sameMap_of_perm ((List.map_perm_map_iff strField_injective).1 hp)
  · intro h
    refine insertionSort_eq_of_perm ?_ (h.perm.map _)
    simpa [Function.comp_def] using d.nodup

end Json

/-! ### Bodies of requests -/

/-- Why the body of a request is not read: it is no JSON, or the reader raises something else.  The
bytes may be no text, an integer may have more digits than are converted, and the nesting may be
too deep. -/
inductive BodyFault
  | jsonDecodeError
  | raised (error : String)

/-- What `request.json()` makes of the body of a request. -/
abbrev RequestBody := Except BodyFault Json

/-- The body is read, or it is refused as no JSON. -/
def RequestBody.Decodes (body : RequestBody) : Prop := ∀ error, body ≠ .error (.raised error)

theorem RequestBody.Decodes.ok (value : Json) : RequestBody.Decodes (.ok value) :=
  fun _ h => nomatch h

end PlatformOps
