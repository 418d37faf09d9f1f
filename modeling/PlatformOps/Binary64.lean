/-
**Binary floating point numbers.**

A binary format has the integers of a number of binary digits, at every scale from a smallest one
on.  A rational number is rounded to the nearest number of the format, and to the one with the even
integer if two are equally near.  There is no largest number here: where a format has one, what lies
beyond it is the business of whoever rounds.

Rounding leaves the numbers of the format as they are and keeps the order, so that a number of the
format is below a rounded one exactly if it is below what was rounded.

Main definitions:

* `roundHalfEven` — the nearest integer, and the even one of two;
* `BinaryFormat`, `BinaryFormat.Representable` — formats, and the numbers of one;
* `BinaryFormat.exponent`, `BinaryFormat.round` — the scale at which a number is rounded, and
  rounding;
* `binary64` — the format with 53 digits;
* `truncate` — a number without what is after its point.

Main results:

* `roundHalfEven_eq_iff` — what is rounded to an integer;
* `BinaryFormat.representable_round`, `BinaryFormat.round_eq_self_iff` — the numbers of a format are
  what is rounded, and what rounding leaves as it is;
* `BinaryFormat.round_mono` — **rounding keeps the order**;
* `BinaryFormat.round_near` — rounding moves a number by half a unit of its scale at most;
* `BinaryFormat.Representable.lt_of_lt_round` — a number of the format below a rounded one is below
  what was rounded.
-/

import Mathlib.Algebra.Order.Archimedean.Basic
import Mathlib.Algebra.Order.Field.Power
import Mathlib.Data.Int.Log
import Mathlib.Data.Rat.Floor
import Mathlib.Tactic.FieldSimp
import Mathlib.Tactic.GCongr
import Mathlib.Tactic.Linarith
import Mathlib.Tactic.Positivity
import Mathlib.Tactic.Ring

set_option relaxedAutoImplicit false
set_option autoImplicit false

namespace PlatformOps

/-! ### Nearest integers -/

/-- The nearest integer, and the even one of two that are equally near. -/
def roundHalfEven (q : ℚ) : ℤ :=
  if q - ⌊q⌋ < 1 / 2 ∨ q - ⌊q⌋ = 1 / 2 ∧ Even ⌊q⌋ then ⌊q⌋ else ⌊q⌋ + 1

/-- The nearest integer is half a unit away at most, and even where it is half a unit away. -/
theorem roundHalfEven_spec (q : ℚ) :
    |(roundHalfEven q : ℚ) - q| ≤ 1 / 2 ∧
      (|(roundHalfEven q : ℚ) - q| = 1 / 2 → Even (roundHalfEven q)) := by
  have hfloor := Int.floor_le q
  have hceil := Int.lt_floor_add_one q
  unfold roundHalfEven
  split
  · rename_i h
    rw [abs_sub_comm, abs_of_nonneg (sub_nonneg.2 hfloor)]
    rcases h with hlt | ⟨heq, heven⟩
    · exact ⟨hlt.le, fun h => absurd h hlt.ne⟩
    · exact ⟨heq.le, fun _ => heven⟩
  · rename_i h
    obtain ⟨hge, hodd⟩ := not_or.1 h
    push_cast
    rw [abs_of_nonneg (by linarith)]
    refine ⟨by linarith [not_lt.1 hge], fun htie => ?_⟩
    have hhalf : q - ⌊q⌋ = 1 / 2 := by linarith
    exact (Int.not_even_iff_odd.1 fun heven => hodd ⟨hhalf, heven⟩).add_one

/-- **What is rounded to an integer**: all that is less than half a unit away, and what is half a
unit away if the integer is even. -/
theorem roundHalfEven_eq_iff {q : ℚ} {n : ℤ} :
    roundHalfEven q = n ↔ |(n : ℚ) - q| ≤ 1 / 2 ∧ (|(n : ℚ) - q| = 1 / 2 → Even n) := by
  constructor
  · rintro rfl
    exact roundHalfEven_spec q
  · rintro ⟨hnear, htie⟩
    obtain ⟨hnear', htie'⟩ := roundHalfEven_spec q
    by_contra hne
    have hapart : (1 : ℚ) ≤ |(roundHalfEven q : ℚ) - n| := by
      have hpos := Int.one_le_abs (sub_ne_zero.2 hne)
      exact_mod_cast hpos
    have htriangle : |(roundHalfEven q : ℚ) - n| ≤ |(roundHalfEven q : ℚ) - q| + |(n : ℚ) - q| := by
      rw [abs_sub_comm (n : ℚ) q]
      exact abs_sub_le _ _ _
    -- both are half a unit away and even, but next to each other
    have hhalf : |(n : ℚ) - q| = 1 / 2 := by linarith
    have hhalf' : |(roundHalfEven q : ℚ) - q| = 1 / 2 := by linarith
    have hone : |(roundHalfEven q : ℚ) - n| = 1 := by linarith
    have hone' : |roundHalfEven q - n| = 1 := by exact_mod_cast hone
    have heven := (htie' hhalf').sub (htie hhalf)
    rcases abs_eq (zero_le_one' ℤ) |>.1 hone' with h | h
    · rw [h] at heven
      exact absurd heven (by decide)
    · rw [h] at heven
      exact absurd heven (by decide)

@[simp] theorem roundHalfEven_intCast (n : ℤ) : roundHalfEven n = n :=
  roundHalfEven_eq_iff.2 (by simp)

@[simp] theorem roundHalfEven_neg (q : ℚ) : roundHalfEven (-q) = -roundHalfEven q := by
  have habs : |((-roundHalfEven q : ℤ) : ℚ) - -q| = |(roundHalfEven q : ℚ) - q| := by
    push_cast
    rw [sub_neg_eq_add, neg_add_eq_sub, abs_sub_comm]
  obtain ⟨hnear, htie⟩ := roundHalfEven_spec q
  rw [roundHalfEven_eq_iff, habs]
  exact ⟨hnear, fun h => (htie h).neg⟩

theorem roundHalfEven_mono {q r : ℚ} (h : q ≤ r) : roundHalfEven q ≤ roundHalfEven r := by
  rcases h.eq_or_lt with rfl | hlt
  · exact le_rfl
  by_contra hgt
  have hnext : ((roundHalfEven r + 1 : ℤ) : ℚ) ≤ roundHalfEven q := by
    exact_mod_cast Int.add_one_le_iff.2 (not_le.1 hgt)
  push_cast at hnext
  have hleft := (abs_le.1 (roundHalfEven_spec q).1).2
  have hright := (abs_le.1 (roundHalfEven_spec r).1).1
  linarith

/-! ### Formats -/

/-- A binary format: how many digits its integers have, and its smallest scale. -/
structure BinaryFormat where
  precision : ℕ
  minExponent : ℤ
  precision_pos : 0 < precision

namespace BinaryFormat

variable (f : BinaryFormat) {q r : ℚ}

/-- The numbers of a format. -/
def Representable (q : ℚ) : Prop :=
  ∃ n e : ℤ, |n| < 2 ^ f.precision ∧ f.minExponent ≤ e ∧ q = n * 2 ^ e

/-- The scale at which a number is rounded: it has as many digits as the format, unless the scale is
the smallest. -/
def exponent (q : ℚ) : ℤ :=
  if q = 0 then f.minExponent else max (Int.log 2 |q| + 1 - f.precision) f.minExponent

/-- The nearest number of the format, and the one with the even integer of two. -/
def round (q : ℚ) : ℚ := roundHalfEven (q / 2 ^ f.exponent q) * 2 ^ f.exponent q

variable {f}

/-! ### Scales -/

theorem two_zpow_pos (e : ℤ) : (0 : ℚ) < 2 ^ e := zpow_pos two_pos e

theorem minExponent_le_exponent (q : ℚ) : f.minExponent ≤ f.exponent q := by
  unfold exponent
  split
  · exact le_rfl
  · exact le_max_right _ _

@[simp] theorem exponent_neg (q : ℚ) : f.exponent (-q) = f.exponent q := by
  simp [exponent]

/-- At its scale a number has no more digits than the format. -/
theorem abs_lt_exponent (q : ℚ) : |q| < 2 ^ (f.exponent q + f.precision) := by
  by_cases hq : q = 0
  · rw [hq, abs_zero]
    exact two_zpow_pos _
  · have hlog := Int.lt_zpow_succ_log_self one_lt_two |q|
    refine hlog.trans_le (zpow_le_zpow_right₀ one_le_two ?_)
    have hle : Int.log 2 |q| + 1 - f.precision ≤ f.exponent q := by
      unfold exponent
      rw [if_neg hq]
      exact le_max_left _ _
    omega

/-- Above the smallest scale a number has as many digits as the format. -/
theorem le_abs_exponent (h : f.minExponent < f.exponent q) :
    2 ^ (f.exponent q + f.precision - 1) ≤ |q| := by
  unfold exponent at h ⊢
  split at h
  · exact absurd h (lt_irrefl _)
  · rename_i hq
    rw [if_neg hq]
    have hmax : max (Int.log 2 |q| + 1 - f.precision) f.minExponent =
        Int.log 2 |q| + 1 - f.precision := by
      rcases max_choice (Int.log 2 |q| + 1 - (f.precision : ℤ)) f.minExponent with hleft | hright
      · exact hleft
      · rw [hright] at h
        exact absurd h (lt_irrefl _)
    rw [hmax, show Int.log 2 |q| + 1 - (f.precision : ℤ) + f.precision - 1 = Int.log 2 |q| by ring]
    exact Int.zpow_log_le_self one_lt_two (abs_pos.2 hq)

theorem exponent_mono (h : |q| ≤ |r|) : f.exponent q ≤ f.exponent r := by
  by_cases hq : q = 0
  · rw [show f.exponent q = f.minExponent from if_pos hq]
    exact minExponent_le_exponent r
  · have hr : r ≠ 0 := abs_pos.1 ((abs_pos.2 hq).trans_le h)
    unfold exponent
    rw [if_neg hq, if_neg hr]
    have hlog := Int.log_mono_right (b := 2) (abs_pos.2 hq) h
    exact max_le_max_right _ (by omega)

/-- The scale of a number below a power of two. -/
theorem exponent_le {k : ℤ} (h : |q| < 2 ^ k) :
    f.exponent q ≤ max (k - f.precision) f.minExponent := by
  unfold exponent
  split
  · exact le_max_right _ _
  · rename_i hq
    have hlog := (Int.lt_zpow_iff_log_lt one_lt_two (abs_pos.2 hq)).1 h
    exact max_le_max_right _ (by omega)

/-- A power of two at a scale is an integer. -/
theorem exists_intCast_mul {d e : ℤ} (h : d ≤ e) : ∃ k : ℤ, (2 : ℚ) ^ e = k * 2 ^ d := by
  refine ⟨2 ^ (e - d).toNat, ?_⟩
  push_cast
  rw [← zpow_natCast, Int.toNat_of_nonneg (sub_nonneg.2 h), ← zpow_add₀ two_ne_zero]
  ring_nf

theorem representable_intCast {n : ℤ} (hmin : f.minExponent ≤ 0) (h : |n| < 2 ^ f.precision) :
    f.Representable n :=
  ⟨n, 0, h, hmin, by simp⟩

theorem representable_zpow {e : ℤ} (h : f.minExponent + f.precision - 1 ≤ e) :
    f.Representable (2 ^ e) := by
  refine ⟨2 ^ (f.precision - 1), e - (f.precision - 1 : ℕ), ?_, ?_, ?_⟩
  · rw [abs_of_pos (by positivity)]
    exact pow_lt_pow_right₀ one_lt_two (Nat.sub_lt f.precision_pos one_pos)
  · have hpos := f.precision_pos
    omega
  · push_cast
    rw [← zpow_natCast, ← zpow_add₀ two_ne_zero]
    ring_nf

theorem Representable.neg (h : f.Representable q) : f.Representable (-q) := by
  obtain ⟨n, e, hn, he, rfl⟩ := h
  exact ⟨-n, e, by rwa [abs_neg], he, by push_cast; ring⟩

/-- A number of the format is an integer at its scale. -/
theorem Representable.exists_intCast (h : f.Representable q) :
    ∃ n : ℤ, q = n * 2 ^ f.exponent q := by
  obtain ⟨n, e, hn, he, hq⟩ := h
  by_cases hzero : q = 0
  · exact ⟨0, by simp [hzero]⟩
  have hlt : |q| < 2 ^ (f.precision + e) := by
    rw [hq, abs_mul, abs_of_pos (two_zpow_pos e), zpow_add₀ two_ne_zero, zpow_natCast]
    have hn' : |(n : ℚ)| < 2 ^ f.precision := by exact_mod_cast hn
    gcongr
  have hlog := (Int.lt_zpow_iff_log_lt one_lt_two (abs_pos.2 hzero)).1 hlt
  have hscale : f.exponent q ≤ e := by
    unfold exponent
    rw [if_neg hzero]
    exact max_le (by omega) he
  obtain ⟨k, hk⟩ := exists_intCast_mul hscale
  refine ⟨n * k, hq.trans ?_⟩
  push_cast
  rw [hk, mul_assoc]

/-! ### Rounding -/

/-- What is an integer at the scale of a number is left as it is. -/
theorem round_of_intCast {n : ℤ} (h : q = n * 2 ^ f.exponent q) : f.round q = q := by
  unfold round
  conv_rhs => rw [h]
  rw [show q / 2 ^ f.exponent q = n by
    rw [div_eq_iff (two_zpow_pos _).ne']
    exact h, roundHalfEven_intCast]

/-- **What is rounded is a number of the format.** -/
theorem representable_round (q : ℚ) : f.Representable (f.round q) := by
  have hscaled : |q / 2 ^ f.exponent q| < 2 ^ f.precision := by
    rw [abs_div, abs_of_pos (two_zpow_pos _), div_lt_iff₀ (two_zpow_pos _), ← zpow_natCast,
      ← zpow_add₀ two_ne_zero, add_comm]
    exact abs_lt_exponent q
  have hle : |roundHalfEven (q / 2 ^ f.exponent q)| ≤ 2 ^ f.precision := by
    obtain ⟨hlower, hupper⟩ := abs_le.1 hscaled.le
    have hlower' := roundHalfEven_mono hlower
    have hupper' := roundHalfEven_mono hupper
    have hpow : roundHalfEven ((2 : ℚ) ^ f.precision) = 2 ^ f.precision := by
      exact_mod_cast roundHalfEven_intCast (2 ^ f.precision)
    rw [roundHalfEven_neg, hpow] at hlower'
    rw [hpow] at hupper'
    exact abs_le.2 ⟨hlower', hupper'⟩
  have hmin := minExponent_le_exponent (f := f) q
  rcases hle.lt_or_eq with hlt | heq
  · exact ⟨_, _, hlt, hmin, rfl⟩
  · -- a carry makes the next power of two
    have hpower : f.Representable (2 ^ (f.exponent q + f.precision)) :=
      representable_zpow (by omega)
    have hsplit : (2 : ℚ) ^ (f.exponent q + f.precision) =
        ((2 ^ f.precision : ℤ) : ℚ) * 2 ^ f.exponent q := by
      rw [zpow_add₀ two_ne_zero, zpow_natCast]
      push_cast
      ring
    unfold round
    rcases abs_eq (by positivity) |>.1 heq with h | h
    · rw [h, ← hsplit]
      exact hpower
    · rw [h, Int.cast_neg, neg_mul, ← hsplit]
      exact hpower.neg

/-- **Rounding leaves exactly the numbers of the format as they are.** -/
theorem round_eq_self_iff : f.round q = q ↔ f.Representable q := by
  constructor
  · intro h
    rw [← h]
    exact representable_round q
  · intro h
    obtain ⟨n, hn⟩ := h.exists_intCast
    exact round_of_intCast hn

@[simp] theorem round_neg (q : ℚ) : f.round (-q) = -f.round q := by
  unfold round
  rw [exponent_neg, neg_div, roundHalfEven_neg]
  push_cast
  ring

/-- Rounding moves a number by half a unit of its scale at most. -/
theorem round_near (q : ℚ) : |f.round q - q| ≤ 2 ^ f.exponent q / 2 := by
  have hpos := two_zpow_pos (f.exponent q)
  have hscaled := (roundHalfEven_spec (q / 2 ^ f.exponent q)).1
  have hsplit : f.round q - q =
      (roundHalfEven (q / 2 ^ f.exponent q) - q / 2 ^ f.exponent q) * 2 ^ f.exponent q := by
    rw [sub_mul, div_mul_cancel₀ q hpos.ne']
    rfl
  rw [hsplit, abs_mul, abs_of_pos hpos]
  linarith [mul_le_mul_of_nonneg_right hscaled hpos.le]

theorem round_le_of_intCast {n : ℤ} (h : q ≤ n * 2 ^ f.exponent q) :
    f.round q ≤ n * 2 ^ f.exponent q := by
  have hscaled := roundHalfEven_mono ((div_le_iff₀ (two_zpow_pos _)).2 h)
  rw [roundHalfEven_intCast] at hscaled
  exact mul_le_mul_of_nonneg_right (by exact_mod_cast hscaled) (two_zpow_pos _).le

theorem le_round_of_intCast {n : ℤ} (h : n * 2 ^ f.exponent q ≤ q) :
    n * 2 ^ f.exponent q ≤ f.round q := by
  have hscaled := roundHalfEven_mono ((le_div_iff₀ (two_zpow_pos _)).2 h)
  rw [roundHalfEven_intCast] at hscaled
  exact mul_le_mul_of_nonneg_right (by exact_mod_cast hscaled) (two_zpow_pos _).le

theorem round_nonneg (h : 0 ≤ q) : 0 ≤ f.round q := by
  simpa using le_round_of_intCast (f := f) (q := q) (n := 0) (by simpa using h)

/-- Rounding keeps the order of the numbers from zero on. -/
theorem round_mono_of_nonneg (hq : 0 ≤ q) (h : q ≤ r) : f.round q ≤ f.round r := by
  have hr := hq.trans h
  have habs : |q| ≤ |r| := by rwa [abs_of_nonneg hq, abs_of_nonneg hr]
  rcases (exponent_mono (f := f) habs).lt_or_eq with hlt | heq
  · -- a power of two is between the two, at either scale
    have hbelow : f.round q ≤ ((2 ^ f.precision : ℤ) : ℚ) * 2 ^ f.exponent q := by
      refine round_le_of_intCast ?_
      have hq' := (le_abs_self q).trans (abs_lt_exponent (f := f) q).le
      rw [zpow_add₀ two_ne_zero, zpow_natCast] at hq'
      push_cast
      linarith
    have habove : ((2 ^ (f.precision - 1) : ℤ) : ℚ) * 2 ^ f.exponent r ≤ f.round r := by
      refine le_round_of_intCast ?_
      have hr' := le_abs_exponent ((minExponent_le_exponent q).trans_lt hlt)
      rw [abs_of_nonneg hr] at hr'
      refine le_trans (le_of_eq ?_) hr'
      push_cast
      rw [← zpow_natCast, ← zpow_add₀ two_ne_zero, Nat.cast_pred f.precision_pos]
      ring_nf
    refine hbelow.trans (le_trans ?_ habove)
    push_cast
    rw [← zpow_natCast, ← zpow_natCast, ← zpow_add₀ two_ne_zero, ← zpow_add₀ two_ne_zero,
      Nat.cast_pred f.precision_pos]
    exact zpow_le_zpow_right₀ one_le_two (by omega)
  · unfold round
    rw [heq]
    have hscaled := roundHalfEven_mono
      (div_le_div_of_nonneg_right h (two_zpow_pos (f.exponent r)).le)
    exact mul_le_mul_of_nonneg_right (by exact_mod_cast hscaled) (two_zpow_pos _).le

/-- **Rounding keeps the order.** -/
theorem round_mono (h : q ≤ r) : f.round q ≤ f.round r := by
  rcases le_total 0 q with hq | hq
  · exact round_mono_of_nonneg hq h
  · rcases le_total 0 r with hr | hr
    · have hneg := round_nonneg (f := f) (neg_nonneg.2 hq)
      rw [round_neg] at hneg
      exact (neg_nonneg.1 hneg).trans (round_nonneg hr)
    · have hneg := round_mono_of_nonneg (f := f) (neg_nonneg.2 hr) (neg_le_neg h)
      rw [round_neg, round_neg] at hneg
      exact neg_le_neg_iff.1 hneg

/-- A number of the format that is above a number is above what that is rounded to. -/
theorem Representable.round_le (hr : f.Representable r) (h : q ≤ r) : f.round q ≤ r := by
  rw [← round_eq_self_iff.2 hr]
  exact round_mono h

/-- A number of the format that is below a number is below what that is rounded to. -/
theorem Representable.le_round (hr : f.Representable r) (h : r ≤ q) : r ≤ f.round q := by
  rw [← round_eq_self_iff.2 hr]
  exact round_mono h

/-- A number of the format that is below a rounded one is below what was rounded. -/
theorem Representable.lt_of_lt_round (hr : f.Representable r) (h : r < f.round q) : r < q :=
  lt_of_not_ge fun hle => absurd (hr.round_le hle) (not_le.2 h)

/-- Below a power of two, the numbers of the format end a unit before it. -/
theorem Representable.abs_le_sub {k : ℤ} (hq : f.Representable q)
    (hk : f.minExponent ≤ k - f.precision) (h : |q| < 2 ^ k) :
    |q| ≤ 2 ^ k - 2 ^ (k - f.precision) := by
  have hprecision := f.precision_pos
  have hscale := exponent_le (f := f) h
  rw [max_eq_left hk] at hscale
  rcases hscale.lt_or_eq with hlt | heq
  · -- at a smaller scale a number is below half of it
    have hhalf : |q| < 2 ^ (k - 1) :=
      (abs_lt_exponent (f := f) q).trans_le (zpow_le_zpow_right₀ one_le_two (by omega))
    have hunit : (2 : ℚ) ^ (k - f.precision) ≤ 2 ^ (k - 1) :=
      zpow_le_zpow_right₀ one_le_two (by omega)
    have hsplit : (2 : ℚ) ^ k = 2 ^ (k - 1) + 2 ^ (k - 1) := by
      rw [← two_mul, ← zpow_one_add₀ two_ne_zero]
      ring_nf
    linarith
  · obtain ⟨n, hn⟩ := hq.exists_intCast
    have hpos := two_zpow_pos (k - f.precision)
    have habs : |q| = |n| * 2 ^ (k - f.precision) := by
      rw [hn, heq, abs_mul, abs_of_pos hpos, Int.cast_abs]
    have hpower : (2 : ℚ) ^ k = ((2 ^ f.precision : ℤ) : ℚ) * 2 ^ (k - f.precision) := by
      push_cast
      rw [← zpow_natCast, ← zpow_add₀ two_ne_zero]
      ring_nf
    rw [habs, hpower] at h
    have hdigits : |n| + 1 ≤ 2 ^ f.precision := by
      exact_mod_cast lt_of_mul_lt_mul_right h hpos.le
    have hdigits' : ((|n| + 1 : ℤ) : ℚ) ≤ ((2 ^ f.precision : ℤ) : ℚ) := Int.cast_le.2 hdigits
    rw [habs, hpower, le_sub_iff_add_le, ← add_one_mul]
    refine mul_le_mul_of_nonneg_right ?_ hpos.le
    exact_mod_cast hdigits'

/-- What is more than half a unit below a power of two is rounded below it. -/
theorem abs_round_lt {k : ℤ} (hk : f.minExponent ≤ k - f.precision)
    (h : |q| + 2 ^ (k - f.precision) / 2 < 2 ^ k) : |f.round q| < 2 ^ k := by
  have hpos := two_zpow_pos (k - f.precision)
  have hscale := exponent_le (f := f) (show |q| < 2 ^ k by linarith)
  rw [max_eq_left hk] at hscale
  have hunit : (2 : ℚ) ^ f.exponent q ≤ 2 ^ (k - f.precision) :=
    zpow_le_zpow_right₀ one_le_two hscale
  have hnear := round_near (f := f) q
  have htriangle := abs_sub_abs_le_abs_sub (f.round q) q
  linarith

end BinaryFormat

/-- The format with 53 digits. -/
def binary64 : BinaryFormat := ⟨53, -1074, by decide⟩

/-! ### Truncation -/

/-- A number without what is after its point. -/
def truncate (q : ℚ) : ℤ := if 0 ≤ q then ⌊q⌋ else ⌈q⌉

theorem truncate_of_nonneg {q : ℚ} (h : 0 ≤ q) : truncate q = ⌊q⌋ := if_pos h

@[simp] theorem truncate_neg (q : ℚ) : truncate (-q) = -truncate q := by
  unfold truncate
  rcases lt_trichotomy q 0 with hneg | rfl | hpos
  · rw [if_pos (neg_nonneg.2 hneg.le), if_neg (not_le.2 hneg), Int.floor_neg]
  · simp
  · rw [if_neg (by simpa using hpos), if_pos hpos.le, Int.ceil_neg]

theorem truncate_mono {q r : ℚ} (h : q ≤ r) : truncate q ≤ truncate r := by
  unfold truncate
  by_cases hq : 0 ≤ q
  · rw [if_pos hq, if_pos (hq.trans h)]
    exact Int.floor_le_floor h
  · rw [if_neg hq]
    split
    · rename_i hr
      exact (Int.ceil_le.2 (by simpa using (not_le.1 hq).le)).trans (Int.floor_nonneg.2 hr)
    · exact Int.ceil_le_ceil h

end PlatformOps
