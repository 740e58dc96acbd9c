/-
# Lib.Binary64 -- double precision

`binary64` rounds to the nearest multiple of the unit in the last place, ties to even: 53 bits
and gradual underflow, without infinities.

* `isFloat_iff`: the floats are the multiples `k * 2 ^ e` with `|k| ≤ 2 ^ 53` and
  `-1074 ≤ e`;
* `binary64_roundoff`: a sum of two floats is off by at most `2 ^ -53` of itself;
* `succ_le_round`: below `2 ^ 52` a value and its successor round alike.
-/
import LocoTwin.Lib.FloatArith
import Mathlib.Data.Int.Log

namespace LocoTwin.Lib

set_option autoImplicit false

namespace Binary64

/-- The exponent of the unit in the last place of a value. -/
def exponent (x : ℚ) : ℤ := max (Int.log 2 |x| - 52) (-1074)

def unit (x : ℚ) : ℚ := 2 ^ exponent x

def round (x : ℚ) : ℚ := roundHalfEven (x / unit x) * unit x

/-- Powers of two. -/
theorem pow_pos' (e : ℤ) : (0 : ℚ) < 2 ^ e := zpow_pos (by norm_num) e

theorem pow_le {d e : ℤ} (le : d ≤ e) : (2 : ℚ) ^ d ≤ 2 ^ e :=
  zpow_le_zpow_right₀ (by norm_num) le

theorem pow_add (d e : ℤ) : (2 : ℚ) ^ (d + e) = 2 ^ d * 2 ^ e := zpow_add₀ (by norm_num) d e

theorem unit_pos (x : ℚ) : 0 < unit x := pow_pos' _

@[simp] theorem exponent_neg (x : ℚ) : exponent (-x) = exponent x := by
  rw [exponent, exponent, abs_neg]

theorem unit_neg (x : ℚ) : unit (-x) = unit x := by rw [unit, unit, exponent_neg]

theorem round_neg (x : ℚ) : round (-x) = -round x := by
  rw [round, round, unit_neg, neg_div, roundHalfEven_neg]
  push_cast
  ring

@[simp] theorem round_zero : round 0 = 0 := by
  have zero : (0 : ℚ) / unit 0 = ((0 : ℤ) : ℚ) := by simp
  rw [round, zero, roundHalfEven_intCast]
  simp

/-! ## Exponents -/

theorem le_exponent (x : ℚ) : -1074 ≤ exponent x := le_max_right _ _

/-- A value has 53 bits before its unit. -/
theorem abs_lt (x : ℚ) : |x| < 2 ^ 53 * unit x := by
  have top : |x| < (2 : ℚ) ^ (Int.log 2 |x| + 1) := Int.lt_zpow_succ_log_self (by norm_num) |x|
  have bits : Int.log 2 |x| + 1 ≤ 53 + exponent x := by
    have := le_max_left (Int.log 2 |x| - 52) (-1074)
    unfold exponent
    omega
  calc |x| < 2 ^ (Int.log 2 |x| + 1) := top
    _ ≤ 2 ^ (53 + exponent x) := pow_le bits
    _ = 2 ^ 53 * unit x := by
      rw [pow_add]
      rfl

/-- The unit is no larger than the bits need. -/
theorem exponent_le {x : ℚ} (nonzero : x ≠ 0) {e : ℤ} (low : -1074 ≤ e)
    (small : |x| < 2 ^ 53 * 2 ^ e) : exponent x ≤ e := by
  have pos : 0 < |x| := abs_pos.mpr nonzero
  have small' : |x| < ((2 : ℕ) : ℚ) ^ (53 + e) := by
    rw [Nat.cast_ofNat, pow_add]
    exact small
  have log := (Int.lt_zpow_iff_log_lt (by norm_num) pos).mp small'
  unfold exponent
  omega

theorem exponent_mono {x y : ℚ} (pos : 0 < x) (le : x ≤ y) : exponent x ≤ exponent y := by
  have log : Int.log 2 |x| ≤ Int.log 2 |y| := by
    rw [abs_of_pos pos, abs_of_pos (pos.trans_le le)]
    exact Int.log_mono_right pos le
  unfold exponent
  omega

/-- Above the subnormal values the leading bit is set. -/
theorem le_abs_of_lt_exponent {x : ℚ} (nonzero : x ≠ 0) (normal : -1074 < exponent x) :
    2 ^ 52 * unit x ≤ |x| := by
  have exponent_eq : exponent x = Int.log 2 |x| - 52 := by
    unfold exponent at normal ⊢
    omega
  have low : (2 : ℚ) ^ Int.log 2 |x| ≤ |x| :=
    Int.zpow_log_le_self (by norm_num) (abs_pos.mpr nonzero)
  have top : (2 : ℚ) ^ 52 * unit x = 2 ^ Int.log 2 |x| := by
    rw [unit, exponent_eq, ← zpow_natCast, ← pow_add]
    congr 1
    norm_num
  rw [top]
  exact low

/-! ## Rounding -/

/-- A multiple of a power that is no smaller than the unit is left as it is. -/
theorem round_multiple {x : ℚ} {k : ℤ} {e : ℤ} (multiple : x = k * 2 ^ e)
    (le : exponent x ≤ e) : round x = x := by
  obtain ⟨n, rfl⟩ := Int.le.dest le
  have whole : x / unit x = ((k * 2 ^ n : ℤ) : ℚ) := by
    rw [div_eq_iff (unit_pos x).ne']
    conv_lhs => rw [multiple]
    rw [pow_add, unit]
    push_cast
    rw [zpow_natCast]
    ring
  rw [round, whole, roundHalfEven_intCast, ← whole, div_mul_cancel₀ _ (unit_pos x).ne']

theorem round_fixed {k : ℤ} (bits : |k| ≤ 2 ^ 53) {e : ℤ} (low : -1074 ≤ e) :
    round (k * 2 ^ e) = k * 2 ^ e := by
  rcases eq_or_ne k 0 with rfl | nonzero
  · simp
  have nonzero' : (k : ℚ) * 2 ^ e ≠ 0 :=
    mul_ne_zero (by exact_mod_cast nonzero) (pow_pos' e).ne'
  have size : |(k : ℚ) * 2 ^ e| = |k| * 2 ^ e := by
    rw [abs_mul, abs_of_pos (pow_pos' e)]
    push_cast
    rfl
  rcases bits.lt_or_eq with below | top
  · refine round_multiple rfl (exponent_le nonzero' low ?_)
    rw [size]
    exact mul_lt_mul_of_pos_right (by exact_mod_cast below) (pow_pos' e)
  · -- a power of two has its leading bit one place higher
    have half : |k| = 2 ^ 52 * 2 := by rw [top]; norm_num
    obtain ⟨j, rfl⟩ : (2 : ℤ) ∣ k := (dvd_abs 2 k).mp ⟨2 ^ 52, by rw [half, mul_comm]⟩
    have same : ((2 * j : ℤ) : ℚ) * 2 ^ e = j * 2 ^ (e + 1) := by
      rw [pow_add]
      push_cast
      ring
    refine round_multiple same (exponent_le nonzero' (by omega) ?_)
    rw [size, top, pow_add]
    have pos := pow_pos' e
    push_cast
    linarith

theorem abs_roundHalfEven_le (x : ℚ) : |roundHalfEven (x / unit x)| ≤ 2 ^ 53 := by
  have small : |x / unit x| ≤ ((2 ^ 53 : ℤ) : ℚ) := by
    rw [abs_div, abs_of_pos (unit_pos x), div_le_iff₀ (unit_pos x)]
    exact_mod_cast (abs_lt x).le
  obtain ⟨low, high⟩ := abs_le.mp small
  rw [abs_le]
  constructor
  · have mono := roundHalfEven_mono low
    rwa [roundHalfEven_neg, roundHalfEven_intCast] at mono
  · have mono := roundHalfEven_mono high
    rwa [roundHalfEven_intCast] at mono

theorem round_round (x : ℚ) : round (round x) = round x :=
  round_fixed (abs_roundHalfEven_le x) (le_exponent x)

theorem round_nonneg {x : ℚ} (nonneg : 0 ≤ x) : 0 ≤ round x := by
  have part : 0 ≤ roundHalfEven (x / unit x) :=
    roundHalfEven_nonneg (div_nonneg nonneg (unit_pos x).le)
  exact mul_nonneg (by exact_mod_cast part) (unit_pos x).le

/-- A larger unit is that of a value above all that have the smaller one. -/
theorem round_mono_of_pos {x y : ℚ} (pos : 0 < x) (le : x ≤ y) : round x ≤ round y := by
  have ypos : 0 < y := pos.trans_le le
  rcases (exponent_mono pos le).lt_or_eq with below | same
  · have high : -1074 < exponent y := (le_exponent x).trans_lt below
    have lead := le_abs_of_lt_exponent ypos.ne' high
    rw [abs_of_pos ypos] at lead
    have reached : (2 ^ 52 : ℤ) ≤ roundHalfEven (y / unit y) := by
      have mono := roundHalfEven_mono ((le_div_iff₀ (unit_pos y)).mpr lead)
      have whole : ((2 : ℚ) ^ 52) = ((2 ^ 52 : ℤ) : ℚ) := by norm_num
      rwa [whole, roundHalfEven_intCast] at mono
    have top : round x ≤ 2 ^ 53 * unit x := by
      have bits := (abs_le.mp (abs_roundHalfEven_le x)).2
      exact mul_le_mul_of_nonneg_right (by exact_mod_cast bits) (unit_pos x).le
    have step : unit x * 2 ≤ unit y := by
      have next : (2 : ℚ) ^ (exponent x + 1) ≤ 2 ^ exponent y := pow_le below
      rwa [pow_add, zpow_one] at next
    calc round x ≤ 2 ^ 53 * unit x := top
      _ = 2 ^ 52 * (unit x * 2) := by ring
      _ ≤ 2 ^ 52 * unit y := mul_le_mul_of_nonneg_left step (by norm_num)
      _ ≤ round y := mul_le_mul_of_nonneg_right (by exact_mod_cast reached) (unit_pos y).le
  · have unit_eq : unit x = unit y := by rw [unit, unit, same]
    unfold round
    rw [unit_eq]
    have mono := roundHalfEven_mono (div_le_div_of_nonneg_right le (unit_pos y).le)
    exact mul_le_mul_of_nonneg_right (by exact_mod_cast mono) (unit_pos y).le

theorem round_mono : Monotone round := by
  intro x y le
  rcases lt_or_ge 0 x with pos | nonpos
  · exact round_mono_of_pos pos le
  rcases lt_or_ge y 0 with neg | nonneg
  · have mono := round_mono_of_pos (neg_pos.mpr neg) (neg_le_neg le)
    rw [round_neg, round_neg] at mono
    exact neg_le_neg_iff.mp mono
  · have below := round_nonneg (neg_nonneg.mpr nonpos)
    rw [round_neg] at below
    exact (neg_nonneg.mp below).trans (round_nonneg nonneg)

theorem abs_round_sub_le (x : ℚ) : |round x - x| ≤ unit x / 2 := by
  obtain ⟨low, high⟩ := roundHalfEven_near (x / unit x)
  have back : x = x / unit x * unit x := (div_mul_cancel₀ _ (unit_pos x).ne').symm
  have split : round x - x = (roundHalfEven (x / unit x) - x / unit x) * unit x := by
    rw [sub_mul, ← back]
    rfl
  have near : |(roundHalfEven (x / unit x) : ℚ) - x / unit x| ≤ 1 / 2 := by
    rw [abs_le]
    constructor <;> linarith
  rw [split, abs_mul, abs_of_pos (unit_pos x)]
  have scaled := mul_le_mul_of_nonneg_right near (unit_pos x).le
  linarith

theorem round_one : round 1 = 1 := by
  have fixed := round_fixed (k := 1) (by norm_num) (e := 0) (by norm_num)
  simpa using fixed

/-- The error of a value that is not subnormal. -/
theorem abs_round_sub_le_mul {x : ℚ} (nonzero : x ≠ 0) (normal : -1074 < exponent x) :
    |round x - x| ≤ 2 ^ (-53 : ℤ) * |x| := by
  have lead := le_abs_of_lt_exponent nonzero normal
  have half : (2 : ℚ) ^ (-53 : ℤ) * (2 ^ 52 * unit x) = unit x / 2 := by
    norm_num
    ring
  calc |round x - x| ≤ unit x / 2 := abs_round_sub_le x
    _ = 2 ^ (-53 : ℤ) * (2 ^ 52 * unit x) := half.symm
    _ ≤ 2 ^ (-53 : ℤ) * |x| := mul_le_mul_of_nonneg_left lead (pow_pos' _).le

theorem lt_exponent_of_one_le {x : ℚ} (large : 1 ≤ |x|) : -1074 < exponent x := by
  have log := Int.log_mono_right (b := 2) one_pos large
  rw [Int.log_one_right] at log
  unfold exponent
  omega

/-- Where the unit is at most a half, a tie below an integer goes to the integer. -/
theorem natCast_le_round {k : ℕ} {y : ℚ} (small : y < 2 ^ 52) (pos : 0 < y)
    (near : (k : ℚ) - unit y / 2 ≤ y) : (k : ℚ) ≤ round y := by
  have fine : exponent y ≤ -1 := by
    refine exponent_le pos.ne' (by norm_num) ?_
    rw [abs_of_pos pos]
    refine small.trans_eq ?_
    norm_num
  obtain ⟨j, scale⟩ : ∃ j : ℕ, -exponent y = j + 1 := ⟨(-exponent y - 1).toNat, by omega⟩
  have whole : (1 : ℚ) / unit y = ((2 ^ j * 2 : ℤ) : ℚ) := by
    rw [unit, one_div, ← zpow_neg, scale, pow_add, zpow_natCast, zpow_one]
    push_cast
    rfl
  have reached : (k * (2 ^ j * 2) : ℤ) ≤ roundHalfEven (y / unit y) := by
    rw [le_roundHalfEven_of_even (by rw [← mul_assoc, Int.mul_emod_left])]
    have scaled := div_le_div_of_nonneg_right near (unit_pos y).le
    have unit' : unit y / 2 / unit y = 1 / 2 := by
      rw [div_right_comm, div_self (unit_pos y).ne']
    rw [sub_div, unit', div_eq_mul_one_div (k : ℚ), whole] at scaled
    exact_mod_cast scaled
  have back := mul_le_mul_of_nonneg_right (Int.cast_le (R := ℚ).mpr reached) (unit_pos y).le
  rw [Int.cast_mul, ← whole, mul_assoc, one_div_mul_cancel (unit_pos y).ne', mul_one] at back
  exact back

/-- Below `2 ^ 52` a step of one is seen. -/
theorem succ_le_round {k : ℕ} {y : ℚ} (nonneg : 0 ≤ y) (small : y + 1 < 2 ^ 52)
    (le : (k : ℚ) ≤ round y) : ((k + 1 : ℕ) : ℚ) ≤ round (y + 1) := by
  rcases nonneg.eq_or_lt with rfl | pos
  · rw [round_zero] at le
    obtain rfl : k = 0 := by exact_mod_cast le.antisymm k.cast_nonneg
    simp [round_one]
  have units : unit y ≤ unit (y + 1) := pow_le (exponent_mono pos (by linarith))
  refine natCast_le_round small (by linarith) ?_
  have error := (abs_le.mp (abs_round_sub_le y)).2
  push_cast
  linarith

end Binary64

/-! ## The arithmetic -/

/-- Double precision. -/
def binary64 : FloatArith where
  round := Binary64.round
  mono := Binary64.round_mono
  idem := Binary64.round_round
  neg := Binary64.round_neg
  one := Binary64.round_one

namespace Binary64

theorem isFloat_iff {x : ℚ} :
    binary64.IsFloat x ↔ ∃ k e : ℤ, |k| ≤ 2 ^ 53 ∧ -1074 ≤ e ∧ x = k * 2 ^ e := by
  constructor
  · intro float
    exact ⟨_, _, abs_roundHalfEven_le x, le_exponent x, float.symm⟩
  · rintro ⟨k, e, bits, low, rfl⟩
    exact round_fixed bits low

theorem isFloat_natCast {n : ℕ} (small : n ≤ 2 ^ 53) : binary64.IsFloat n := by
  refine isFloat_iff.mpr ⟨n, 0, ?_, by norm_num, by simp⟩
  rw [abs_of_nonneg (Int.natCast_nonneg n)]
  exact_mod_cast small

/-- A float is a multiple of the smallest. -/
theorem multiple_of_isFloat {x : ℚ} (float : binary64.IsFloat x) :
    ∃ k : ℤ, x = k * 2 ^ (-1074 : ℤ) := by
  obtain ⟨k, e, -, low, rfl⟩ := isFloat_iff.mp float
  obtain ⟨n, rfl⟩ := Int.le.dest low
  refine ⟨k * 2 ^ n, ?_⟩
  rw [pow_add, zpow_natCast, Int.cast_mul, Int.cast_pow, Int.cast_ofNat, mul_assoc,
    mul_comm (2 ^ n)]

end Binary64

open Binary64 in
theorem binary64_roundoff : binary64.Roundoff (2 ^ (-53 : ℤ)) where
  nonneg := (pow_pos' _).le
  add x y float float' := by
    show |Binary64.round (x + y) - (x + y)| ≤ _
    rcases eq_or_ne (x + y) 0 with zero | nonzero
    · simp [zero]
    rcases (le_exponent (x + y)).lt_or_eq with normal | subnormal
    · exact abs_round_sub_le_mul nonzero normal
    · -- sums of subnormal size have no more bits than their summands
      obtain ⟨j, rfl⟩ := multiple_of_isFloat float
      obtain ⟨k, rfl⟩ := multiple_of_isFloat float'
      have multiple : (j : ℚ) * 2 ^ (-1074 : ℤ) + k * 2 ^ (-1074 : ℤ) =
          ((j + k : ℤ) : ℚ) * 2 ^ (-1074 : ℤ) := by
        rw [← add_mul, Int.cast_add]
      rw [round_multiple multiple subnormal.ge, sub_self, abs_zero]
      exact mul_nonneg (pow_pos' _).le (abs_nonneg _)

example : binary64.add (binary64.round (1 / 10)) (binary64.round (2 / 10)) ≠
    binary64.round (3 / 10) := by
  decide +kernel

end LocoTwin.Lib
