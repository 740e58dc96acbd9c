/-
# Lib.Rounding -- rounding to a decimal place, ties to even

`roundHalfEven x` is the integer nearest to `x`, the even one of two equally
near; `roundTo n x` rounds to `n` decimal places.  Over any ordered field with a
floor.

* `roundTo_mono`: rounding is monotone;
* `le_roundHalfEven_of_even`: an even integer is reached from a half below it on,
  so a threshold on a rounded value is a threshold on the value (`le_roundTo_of_even`).

`fixed n x` is the decimal text of `x` with `n` places.
-/
import Mathlib.Algebra.Order.Floor.Ring
import Mathlib.Algebra.Order.Field.Basic
import Mathlib.Data.Rat.Floor
import Mathlib.Tactic.Linarith
import Mathlib.Tactic.Positivity

namespace LocoTwin.Lib

set_option autoImplicit false

section

variable {R : Type} [Field R] [LinearOrder R] [FloorRing R]

/-- The nearest integer; of two equally near ones, the even one. -/
def roundHalfEven (x : R) : ℤ :=
  if x - ⌊x⌋ < 1 / 2 then ⌊x⌋
  else if 1 / 2 < x - ⌊x⌋ then ⌊x⌋ + 1
  else if ⌊x⌋ % 2 = 0 then ⌊x⌋
  else ⌊x⌋ + 1

def roundTo (n : ℕ) (x : R) : R := roundHalfEven (x * 10 ^ n) / 10 ^ n

/-- The text of `x` with exactly `n` decimal places; a negative value keeps its
sign even where its digits round to zero. -/
def fixed (n : ℕ) (x : R) : String :=
  let digits := (roundHalfEven (|x| * 10 ^ n)).toNat
  let whole := toString (digits / 10 ^ n)
  let part := toString (digits % 10 ^ n)
  let sign := if x < 0 then "-" else ""
  let dot := if n = 0 then "" else "." ++ String.ofList (List.replicate (n - part.length) '0') ++ part
  sign ++ whole ++ dot

theorem floor_le_roundHalfEven (x : R) : ⌊x⌋ ≤ roundHalfEven x := by
  unfold roundHalfEven
  split_ifs <;> omega

theorem roundHalfEven_nonneg {x : R} (nonneg : 0 ≤ x) : 0 ≤ roundHalfEven x :=
  (Int.floor_nonneg.mpr nonneg).trans (floor_le_roundHalfEven x)

theorem roundHalfEven_le_floor_add_one (x : R) : roundHalfEven x ≤ ⌊x⌋ + 1 := by
  unfold roundHalfEven
  split_ifs <;> omega

variable [IsStrictOrderedRing R]

@[simp] theorem roundHalfEven_intCast (k : ℤ) : roundHalfEven (k : R) = k := by
  have small : (k : R) - ⌊(k : R)⌋ < 1 / 2 := by
    rw [Int.floor_intCast, sub_self]
    positivity
  rw [roundHalfEven, if_pos small, Int.floor_intCast]

/-- A rounded value is left as it is. -/
@[simp] theorem roundTo_roundTo (n : ℕ) (x : R) : roundTo n (roundTo n x) = roundTo n x := by
  have pos : (10 : R) ^ n ≠ 0 := by positivity
  have scaled : roundTo n x * 10 ^ n = (roundHalfEven (x * 10 ^ n) : R) := div_mul_cancel₀ _ pos
  rw [roundTo, scaled, roundHalfEven_intCast]
  rfl

/-- The rounding is at most a half away. -/
theorem roundHalfEven_near (x : R) :
    x - 1 / 2 ≤ roundHalfEven x ∧ (roundHalfEven x : R) ≤ x + 1 / 2 := by
  have lower := Int.floor_le x
  have upper := Int.lt_floor_add_one x
  unfold roundHalfEven
  split_ifs <;> push_cast <;> constructor <;> linarith

theorem roundHalfEven_mono {x y : R} (le : x ≤ y) : roundHalfEven x ≤ roundHalfEven y := by
  rcases (Int.floor_mono le).lt_or_eq with below | same
  · -- the rounding of `x` is at most the next integer, which `y` has reached
    have up := roundHalfEven_le_floor_add_one x
    have down := floor_le_roundHalfEven y
    omega
  · have part : x - ⌊x⌋ ≤ y - ⌊x⌋ := by linarith
    unfold roundHalfEven
    rw [← same]
    split_ifs <;> first | omega | (exfalso; linarith)

theorem roundTo_mono (n : ℕ) {x y : R} (le : x ≤ y) : roundTo n x ≤ roundTo n y := by
  have pos : (0 : R) < 10 ^ n := by positivity
  unfold roundTo
  apply div_le_div_of_nonneg_right _ pos.le
  exact_mod_cast roundHalfEven_mono (mul_le_mul_of_nonneg_right le pos.le)

@[simp] theorem roundHalfEven_neg (x : R) : roundHalfEven (-x) = -roundHalfEven x := by
  by_cases whole : x = ⌊x⌋
  · have back : -x = ((-⌊x⌋ : ℤ) : R) := by
      push_cast
      rw [← whole]
    rw [back, roundHalfEven_intCast]
    conv_rhs => rw [whole, roundHalfEven_intCast]
  · have lower := Int.floor_le x
    have upper := Int.lt_floor_add_one x
    have inside : (⌊x⌋ : R) < x := lt_of_le_of_ne lower (Ne.symm whole)
    have floor : ⌊-x⌋ = -⌊x⌋ - 1 := by
      rw [Int.floor_eq_iff]
      push_cast
      constructor <;> linarith
    unfold roundHalfEven
    rw [floor]
    push_cast
    split_ifs <;> first | omega | (exfalso; linarith)

/-- An even integer is reached by rounding from a half below it on. -/
theorem le_roundHalfEven_of_even {n : ℤ} (even : n % 2 = 0) (x : R) :
    n ≤ roundHalfEven x ↔ (n : R) - 1 / 2 ≤ x := by
  have lower := Int.floor_le x
  have upper := Int.lt_floor_add_one x
  constructor
  · intro h
    by_contra short
    have top : x < (n : R) - 1 / 2 := lt_of_not_ge short
    have below : ⌊x⌋ < n := by
      have : (⌊x⌋ : R) < n := by linarith
      exact_mod_cast this
    have near : ⌊x⌋ + 1 = n := by
      have := roundHalfEven_le_floor_add_one x
      omega
    have cast : (⌊x⌋ : R) + 1 = n := by exact_mod_cast near
    have small : x - ⌊x⌋ < 1 / 2 := by linarith
    rw [roundHalfEven, if_pos small] at h
    omega
  · intro h
    by_cases reached : n ≤ ⌊x⌋
    · exact reached.trans (floor_le_roundHalfEven x)
    · have near : ⌊x⌋ + 1 = n := by
        have : (n : R) < ⌊x⌋ + 1 + 1 := by linarith
        have : n < ⌊x⌋ + 1 + 1 := by exact_mod_cast this
        omega
      have cast : (⌊x⌋ : R) + 1 = n := by exact_mod_cast near
      have half : ¬ x - ⌊x⌋ < 1 / 2 := by linarith
      have odd : ¬ ⌊x⌋ % 2 = 0 := by omega
      rw [roundHalfEven, if_neg half, if_neg odd]
      split_ifs <;> omega

/-- A value with an even last digit is reached by rounding from half a unit of that digit
below it on. -/
theorem le_roundTo_of_even {cut : ℤ} (even : cut % 2 = 0) (n : ℕ) (x : R) :
    (cut : R) / 10 ^ n ≤ roundTo n x ↔ ((cut : R) - 1 / 2) / 10 ^ n ≤ x := by
  have pos : (0 : R) < 10 ^ n := by positivity
  rw [roundTo, div_le_div_iff_of_pos_right pos, Int.cast_le, le_roundHalfEven_of_even even,
    div_le_iff₀ pos]

end

example : roundTo 2 (3 / 8 : ℚ) = 38 / 100 ∧ roundTo 2 (1 / 8 : ℚ) = 12 / 100 := by decide +kernel

example : fixed 2 (-1 / 1000 : ℚ) = "-0.00" := by decide +kernel

end LocoTwin.Lib
