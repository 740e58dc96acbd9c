/-
# Lib.FloatArith -- arithmetic that rounds

A `FloatArith` is the rounding of a float format, on the rationals: the nearest value the
format has, without infinities.  `add`, `sub`, `mul` and `div` round the exact result, and
`exact` is the arithmetic that rounds nothing.

* `Roundoff u`: a sum of two floats is off by at most the part `u` of itself; the only law of
  the size of an error that the rest needs;
* `abs_sum_sub_le`: the sum of `n` floats, one after the other, is off by at most the part
  `gamma u n` of their absolute sum;
* `neumaier` is the compensated sum; exact arithmetic has nothing to compensate.
-/
import LocoTwin.Lib.Rounding
import Mathlib.Algebra.BigOperators.Group.List.Lemmas
import Mathlib.Algebra.Order.BigOperators.Group.List
import Mathlib.Tactic.Ring

namespace LocoTwin.Lib

set_option autoImplicit false

structure FloatArith where
  round : ℚ → ℚ
  mono : Monotone round
  idem : ∀ x, round (round x) = round x
  neg : ∀ x, round (-x) = -round x
  one : round 1 = 1

/-- The error of `n` roundings one after the other. -/
def gamma (u : ℚ) (n : ℕ) : ℚ := (1 + u) ^ n - 1

theorem gamma_succ (u : ℚ) (n : ℕ) : gamma u (n + 1) = (1 + u) * gamma u n + u := by
  unfold gamma
  ring

theorem gamma_mono {u : ℚ} (nonneg : 0 ≤ u) {m n : ℕ} (le : m ≤ n) : gamma u m ≤ gamma u n := by
  have base : 1 ≤ 1 + u := by linarith
  have pow := pow_le_pow_right₀ base le
  unfold gamma
  linarith

theorem gamma_nonneg {u : ℚ} (nonneg : 0 ≤ u) (n : ℕ) : 0 ≤ gamma u n := by
  have low := gamma_mono nonneg n.zero_le
  simpa [gamma] using low

@[simp] theorem gamma_zero_left (n : ℕ) : gamma 0 n = 0 := by simp [gamma]

namespace FloatArith

/-- Nothing is rounded. -/
def exact : FloatArith where
  round x := x
  mono := monotone_id
  idem _ := rfl
  neg _ := rfl
  one := rfl

section

variable (F : FloatArith)

def add (x y : ℚ) : ℚ := F.round (x + y)
def sub (x y : ℚ) : ℚ := F.round (x - y)
def mul (x y : ℚ) : ℚ := F.round (x * y)
def div (x y : ℚ) : ℚ := F.round (x / y)

/-- To `n` decimal places; the nearest float to the nearest decimal. -/
def roundTo (n : ℕ) (x : ℚ) : ℚ := F.round (Lib.roundTo n x)

/-- From zero, one after the other. -/
def sum (xs : List ℚ) : ℚ := xs.foldl F.add 0

/-- The sum so far, and what its roundings have lost. -/
def neumaierStep (s : ℚ × ℚ) (x : ℚ) : ℚ × ℚ :=
  let t := F.add s.1 x
  let lost := if |x| ≤ |s.1| then F.add (F.sub s.1 t) x else F.add (F.sub x t) s.1
  (t, F.add s.2 lost)

def neumaier (xs : List ℚ) : ℚ :=
  let s := xs.foldl F.neumaierStep (0, 0)
  if s.2 = 0 then s.1 else F.add s.1 s.2

def IsFloat (x : ℚ) : Prop := F.round x = x

instance (x : ℚ) : Decidable (F.IsFloat x) := inferInstanceAs (Decidable (_ = _))

/-- A sum of two floats is off by at most the part `u` of itself. -/
structure Roundoff (u : ℚ) : Prop where
  nonneg : 0 ≤ u
  add : ∀ x y, F.IsFloat x → F.IsFloat y → |F.add x y - (x + y)| ≤ u * |x + y|

end

variable {F : FloatArith} {x y : ℚ}

@[simp] theorem round_zero (F : FloatArith) : F.round 0 = 0 := by
  have odd := F.neg 0
  rw [neg_zero] at odd
  linarith

theorem isFloat_round (F : FloatArith) (x : ℚ) : F.IsFloat (F.round x) := F.idem x

theorem isFloat_zero (F : FloatArith) : F.IsFloat 0 := round_zero F

theorem isFloat_one (F : FloatArith) : F.IsFloat 1 := F.one

theorem IsFloat.neg (float : F.IsFloat x) : F.IsFloat (-x) := by
  rw [IsFloat, F.neg, float]

theorem le_round (float : F.IsFloat x) (le : x ≤ y) : x ≤ F.round y := by
  have mono := F.mono le
  rwa [float] at mono

theorem round_le (float : F.IsFloat y) (le : x ≤ y) : F.round x ≤ y := by
  have mono := F.mono le
  rwa [float] at mono

/-- What is not negative and is added does not take away. -/
theorem le_add_right (float : F.IsFloat x) (nonneg : 0 ≤ y) : x ≤ F.add x y :=
  le_round float (le_add_of_nonneg_right nonneg)

theorem le_add_left (nonneg : 0 ≤ x) (float : F.IsFloat y) : y ≤ F.add x y :=
  le_round float (le_add_of_nonneg_left nonneg)

theorem round_nonneg (nonneg : 0 ≤ x) : 0 ≤ F.round x := le_round F.isFloat_zero nonneg

/-! ## Exact arithmetic -/

@[simp] theorem exact_round (x : ℚ) : exact.round x = x := rfl

@[simp] theorem exact_add (x y : ℚ) : exact.add x y = x + y := rfl

@[simp] theorem exact_sub (x y : ℚ) : exact.sub x y = x - y := rfl

@[simp] theorem exact_mul (x y : ℚ) : exact.mul x y = x * y := rfl

@[simp] theorem exact_div (x y : ℚ) : exact.div x y = x / y := rfl

@[simp] theorem exact_roundTo (n : ℕ) (x : ℚ) : exact.roundTo n x = Lib.roundTo n x := rfl

@[simp] theorem exact_sum (xs : List ℚ) : exact.sum xs = xs.sum :=
  List.sum_eq_foldl.symm

@[simp] theorem exact_neumaier (xs : List ℚ) : exact.neumaier xs = xs.sum := by
  have fold (s : ℚ) : xs.foldl exact.neumaierStep (s, 0) = (s + xs.sum, 0) := by
    induction xs generalizing s with
    | nil => simp
    | cons x xs ih =>
        have step : exact.neumaierStep (s, 0) x = (s + x, 0) := by
          unfold neumaierStep
          simp
        rw [List.foldl_cons, step, ih, List.sum_cons, add_assoc]
  simp [neumaier, fold]

theorem exact_roundoff : exact.Roundoff 0 where
  nonneg := le_refl 0
  add x y _ _ := by simp

/-! ## Errors -/

namespace Roundoff

variable {u : ℚ}

theorem sub (law : F.Roundoff u) (float : F.IsFloat x) (float' : F.IsFloat y) :
    |F.sub x y - (x - y)| ≤ u * |x - y| := by
  have error := law.add x (-y) float float'.neg
  simpa only [← sub_eq_add_neg, FloatArith.add, FloatArith.sub] using error

/-- Unequal floats have a difference. -/
theorem sub_pos (law : F.Roundoff u) (small : u < 1) (float : F.IsFloat x) (float' : F.IsFloat y)
    (lt : x < y) : 0 < F.sub y x := by
  have apart : 0 < y - x := by linarith
  have error := law.sub float' float
  rw [abs_of_pos apart] at error
  have low := (abs_le.mp error).1
  have part : u * (y - x) < 1 * (y - x) := mul_lt_mul_of_pos_right small apart
  linarith

/-- What has been taken away and is added again is there, up to two roundings. -/
theorem add_sub_near (law : F.Roundoff u) (float : F.IsFloat x) (float' : F.IsFloat y) :
    |F.add x (F.sub y x) - y| ≤ u * |y| + u * (1 + u) * |y - x| := by
  have nonneg := law.nonneg
  have first := law.sub float' float
  have second := law.add x (F.sub y x) float (F.isFloat_round _)
  set d := F.sub y x
  have back : x + d = y + (d - (y - x)) := by ring
  have size : |x + d| ≤ |y| + u * |y - x| := by
    rw [back]
    exact (abs_add_le _ _).trans (by linarith)
  have split : F.add x d - y = (F.add x d - (x + d)) + (d - (y - x)) := by ring
  calc |F.add x d - y| ≤ |F.add x d - (x + d)| + |d - (y - x)| := by
        rw [split]
        exact abs_add_le _ _
    _ ≤ u * (|y| + u * |y - x|) + u * |y - x| :=
        add_le_add (second.trans (mul_le_mul_of_nonneg_left size nonneg)) first
    _ = u * |y| + u * (1 + u) * |y - x| := by ring

end Roundoff

/-! ## Sums -/

@[simp] theorem sum_nil (F : FloatArith) : F.sum [] = 0 := rfl

theorem sum_concat (F : FloatArith) (xs : List ℚ) (x : ℚ) :
    F.sum (xs ++ [x]) = F.add (F.sum xs) x := by
  rw [sum, List.foldl_append]
  rfl

theorem isFloat_sum (F : FloatArith) (xs : List ℚ) : F.IsFloat (F.sum xs) := by
  induction xs using List.reverseRecOn with
  | nil => exact F.isFloat_zero
  | append_singleton xs x ih =>
      rw [sum_concat]
      exact F.isFloat_round _

theorem abs_sum_le (xs : List ℚ) : |xs.sum| ≤ (xs.map abs).sum := by
  induction xs with
  | nil => simp
  | cons x xs ih =>
      simp only [List.sum_cons, List.map_cons]
      exact (abs_add_le x xs.sum).trans (by linarith)

theorem sum_abs_nonneg (xs : List ℚ) : 0 ≤ (xs.map abs).sum :=
  (abs_nonneg _).trans (abs_sum_le xs)

/-- **The error of a sum**: one rounding for each summand. -/
theorem abs_sum_sub_le {u : ℚ} (law : F.Roundoff u) {xs : List ℚ}
    (floats : ∀ x ∈ xs, F.IsFloat x) :
    |F.sum xs - xs.sum| ≤ gamma u xs.length * (xs.map abs).sum := by
  have nonneg := law.nonneg
  induction xs using List.reverseRecOn with
  | nil => simp
  | append_singleton xs x ih =>
      have before := ih fun y mem => floats y (List.mem_append_left _ mem)
      have float : F.IsFloat x := floats x (by simp)
      have last := law.add (F.sum xs) x (F.isFloat_sum xs) float
      have size := abs_sum_le xs
      have total := sum_abs_nonneg xs
      have grow := gamma_nonneg nonneg xs.length
      have whole : (xs ++ [x]).sum = xs.sum + x := by simp
      have abs' : ((xs ++ [x]).map abs).sum = (xs.map abs).sum + |x| := by simp
      have length : (xs ++ [x]).length = xs.length + 1 := by simp
      rw [sum_concat, whole, abs', length, gamma_succ]
      set s := F.sum xs
      set S := xs.sum
      set A := (xs.map abs).sum
      set g := gamma u xs.length
      -- the last rounding, and what the earlier ones have left
      have split : F.add s x - (S + x) = (F.add s x - (s + x)) + (s - S) := by ring
      have reach : |s + x| ≤ g * A + (A + |x|) := by
        have parts : s + x = (s - S) + (S + x) := by ring
        rw [parts]
        calc |s - S + (S + x)| ≤ |s - S| + |S + x| := abs_add_le _ _
          _ ≤ g * A + (A + |x|) := add_le_add before ((abs_add_le S x).trans (by linarith))
      calc |F.add s x - (S + x)| ≤ |F.add s x - (s + x)| + |s - S| := by
            rw [split]
            exact abs_add_le _ _
        _ ≤ u * (g * A + (A + |x|)) + g * A :=
            add_le_add (last.trans (mul_le_mul_of_nonneg_left reach nonneg)) before
        _ = ((1 + u) * g + u) * A + u * |x| := by ring
        _ ≤ ((1 + u) * g + u) * A + ((1 + u) * g + u) * |x| := by
            have more : u ≤ (1 + u) * g + u := by
              have : 0 ≤ (1 + u) * g := mul_nonneg (by linarith) grow
              linarith
            exact add_le_add_right (mul_le_mul_of_nonneg_right more (abs_nonneg x)) _
        _ = ((1 + u) * g + u) * (A + |x|) := by ring

end FloatArith

end LocoTwin.Lib
