/-
# Shared.Python -- the values the services compute with

Floats are read exactly: a `PyFloat` is a rational, and `+ - * /` and the
comparisons on it are exact.  The two powers the code takes are not rational
functions, so they are the fields of a `PyMath`: `pow` for `x ** k` and `exp2`
for `2.0 ** x`, which raises where the result does not fit a float.  What a
result needs of them is named (`PowLaws`, `Exp2Laws`) and assumed where it is
used.

`UUID.str` is the canonical text of a UUID, under which every dictionary of the
processor files its entries; it is injective (`UUID.str_injective`).
-/
import Mathlib.Data.Rat.Defs
import Mathlib.Algebra.Order.Field.Rat
import Mathlib.Algebra.Order.Ring.Abs
import Mathlib.Order.Interval.Set.Defs
import Mathlib.Order.Monotone.Defs
import Mathlib.Data.Rat.Floor
import Mathlib.Algebra.Order.GroupWithZero.Basic
import Mathlib.Tactic.NormNum

namespace LocoTwin.Shared

set_option autoImplicit false

/-- A finite Python float, read as the rational it denotes. -/
abbrev PyFloat := ℚ

/-- An instant, in microseconds since the epoch. -/
abbrev Datetime := ℤ

/-- A raised exception: its class and `str(exc)`. -/
structure PyError where
  kind : String
  text : String
  deriving DecidableEq, Repr

/-! ## Powers -/

structure PyMath where
  /-- `x ** k` -/
  pow : PyFloat → PyFloat → PyFloat
  /-- `2.0 ** x` -/
  exp2 : PyFloat → Except PyError PyFloat

namespace PyMath

/-- `x ** k` on the unit interval, for a positive exponent. -/
structure PowLaws (M : PyMath) : Prop where
  zero : ∀ k, 0 < k → M.pow 0 k = 0
  one : ∀ k, 0 < k → M.pow 1 k = 1
  strictMono : ∀ k, 0 < k → StrictMonoOn (fun x => M.pow x k) (Set.Icc 0 1)

/-- `2.0 ** x` without a range limit: defined everywhere, monotone, `1` at `0`. -/
structure Exp2Laws (M : PyMath) : Prop where
  total : ∀ x, ∃ y, M.exp2 x = .ok y
  zero : M.exp2 0 = .ok 1
  mono : ∀ x y a b, x ≤ y → M.exp2 x = .ok a → M.exp2 y = .ok b → a ≤ b

/-- `2.0 ** x` where it does not overflow: at least `1` from `0` on. -/
structure Exp2Grows (M : PyMath) : Prop where
  one_le : ∀ x y, 0 ≤ x → M.exp2 x = .ok y → 1 ≤ y

/-- `2.0 ** x` as a float computes it: an `OverflowError` from `1024` on. -/
structure Exp2Overflows (M : PyMath) : Prop where
  below : ∀ x, x < 1024 → ∃ y, M.exp2 x = .ok y
  above : ∀ x, 1024 ≤ x → ∃ e, M.exp2 x = .error e

theorem Exp2Laws.grows {M : PyMath} (laws : M.Exp2Laws) : M.Exp2Grows where
  one_le x y nonneg ok := laws.mono 0 x 1 y nonneg laws.zero ok

theorem PowLaws.mono {M : PyMath} (laws : M.PowLaws) {k x y : PyFloat} (hk : 0 < k)
    (hx : 0 ≤ x) (hy : y ≤ 1) (le : x ≤ y) : M.pow x k ≤ M.pow y k :=
  (laws.strictMono k hk).monotoneOn ⟨hx, le.trans hy⟩ ⟨hx.trans le, hy⟩ le

theorem PowLaws.nonneg {M : PyMath} (laws : M.PowLaws) {k x : PyFloat} (hk : 0 < k)
    (hx : 0 ≤ x) (hx' : x ≤ 1) : 0 ≤ M.pow x k := by
  rw [← laws.zero k hk]
  exact laws.mono hk le_rfl hx' hx

theorem PowLaws.pos_iff {M : PyMath} (laws : M.PowLaws) {k x : PyFloat} (hk : 0 < k)
    (hx : 0 ≤ x) (hx' : x ≤ 1) : 0 < M.pow x k ↔ 0 < x := by
  have := (laws.strictMono k hk).lt_iff_lt (a := 0) (b := x) ⟨le_rfl, zero_le_one⟩ ⟨hx, hx'⟩
  simpa [laws.zero k hk] using this

/-- Exponents rounded up to integers: exact powers wherever the exponent is an
integer, and one total function that satisfies both sets of laws. -/
def onIntegers : PyMath where
  pow x k := x ^ ⌈k⌉₊
  exp2 x := .ok (2 ^ ⌈x⌉)

/-- The same with the range of a float. -/
def ofFloats : PyMath where
  pow := onIntegers.pow
  exp2 x :=
    if x < 1024 then .ok (2 ^ ⌈x⌉)
    else .error { kind := "OverflowError", text := "(34, 'Numerical result out of range')" }

theorem ofFloats_exp2Overflows : ofFloats.Exp2Overflows where
  below _ lt := ⟨_, if_pos lt⟩
  above _ le := ⟨_, if_neg (not_lt.mpr le)⟩

theorem onIntegers_powLaws : onIntegers.PowLaws where
  zero k hk := zero_pow (Nat.ceil_pos.mpr hk).ne'
  one k _ := one_pow _
  strictMono k hk := by
    intro x hx y _ lt
    exact pow_lt_pow_left₀ lt hx.1 (Nat.ceil_pos.mpr hk).ne'

theorem onIntegers_exp2Laws : onIntegers.Exp2Laws where
  total x := ⟨_, rfl⟩
  zero := by simp [onIntegers]
  mono x y a b le ha hb := by
    simp only [onIntegers, Except.ok.injEq] at ha hb
    rw [← ha, ← hb]
    exact zpow_le_zpow_right₀ (by norm_num) (Int.ceil_mono le)

end PyMath

/-- `math.isclose(a, b, abs_tol=abs_tol)` with the default relative tolerance. -/
def isclose (a b absTol : PyFloat) : Bool :=
  decide (|a - b| ≤ max (1 / 10 ^ 9 * max |a| |b|) absTol)

/-! ## UUIDs -/

abbrev UUID := BitVec 128

namespace UUID

def hexDigit (n : Nat) : Char :=
  if n < 10 then Char.ofNat (48 + n) else Char.ofNat (87 + n)

/-- The low `w` hexadecimal digits of `n`, most significant first. -/
def hex : Nat → Nat → List Char
  | 0, _ => []
  | w + 1, n => hex w (n / 16) ++ [hexDigit (n % 16)]

/-- `str(uuid)`: 32 hexadecimal digits in groups of 8, 4, 4, 4 and 12. -/
def str (u : UUID) : String :=
  let h := hex 32 u.toNat
  String.ofList (h.take 8 ++ '-' :: ((h.drop 8).take 4 ++ '-' :: ((h.drop 12).take 4 ++
    '-' :: ((h.drop 16).take 4 ++ '-' :: h.drop 20))))

@[simp] theorem length_hex (w n : Nat) : (hex w n).length = w := by
  induction w generalizing n with
  | zero => rfl
  | succ w ih => simp [hex, ih]

theorem hexDigit_injective {m n : Nat} (hm : m < 16) (hn : n < 16)
    (h : hexDigit m = hexDigit n) : m = n := by
  have all : ∀ i : Fin 16, ∀ j : Fin 16, hexDigit i = hexDigit j → i = j := by decide
  exact congrArg Fin.val (all ⟨m, hm⟩ ⟨n, hn⟩ h)

theorem hex_injective {w m n : Nat} (hm : m < 16 ^ w) (hn : n < 16 ^ w)
    (h : hex w m = hex w n) : m = n := by
  induction w generalizing m n with
  | zero => simp at hm hn; omega
  | succ w ih =>
      simp only [hex] at h
      obtain ⟨high, low⟩ := List.append_inj h (by simp)
      have last : m % 16 = n % 16 :=
        hexDigit_injective (Nat.mod_lt _ (by decide)) (Nat.mod_lt _ (by decide))
          (List.cons.inj low).1
      have rest : m / 16 = n / 16 := by
        have pow : 16 ^ (w + 1) = 16 ^ w * 16 := Nat.pow_succ ..
        apply ih _ _ high <;> exact (Nat.div_lt_iff_lt_mul (by decide)).mpr (pow ▸ ‹_›)
      omega

/-- The five groups are the whole text. -/
theorem groups (l : List Char) : l.take 8 ++ ((l.drop 8).take 4 ++ ((l.drop 12).take 4 ++
    ((l.drop 16).take 4 ++ l.drop 20))) = l := by
  have e₁ : (l.drop 16).take 4 ++ l.drop 20 = l.drop 16 := by
    rw [show l.drop 20 = (l.drop 16).drop 4 by simp, List.take_append_drop]
  have e₂ : (l.drop 12).take 4 ++ l.drop 16 = l.drop 12 := by
    rw [show l.drop 16 = (l.drop 12).drop 4 by simp, List.take_append_drop]
  have e₃ : (l.drop 8).take 4 ++ l.drop 12 = l.drop 8 := by
    rw [show l.drop 12 = (l.drop 8).drop 4 by simp, List.take_append_drop]
  rw [e₁, e₂, e₃, List.take_append_drop]

theorem str_injective : Function.Injective str := by
  intro u v h
  have chars := String.ofList_injective h
  -- the five groups have fixed widths, so they agree one by one
  obtain ⟨g₁, chars⟩ := List.append_inj chars (by simp)
  obtain ⟨g₂, chars⟩ := List.append_inj (List.cons.inj chars).2 (by simp)
  obtain ⟨g₃, chars⟩ := List.append_inj (List.cons.inj chars).2 (by simp)
  obtain ⟨g₄, chars⟩ := List.append_inj (List.cons.inj chars).2 (by simp)
  have g₅ := (List.cons.inj chars).2
  have same : hex 32 u.toNat = hex 32 v.toNat := by
    rw [← groups (hex 32 u.toNat), ← groups (hex 32 v.toNat), g₁, g₂, g₃, g₄, g₅]
  exact BitVec.eq_of_toNat_eq (hex_injective u.isLt v.isLt same)

/-! The text read back. -/

/-- The value of a hexadecimal digit. -/
def hexValue (c : Char) : Option Nat :=
  if '0' ≤ c ∧ c ≤ '9' then some (c.toNat - 48)
  else if 'a' ≤ c ∧ c ≤ 'f' then some (c.toNat - 87)
  else if 'A' ≤ c ∧ c ≤ 'F' then some (c.toNat - 55)
  else none

/-- `int(hex, 16)` -/
def ofHex (digits : List Char) : Option Nat :=
  digits.foldlM (fun n c => (hexValue c).map (n * 16 + ·)) 0

/-- `uuid.UUID(text)`, for hexadecimal digits with hyphens in any places. -/
def ofText (text : String) : Option UUID :=
  let digits := text.toList.filter (· != '-')
  if digits.length = 32 then (ofHex digits).map (BitVec.ofNat 128) else none

theorem hexDigit_spec {n : Nat} (hn : n < 16) :
    hexValue (hexDigit n) = some n ∧ hexDigit n ≠ '-' := by
  have all : ∀ i : Fin 16, hexValue (hexDigit i) = some i.val ∧ hexDigit i ≠ '-' := by decide
  exact all ⟨n, hn⟩

theorem ofHex_hex (w n : Nat) : ofHex (hex w n) = some (n % 16 ^ w) := by
  induction w generalizing n with
  | zero => simp [ofHex, hex, Nat.mod_one]
  | succ w ih =>
      have digit := (hexDigit_spec (Nat.mod_lt n (by decide : 0 < 16))).1
      have high : (hex w (n / 16)).foldlM (fun n c => (hexValue c).map (n * 16 + ·)) 0 =
          some (n / 16 % 16 ^ w) := ih (n / 16)
      rw [ofHex, hex, List.foldlM_append, high]
      have value : n / 16 % 16 ^ w * 16 + n % 16 = n % 16 ^ (w + 1) := by
        rw [Nat.pow_succ, Nat.mul_comm (16 ^ w) 16, Nat.mod_mul]
        omega
      simp [digit, value]

theorem hyphen_not_mem_hex (w n : Nat) : '-' ∉ hex w n := by
  induction w generalizing n with
  | zero => simp [hex]
  | succ w ih =>
      have other := (hexDigit_spec (Nat.mod_lt n (by decide : 0 < 16))).2
      simp [hex, ih, other.symm]

/-- `uuid.UUID(str(u)) == u` -/
theorem ofText_str (u : UUID) : ofText (str u) = some u := by
  have plain : ∀ l : List Char, l ⊆ hex 32 u.toNat → l.filter (· != '-') = l := by
    intro l sub
    refine List.filter_eq_self.mpr fun c mem => ?_
    have other : c ≠ '-' := fun same => hyphen_not_mem_hex 32 u.toNat (same ▸ sub mem)
    simpa using other
  have within : ∀ i j, ((hex 32 u.toNat).drop i).take j ⊆ hex 32 u.toNat := fun i j =>
    List.Subset.trans (List.take_subset _ _) (List.drop_subset _ _)
  have digits : (str u).toList.filter (· != '-') = hex 32 u.toNat := by
    simp only [str, String.toList_ofList, List.filter_append, List.filter_cons, bne_self_eq_false,
      Bool.false_eq_true, if_false]
    rw [plain _ (List.take_subset _ _), plain _ (within 8 4), plain _ (within 12 4),
      plain _ (within 16 4), plain _ (List.drop_subset _ _), groups]
  have bound : u.toNat % 16 ^ 32 = u.toNat := Nat.mod_eq_of_lt u.isLt
  simp only [ofText, digits, length_hex, if_true, ofHex_hex, bound, Option.map_some,
    BitVec.ofNat_toNat, BitVec.setWidth_eq]

end UUID

end LocoTwin.Shared
