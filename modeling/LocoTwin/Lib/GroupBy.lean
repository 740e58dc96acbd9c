/-
# Lib.GroupBy -- rows by a key, and what is aggregated over them

`groupBy key rows` is one group for each key that occurs, in the order of their last rows,
with the rows of that key in their order.

* `nodup_groupBy`, `mem_groupBy`: one group for each key, of exactly its rows;
* `sum_groupBy`: the totals of the groups add up to the total, so no row is counted twice or
  left out (`sum_length_groupBy`);
* `min?_le_avg`, `avg_le_max?`: a mean lies between the least and the greatest value.

`OrderBy` is some way to put rows in the order of a column, which leaves open how rows that
agree in it are ordered.
-/
import Mathlib.Algebra.BigOperators.Group.List.Lemmas
import Mathlib.Algebra.Order.BigOperators.Group.List
import Mathlib.Algebra.Order.Field.Basic
import Mathlib.Data.List.Dedup
import Mathlib.Tactic.Linarith

namespace LocoTwin.Lib

set_option autoImplicit false

section

variable {ρ κ : Type} [DecidableEq κ] (key : ρ → κ)

/-- The rows of one key. -/
def group (rows : List ρ) (k : κ) : List ρ := rows.filter fun r => decide (key r = k)

def groupBy (rows : List ρ) : List (κ × List ρ) :=
  (rows.map key).dedup.map fun k => (k, group key rows k)

theorem mem_group {rows : List ρ} {k : κ} {r : ρ} :
    r ∈ group key rows k ↔ r ∈ rows ∧ key r = k := by
  simp [group]

theorem mem_groupBy {rows : List ρ} {k : κ} {g : List ρ} :
    (k, g) ∈ groupBy key rows ↔ k ∈ rows.map key ∧ g = group key rows k := by
  unfold groupBy
  rw [List.mem_map]
  constructor
  · rintro ⟨k', mem, same⟩
    obtain ⟨rfl, rfl⟩ := Prod.mk.inj same
    exact ⟨List.mem_dedup.mp mem, rfl⟩
  · rintro ⟨mem, rfl⟩
    exact ⟨k, List.mem_dedup.mpr mem, rfl⟩

/-- No group is empty. -/
theorem ne_nil_of_mem_groupBy {rows : List ρ} {k : κ} {g : List ρ}
    (mem : (k, g) ∈ groupBy key rows) : g ≠ [] := by
  obtain ⟨occurs, rfl⟩ := (mem_groupBy key).mp mem
  obtain ⟨r, r_mem, own⟩ := List.mem_map.mp occurs
  exact List.ne_nil_of_mem ((mem_group key).mpr ⟨r_mem, own⟩)

theorem keys_groupBy (rows : List ρ) : (groupBy key rows).map Prod.fst = (rows.map key).dedup := by
  simp [groupBy, Function.comp_def]

theorem nodup_groupBy (rows : List ρ) : ((groupBy key rows).map Prod.fst).Nodup := by
  rw [keys_groupBy]
  exact List.nodup_dedup _

/-- The totals of the groups add up. -/
theorem sum_groupBy {M : Type} [AddCommMonoid M] (f : ρ → M) (rows : List ρ) :
    ((groupBy key rows).map fun e => (e.2.map f).sum).sum = (rows.map f).sum := by
  have total (ks : List κ) (distinct : ks.Nodup) (all : ∀ r ∈ rows, key r ∈ ks) :
      (ks.map fun k => ((group key rows k).map f).sum).sum = (rows.map f).sum := by
    induction rows with
    | nil => simp [group]
    | cons r rows ih =>
        have later := ih fun r' mem => all r' (List.mem_cons_of_mem r mem)
        have split (k : κ) : ((group key (r :: rows) k).map f).sum =
            (if key r = k then f r else 0) + ((group key rows k).map f).sum := by
          by_cases own : key r = k
          · simp [group, own]
          · simp [group, own]
        simp only [split, List.sum_map_add, later, List.map_cons, List.sum_cons]
        have once : (ks.map fun k => if key r = k then f r else 0).sum = f r := by
          rw [List.sum_map_eq_nsmul_single (key r) _ fun k other _ => if_neg (Ne.symm other),
            List.count_eq_one_of_mem distinct (all r List.mem_cons_self), one_nsmul, if_pos rfl]
        rw [once]
  have every : ∀ r ∈ rows, key r ∈ (rows.map key).dedup :=
    fun r mem => List.mem_dedup.mpr (List.mem_map_of_mem mem)
  rw [groupBy, List.map_map]
  exact total _ (List.nodup_dedup _) every

theorem sum_length_groupBy (rows : List ρ) :
    ((groupBy key rows).map fun e => e.2.length).sum = rows.length := by
  have total := sum_groupBy key (fun _ => 1) rows
  simpa only [List.map_const', List.sum_replicate_nat, Nat.mul_one] using total

end

section

variable {R : Type} [Field R] [LinearOrder R] [IsStrictOrderedRing R]

def avg (l : List R) : R := l.sum / l.length

theorem avg_mul_length {l : List R} (nonempty : l ≠ []) : avg l * l.length = l.sum := by
  have pos : (l.length : R) ≠ 0 := by
    exact_mod_cast (List.length_pos_iff.mpr nonempty).ne'
  exact div_mul_cancel₀ _ pos

theorem min?_le_avg {l : List R} {m : R} (least : l.min? = some m) : m ≤ avg l := by
  obtain ⟨mem, le⟩ := List.min?_eq_some_iff.mp least
  have pos : (0 : R) < l.length := by exact_mod_cast List.length_pos_of_mem mem
  have total := List.card_nsmul_le_sum l m le
  rw [avg, le_div_iff₀ pos]
  rwa [nsmul_eq_mul, mul_comm] at total

theorem avg_le_max? {l : List R} {m : R} (greatest : l.max? = some m) : avg l ≤ m := by
  obtain ⟨mem, le⟩ := List.max?_eq_some_iff.mp greatest
  have pos : (0 : R) < l.length := by exact_mod_cast List.length_pos_of_mem mem
  have total := List.sum_le_card_nsmul l m le
  rw [avg, div_le_iff₀ pos]
  rwa [nsmul_eq_mul, mul_comm] at total

end

/-! ## In order -/

structure OrderBy {ρ K : Type} [LE K] (column : ρ → K) where
  sort : List ρ → List ρ
  perm : ∀ rows, (sort rows).Perm rows
  sorted : ∀ rows, (sort rows).Pairwise fun r s => column r ≤ column s

/-- Rows that agree stay as they were. -/
def OrderBy.stable {ρ K : Type} [LinearOrder K] (column : ρ → K) : OrderBy column where
  sort rows := rows.mergeSort fun r s => column r ≤ column s
  perm rows := rows.mergeSort_perm _
  sorted rows := by
    have sorted : (rows.mergeSort fun r s => decide (column r ≤ column s)).Pairwise
        fun r s => decide (column r ≤ column s) = true :=
      List.pairwise_mergeSort
        (fun _ _ _ le le' => by simpa using (of_decide_eq_true le).trans (of_decide_eq_true le'))
        (fun r s => by simpa using le_total (column r) (column s)) rows
    exact sorted.imp fun le => of_decide_eq_true le

end LocoTwin.Lib
