/-
# Lib.Ranking -- a list by descending key, and its top

`ranked key l` is `l` by descending key, ties in their order in `l`.  The first
`n` of a ranking depend on an element only if it gets among them:

* `le_countAbove_iff`: at least `n` elements lie above `x` exactly when the first
  `n` of the ranking do;
* `take_ranked_cons`: with `n` elements above it, a new element leaves the first
  `n` as they are;
* `mem_take_ranked_cons`: with fewer, it is one of them;
* `le_of_mem_drop_ranked`: what is not among the first `n` ranks no higher.
-/
import Mathlib.Data.List.Sort
import Mathlib.Order.Basic

namespace LocoTwin.Lib

set_option autoImplicit false

variable {α K : Type} [LinearOrder K] (key : α → K)

/-- By descending key, stably. -/
def ranked (l : List α) : List α := l.insertionSort fun a b => key b ≤ key a

/-- How many elements have a key above `x`. -/
def countAbove (x : K) (l : List α) : ℕ := l.countP fun a => decide (x < key a)

theorem ranked_perm (l : List α) : (ranked key l).Perm l := List.perm_insertionSort _ l

@[simp] theorem mem_ranked {a : α} {l : List α} : a ∈ ranked key l ↔ a ∈ l :=
  (ranked_perm key l).mem_iff

theorem ranked_cons (a : α) (l : List α) :
    ranked key (a :: l) = (ranked key l).orderedInsert (fun a b => key b ≤ key a) a := rfl

theorem ranked_pairwise (l : List α) : (ranked key l).Pairwise fun a b => key b ≤ key a := by
  have : Std.Total fun a b : α => key b ≤ key a := ⟨fun a b => le_total (key b) (key a)⟩
  have : IsTrans α fun a b => key b ≤ key a := ⟨fun _ _ _ hab hbc => hbc.trans hab⟩
  exact List.pairwise_insertionSort _ l

/-- The keys of a ranking are the ranking of the keys. -/
theorem map_ranked (l : List α) : (ranked key l).map key = ranked id (l.map key) :=
  List.map_insertionSort _ _ _ _ fun _ _ _ _ => Iff.rfl

/-- Of two elements, the one that ranks no lower stays ahead. -/
theorem pair_sublist_ranked {a b : α} {l : List α} (above : key b ≤ key a)
    (order : [a, b].Sublist l) : [a, b].Sublist (ranked key l) := by
  have : Std.Total fun a b : α => key b ≤ key a := ⟨fun a b => le_total (key b) (key a)⟩
  have : IsTrans α fun a b => key b ≤ key a := ⟨fun _ _ _ hab hbc => hbc.trans hab⟩
  exact List.pair_sublist_insertionSort above order

/-- Nothing behind the first `n` ranks above one of them. -/
theorem le_of_mem_drop_ranked {l : List α} {n : ℕ} {a b : α} (first : a ∈ (ranked key l).take n)
    (behind : b ∈ (ranked key l).drop n) : key b ≤ key a := by
  have desc := ranked_pairwise key l
  rw [← List.take_append_drop n (ranked key l)] at desc
  exact (List.pairwise_append.mp desc).2.2 a first b behind

/-- In a descending list the elements above a bound come first. -/
theorem le_countAbove_of_pairwise {l : List α} (desc : l.Pairwise fun a b => key b ≤ key a)
    (n : ℕ) (x : K) :
    n ≤ countAbove key x l ↔ n ≤ l.length ∧ ∀ a ∈ l.take n, x < key a := by
  induction l generalizing n with
  | nil => cases n <;> simp [countAbove]
  | cons a rest ih =>
      obtain ⟨top, desc⟩ := List.pairwise_cons.mp desc
      cases n with
      | zero => simp
      | succ n =>
          by_cases above : x < key a
          · have := ih desc n
            simp only [countAbove] at this
            simp [countAbove, above, this]
          · -- the head is not above `x`, so nothing is
            have none : rest.countP (fun b => decide (x < key b)) = 0 := by
              rw [List.countP_eq_zero]
              intro b hb
              simpa using (top b hb).trans (not_lt.mp above)
            simp [countAbove, above, none]

theorem le_countAbove_iff (l : List α) (n : ℕ) (x : K) :
    n ≤ countAbove key x l ↔ n ≤ l.length ∧ ∀ a ∈ (ranked key l).take n, x < key a := by
  have perm := ranked_perm key l
  rw [← perm.length_eq, ← le_countAbove_of_pairwise key (ranked_pairwise key l)]
  exact iff_of_eq (congrArg (n ≤ ·) (perm.countP_eq _).symm)

/-- Inserting behind the first `n` leaves them as they are. -/
theorem take_orderedInsert {r : α → α → Prop} [DecidableRel r] {a : α} {l : List α} {n : ℕ}
    (long : n ≤ l.length) (behind : ∀ b ∈ l.take n, ¬ r a b) :
    (l.orderedInsert r a).take n = l.take n := by
  induction l generalizing n with
  | nil =>
      have : n = 0 := by simpa using long
      simp [this]
  | cons b rest ih =>
      cases n with
      | zero => simp
      | succ n =>
          simp only [List.take_succ_cons, List.mem_cons, forall_eq_or_imp] at behind
          rw [List.orderedInsert_cons, if_neg behind.1, List.take_succ_cons, List.take_succ_cons,
            ih (by simpa using long) behind.2]

/-- An element that is not behind the first `n` is inserted among them. -/
theorem mem_take_orderedInsert {r : α → α → Prop} [DecidableRel r] {a : α} {l : List α} {n : ℕ}
    (pos : 0 < n) (ahead : ¬ (n ≤ l.length ∧ ∀ b ∈ l.take n, ¬ r a b)) :
    a ∈ (l.orderedInsert r a).take n := by
  induction l generalizing n with
  | nil => cases n <;> simp_all
  | cons b rest ih =>
      obtain ⟨n, rfl⟩ := Nat.exists_eq_succ_of_ne_zero pos.ne'
      rw [List.orderedInsert_cons]
      by_cases here : r a b
      · simp [here]
      · rw [if_neg here, List.take_succ_cons]
        have ahead' : ¬ (n ≤ rest.length ∧ ∀ c ∈ rest.take n, ¬ r a c) := by
          simpa [here] using ahead
        have pos' : 0 < n := by
          rcases Nat.eq_zero_or_pos n with rfl | h
          · simp at ahead'
          · exact h
        exact List.mem_cons_of_mem _ (ih pos' ahead')

/-- With `n` elements above it, a new element does not change the first `n`. -/
theorem take_ranked_cons {a : α} {l : List α} {n : ℕ} (below : n ≤ countAbove key (key a) l) :
    (ranked key (a :: l)).take n = (ranked key l).take n := by
  obtain ⟨long, above⟩ := (le_countAbove_iff key l n (key a)).mp below
  rw [ranked_cons]
  apply take_orderedInsert
  · rwa [(ranked_perm key l).length_eq]
  · exact fun b hb => not_le.mpr (above b hb)

/-- With fewer than `n` elements above it, a new element is among the first `n`. -/
theorem mem_take_ranked_cons {a : α} {l : List α} {n : ℕ} (pos : 0 < n)
    (short : ¬ n ≤ countAbove key (key a) l) : a ∈ (ranked key (a :: l)).take n := by
  rw [le_countAbove_iff, ← (ranked_perm key l).length_eq] at short
  rw [ranked_cons]
  apply mem_take_orderedInsert pos
  simpa only [not_le] using short

theorem countAbove_anti {x y : K} (le : x ≤ y) (l : List α) :
    countAbove key y l ≤ countAbove key x l :=
  List.countP_mono_left fun _ _ above => by
    simpa using lt_of_le_of_lt le (of_decide_eq_true above)

theorem countAbove_cons (a : α) (x : K) (l : List α) :
    countAbove key x (a :: l) = countAbove key x l + if x < key a then 1 else 0 := by
  simp [countAbove, List.countP_cons]

end LocoTwin.Lib
