/-
# Lib.Deque -- a double-ended queue of bounded length

A `Deque α max` holds at most `max` elements.  To add one at an end of a full deque drops
one at the other end; the operations return what they dropped.

* `extend_eq`: what `extend` drops, followed by what it leaves, is what there was followed by
  what was added, so the order never changes and only the front is dropped;
* `putNowait` and `getNowait` are those of a queue, and drop nothing;
* `extendLeft_reverse`: elements that have been taken from the front go back in their order,
  and nothing is dropped, when there is room for them.
-/
import Mathlib.Data.List.Basic

namespace LocoTwin.Lib

set_option autoImplicit false

structure Deque (α : Type) (max : Nat) where
  items : List α
  length_le : items.length ≤ max

namespace Deque

variable {α : Type} {max : Nat}

def empty : Deque α max := ⟨[], Nat.zero_le max⟩

theorem length_append_tail_le (d : Deque α max) (x : α) :
    (d.items ++ [x]).tail.length ≤ max := by
  rw [List.length_tail, List.length_append]
  exact d.length_le

theorem length_cons_dropLast_le (d : Deque α max) (x : α) :
    (x :: d.items).dropLast.length ≤ max := by
  rw [List.length_dropLast, List.length_cons]
  exact d.length_le

theorem length_drop_le (d : Deque α max) (n : Nat) : (d.items.drop n).length ≤ max := by
  rw [List.length_drop]
  exact Nat.le_trans (Nat.sub_le _ _) d.length_le

/-- At the back; a full deque drops its front. -/
def append (d : Deque α max) (x : α) : Deque α max × List α :=
  if h : (d.items ++ [x]).length ≤ max then (⟨d.items ++ [x], h⟩, [])
  else (⟨(d.items ++ [x]).tail, d.length_append_tail_le x⟩, (d.items ++ [x]).take 1)

/-- At the front; a full deque drops its back. -/
def appendLeft (d : Deque α max) (x : α) : Deque α max × List α :=
  if h : (x :: d.items).length ≤ max then (⟨x :: d.items, h⟩, [])
  else
    (⟨(x :: d.items).dropLast, d.length_cons_dropLast_le x⟩,
      [(x :: d.items).getLast (List.cons_ne_nil x d.items)])

/-- One by one at the back. -/
def extend (d : Deque α max) : List α → Deque α max × List α
  | [] => (d, [])
  | x :: xs =>
      let now := d.append x
      let later := now.1.extend xs
      (later.1, now.2 ++ later.2)

/-- One by one at the front. -/
def extendLeft (d : Deque α max) : List α → Deque α max × List α
  | [] => (d, [])
  | x :: xs =>
      let now := d.appendLeft x
      let later := now.1.extendLeft xs
      (later.1, now.2 ++ later.2)

/-- The first `n` are taken from the front. -/
def popLeft (d : Deque α max) (n : Nat) : List α × Deque α max :=
  (d.items.take n, ⟨d.items.drop n, d.length_drop_le n⟩)

/-- At the back, unless it is full. -/
def putNowait (d : Deque α max) (x : α) : Option (Deque α max) :=
  if h : d.items.length < max then
    some ⟨d.items ++ [x], by rw [List.length_append]; exact h⟩
  else none

/-- From the front, unless it is empty. -/
def getNowait : Deque α max → Option (α × Deque α max)
  | ⟨[], _⟩ => none
  | ⟨x :: rest, h⟩ => some (x, ⟨rest, Nat.le_of_succ_le h⟩)

theorem getNowait_eq_some {d d' : Deque α max} {x : α} (got : d.getNowait = some (x, d')) :
    d.items = x :: d'.items := by
  rcases d with ⟨_ | ⟨y, rest⟩, h⟩
  · cases got
  · cases got
    rfl

/-! ## What is dropped, and what is left -/

theorem append_eq (d : Deque α max) (x : α) :
    (d.append x).2 ++ (d.append x).1.items = d.items ++ [x] := by
  unfold append
  split
  · rfl
  · show (d.items ++ [x]).take 1 ++ (d.items ++ [x]).tail = d.items ++ [x]
    rw [← List.drop_one, List.take_append_drop]

/-- A queue of things and a queue of what stands for them. -/
theorem append_map {β : Type} (g : α → β) {d : Deque α max} {d' : Deque β max}
    (same : d.items.map g = d'.items) (x : α) :
    (d.append x).1.items.map g = (d'.append (g x)).1.items := by
  obtain ⟨items, bound⟩ := d'
  obtain rfl : d.items.map g = items := same
  unfold append
  by_cases room : (d.items ++ [x]).length ≤ max
  · have room' : (d.items.map g ++ [g x]).length ≤ max := by simpa using room
    rw [dif_pos room, dif_pos room']
    exact List.map_append
  · have room' : ¬(d.items.map g ++ [g x]).length ≤ max := by simpa using room
    rw [dif_neg room, dif_neg room']
    show (d.items ++ [x]).tail.map g = (d.items.map g ++ [g x]).tail
    rw [List.map_tail, List.map_append]
    rfl

/-- The front of the one is taken where that of the other is. -/
theorem getNowait_map {β : Type} (g : α → β) {d : Deque α max} {d' : Deque β max}
    (same : d.items.map g = d'.items) :
    (d.getNowait = none ∧ d'.getNowait = none) ∨
      ∃ x rest rest', d.getNowait = some (x, rest) ∧ d'.getNowait = some (g x, rest') ∧
        rest.items.map g = rest'.items := by
  obtain ⟨items', bound'⟩ := d'
  obtain ⟨items, bound⟩ := d
  obtain rfl : items.map g = items' := same
  cases items with
  | nil => exact .inl ⟨rfl, rfl⟩
  | cons x rest => exact .inr ⟨x, _, _, rfl, rfl, rfl⟩

theorem extend_eq (d : Deque α max) (xs : List α) :
    (d.extend xs).2 ++ (d.extend xs).1.items = d.items ++ xs := by
  induction xs generalizing d with
  | nil => simp [extend]
  | cons x xs ih =>
      show ((d.append x).2 ++ ((d.append x).1.extend xs).2) ++
        ((d.append x).1.extend xs).1.items = d.items ++ x :: xs
      rw [List.append_assoc, ih, ← List.append_assoc, append_eq, List.append_assoc]
      rfl

theorem extendLeft_eq {d : Deque α max} {xs : List α}
    (room : xs.length + d.items.length ≤ max) :
    (d.extendLeft xs).1.items = xs.reverse ++ d.items ∧ (d.extendLeft xs).2 = [] := by
  induction xs generalizing d with
  | nil => exact ⟨rfl, rfl⟩
  | cons x xs ih =>
      rw [List.length_cons] at room
      have fits : (x :: d.items).length ≤ max := by
        rw [List.length_cons]
        omega
      have now : d.appendLeft x = (⟨x :: d.items, fits⟩, []) := dif_pos fits
      have later : xs.length + (x :: d.items).length ≤ max := by
        rw [List.length_cons]
        omega
      obtain ⟨items, dropped⟩ := ih (d := ⟨x :: d.items, fits⟩) later
      unfold extendLeft
      rw [now]
      constructor
      · show ((⟨x :: d.items, fits⟩ : Deque α max).extendLeft xs).1.items = _
        rw [items, List.reverse_cons, List.append_assoc]
        rfl
      · show [] ++ _ = []
        rw [dropped]
        rfl

/-- What was taken from the front goes back. -/
theorem extendLeft_reverse {d : Deque α max} {xs : List α}
    (room : xs.length + d.items.length ≤ max) :
    (d.extendLeft xs.reverse).1.items = xs ++ d.items ∧ (d.extendLeft xs.reverse).2 = [] := by
  have room' : xs.reverse.length + d.items.length ≤ max := by rwa [List.length_reverse]
  have back := extendLeft_eq room'
  rwa [List.reverse_reverse] at back

theorem popLeft_eq (d : Deque α max) (n : Nat) :
    (d.popLeft n).1 ++ (d.popLeft n).2.items = d.items := List.take_append_drop n d.items

theorem popLeft_length (d : Deque α max) (n : Nat) :
    (d.popLeft n).1.length + (d.popLeft n).2.items.length ≤ max := by
  rw [← List.length_append, popLeft_eq]
  exact d.length_le

end Deque

/-! ## Slices -/

variable {α : Type}

/-- `[l[i : i + n] for i in range(0, len(l), n)]` -/
def slices (n : Nat) (l : List α) : List (List α) :=
  (List.range ((l.length + n - 1) / n)).map fun k => (l.drop (k * n)).take n

theorem flatten_slices_upto (n m : Nat) (l : List α) :
    ((List.range m).map fun k => (l.drop (k * n)).take n).flatten = l.take (m * n) := by
  induction m with
  | zero => simp
  | succ m ih =>
      rw [List.range_succ, List.map_append, List.flatten_append, ih, Nat.succ_mul, List.take_add]
      simp

/-- The slices make up the list. -/
theorem flatten_slices {n : Nat} (h : 0 < n) (l : List α) : (slices n l).flatten = l := by
  unfold slices
  rw [flatten_slices_upto]
  apply List.take_of_length_le
  have division := Nat.div_add_mod (l.length + n - 1) n
  have rest := Nat.mod_lt (l.length + n - 1) h
  have product := Nat.mul_comm ((l.length + n - 1) / n) n
  omega

end LocoTwin.Lib
