/-
# Lib.Between -- lists with elements put between neighbours

`between ins prev rest` is the list `rest` after an element `prev`, with `ins a b` put
between every two neighbours `a` and `b`.

* `isChain_between`: what relates all neighbours of `a :: ins a b ++ [b]` relates all
  neighbours of the result;
* `filter_between`: a predicate that holds of the old elements only gives the list back;
* `between_split`: what stands between two neighbours is what was put there.
-/
import Mathlib.Data.List.Chain

namespace LocoTwin.Lib

set_option autoImplicit false

variable {α : Type} {ins : α → α → List α}

def between (ins : α → α → List α) : α → List α → List α
  | _, [] => []
  | prev, cur :: rest => ins prev cur ++ cur :: between ins cur rest

theorem isChain_between {R : α → α → Prop} {prev : α} {rest : List α}
    (neighbours : ∀ (i : ℕ) a b, (prev :: rest)[i]? = some a → (prev :: rest)[i + 1]? = some b →
      (a :: ins a b ++ [b]).IsChain R) :
    (prev :: between ins prev rest).IsChain R := by
  induction rest generalizing prev with
  | nil => exact .singleton prev
  | cons cur rest ih =>
      show (prev :: ins prev cur ++ cur :: between ins cur rest).IsChain R
      rw [List.isChain_split]
      refine ⟨neighbours 0 prev cur rfl rfl, ih ?_⟩
      intro i a b at_i next
      exact neighbours (i + 1) a b at_i next

theorem filter_between {p : α → Bool} (new : ∀ a b, ∀ x ∈ ins a b, p x = false) {prev : α}
    {rest : List α} (old : ∀ x ∈ rest, p x = true) :
    (between ins prev rest).filter p = rest := by
  induction rest generalizing prev with
  | nil => rfl
  | cons cur rest ih =>
      have none' : (ins prev cur).filter p = [] := by
        rw [List.filter_eq_nil_iff]
        intro x mem
        rw [new prev cur x mem]
        decide
      rw [between, List.filter_append, none', List.nil_append,
        List.filter_cons_of_pos (old cur List.mem_cons_self),
        ih fun x mem => old x (List.mem_cons_of_mem cur mem)]

variable (ins) in
theorem between_split {prev : α} {rest : List α} {i : ℕ} {a b : α}
    (at_i : (prev :: rest)[i]? = some a) (next : (prev :: rest)[i + 1]? = some b) :
    ∃ before after, prev :: between ins prev rest = before ++ a :: (ins a b ++ b :: after) := by
  induction i generalizing prev rest with
  | zero =>
      cases rest with
      | nil => cases next
      | cons cur rest =>
          cases at_i
          cases next
          exact ⟨[], between ins b rest, rfl⟩
  | succ i ih =>
      cases rest with
      | nil => cases next
      | cons cur rest =>
          obtain ⟨before, after, split⟩ := ih at_i next
          refine ⟨prev :: ins prev cur ++ before, after, ?_⟩
          rw [between, split]
          simp

theorem getLast?_between (prev : α) (rest : List α) :
    (prev :: between ins prev rest).getLast? = (prev :: rest).getLast? := by
  induction rest generalizing prev with
  | nil => rfl
  | cons cur rest ih =>
      rw [between, List.getLast?_cons_cons, ← ih, ← List.cons_append, List.getLast?_append_cons]

end LocoTwin.Lib
