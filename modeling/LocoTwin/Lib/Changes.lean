/-
# Lib.Changes -- the changes of a value along a sequence

`changes l` lists the pairs of neighbours of `l` that differ.  It is a chain, each change
starting where the one before ended (`isChain_changes`), and the last change ends at the last
value (`getLast?_changes`).  `changes_concat` is what one more value adds.
-/
import Mathlib.Data.List.Basic
import Mathlib.Data.List.Chain

namespace LocoTwin.Lib

set_option autoImplicit false

variable {α : Type} [DecidableEq α]

def changes : List α → List (α × α)
  | a :: b :: l => if a = b then changes (b :: l) else (a, b) :: changes (b :: l)
  | _ => []

/-- The change from a value that may be missing. -/
def changeTo (before : Option α) (b : α) : List (α × α) :=
  match before with
  | some a => if a = b then [] else [(a, b)]
  | none => []

theorem changes_concat (l : List α) (b : α) :
    changes (l ++ [b]) = changes l ++ changeTo l.getLast? b := by
  induction l with
  | nil => rfl
  | cons a l ih =>
      cases l with
      | nil => rfl
      | cons a' l =>
          have last : (a :: a' :: l).getLast? = (a' :: l).getLast? := by
            rw [List.getLast?_cons_cons]
          have step := ih
          simp only [List.cons_append] at step ⊢
          rw [changes, changes, last, step]
          by_cases same : a = a'
          · rw [if_pos same, if_pos same]
          · rw [if_neg same, if_neg same, List.cons_append]

/-- The first change starts at the first value. -/
theorem head_changes {l : List α} {p : α × α} {rest : List (α × α)}
    (h : changes l = p :: rest) : l.head? = some p.1 := by
  induction l generalizing p rest with
  | nil => cases h
  | cons a l ih =>
      cases l with
      | nil => cases h
      | cons b l =>
          rw [changes] at h
          split at h
          case isTrue same =>
            have := ih h
            rw [List.head?_cons] at this ⊢
            rw [same, this]
          case isFalse differ =>
            cases h
            rfl

theorem isChain_changes (l : List α) : (changes l).IsChain fun p q => p.2 = q.1 := by
  induction l with
  | nil => exact .nil
  | cons a l ih =>
      cases l with
      | nil => exact .nil
      | cons b l =>
          rw [changes]
          split
          · exact ih
          · cases later : changes (b :: l) with
            | nil => exact .singleton _
            | cons q rest =>
                have first := head_changes later
                rw [later] at ih
                refine .cons_cons ?_ ih
                exact Option.some.inj first

/-- The last change ends at the last value. -/
theorem getLast?_changes {l : List α} {p : α × α} (h : (changes l).getLast? = some p) :
    l.getLast? = some p.2 := by
  induction l using List.reverseRecOn with
  | nil => cases h
  | append_singleton l b ih =>
      rw [changes_concat] at h
      rw [List.getLast?_concat]
      cases last : l.getLast? with
      | none =>
          rw [last, changeTo, List.append_nil] at h
          have := ih h
          rw [last] at this
          cases this
      | some a =>
          rw [last, changeTo] at h
          split at h
          case isTrue same =>
            rw [List.append_nil] at h
            have := ih h
            rw [last] at this
            rw [← same]
            exact this
          case isFalse =>
            rw [List.getLast?_concat, Option.some.injEq] at h
            rw [← h]

end LocoTwin.Lib
