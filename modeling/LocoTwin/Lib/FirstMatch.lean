/-
# Lib.FirstMatch -- looking an element up by a key that may repeat

A scan returns the first element with the key it looks for.

* `find?_own_iff_nodup`: every element is found under its own key exactly when no key
  repeats, for elements that some value `g` tells apart;
* `nodup_iff_isChain_ne`: in a list in order, what repeats stands side by side.
-/
import Mathlib.Data.List.Chain
import Mathlib.Data.List.Nodup
import Mathlib.Order.Basic

namespace LocoTwin.Lib

set_option autoImplicit false

theorem find?_own_iff_nodup {α β γ : Type} [DecidableEq β] {f : α → β} {g : α → γ} {l : List α}
    (apart : (l.map g).Nodup) :
    (∀ a ∈ l, (l.find? fun b => f b == f a).map g = some (g a)) ↔ (l.map f).Nodup := by
  have elements : l.Nodup := List.Nodup.of_map g apart
  rw [List.nodup_map_iff_inj_on elements]
  constructor
  · intro own a ha b hb same
    have one := own a ha
    rw [same, own b hb] at one
    exact (List.nodup_map_iff_inj_on elements).mp apart a ha b hb (Option.some.inj one.symm)
  · intro inj a ha
    cases found : l.find? (fun b => f b == f a) with
    | none => exact absurd (beq_self_eq_true (f a)) (List.find?_eq_none.mp found a ha)
    | some b =>
        have key : f b = f a := by simpa using List.find?_some found
        rw [inj b (List.mem_of_find?_eq_some found) a ha key, Option.map_some]

/-- In a list in order, what repeats stands side by side. -/
theorem nodup_iff_isChain_ne {α : Type} [PartialOrder α] {l : List α}
    (sorted : l.Pairwise (· ≤ ·)) : l.Nodup ↔ l.IsChain (· ≠ ·) := by
  constructor
  · exact List.Pairwise.isChain
  · intro apart
    have strict : l.IsChain (· < ·) := by
      rw [List.isChain_iff_getElem] at apart ⊢
      intro i hi
      have le := List.pairwise_iff_getElem.mp sorted i (i + 1) (by omega) hi (by omega)
      exact lt_of_le_of_ne le (apart i hi)
    exact (List.isChain_iff_pairwise.mp strict).imp ne_of_lt

end LocoTwin.Lib
