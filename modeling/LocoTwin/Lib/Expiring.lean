/-
# Lib.Expiring -- a key-value store whose entries expire

Each entry has a deadline, or none.  A read after the deadline finds nothing, whether or
not the entry has been collected.

* `get?_set_self`, `get?_set_ne`, `get?_del_self` read a write back;
* `All`: a property of the entries, kept by writes that have it (`All.set`, `All.del`);
* `Write.cell_apply_ne`: a write leaves the entries of the other keys as they are.
-/
import LocoTwin.Lib.Dict

namespace LocoTwin.Lib

set_option autoImplicit false

/-- Values with their deadlines. -/
structure Expiring (κ ν : Type) where
  cells : Dict κ (ν × Option Int)

namespace Expiring

variable {κ ν : Type} [DecidableEq κ]

def empty : Expiring κ ν := ⟨Dict.empty⟩

/-- An entry is there up to its deadline. -/
def live (now : Int) : Option Int → Bool
  | none => true
  | some deadline => decide (now ≤ deadline)

def get? (s : Expiring κ ν) (now : Int) (k : κ) : Option ν :=
  (s.cells.get? k).bind fun cell => if live now cell.2 then some cell.1 else none

def set (s : Expiring κ ν) (k : κ) (v : ν) (deadline : Option Int) : Expiring κ ν :=
  ⟨s.cells.set k (v, deadline)⟩

def del (s : Expiring κ ν) (k : κ) : Expiring κ ν := ⟨s.cells.pop k⟩

/-- Read and delete in one step. -/
def getdel (s : Expiring κ ν) (now : Int) (k : κ) : Option ν × Expiring κ ν :=
  (s.get? now k, s.del k)

/-! ## Reading back -/

theorem get?_eq_some {s : Expiring κ ν} {now : Int} {k : κ} {v : ν} :
    s.get? now k = some v ↔
      ∃ deadline, s.cells.get? k = some (v, deadline) ∧ live now deadline = true := by
  unfold get?
  cases found : s.cells.get? k with
  | none => simp
  | some cell =>
      obtain ⟨value, deadline⟩ := cell
      by_cases here : live now deadline = true
      · simp [here, and_comm]
      · simp only [Option.bind_some, here]
        constructor
        · intro absurd'
          cases absurd'
        · rintro ⟨deadline', same, here'⟩
          obtain ⟨-, rfl⟩ := Prod.mk.inj (Option.some.inj same)
          exact absurd here' here

@[simp] theorem get?_empty (now : Int) (k : κ) : (empty : Expiring κ ν).get? now k = none := rfl

@[simp] theorem get?_set_self (s : Expiring κ ν) (now : Int) (k : κ) (v : ν)
    (deadline : Option Int) :
    (s.set k v deadline).get? now k = if live now deadline then some v else none := by
  simp [get?, set]

theorem get?_set_ne (s : Expiring κ ν) (now : Int) {k k' : κ} (ne : k' ≠ k) (v : ν)
    (deadline : Option Int) : (s.set k v deadline).get? now k' = s.get? now k' := by
  simp [get?, set, Dict.get?_set_ne _ ne]

@[simp] theorem get?_del_self (s : Expiring κ ν) (now : Int) (k : κ) :
    (s.del k).get? now k = none := by
  simp [get?, del]

/-! ## A property of the entries -/

/-- Every entry, collected or not, has the property. -/
def All (P : κ → ν → Option Int → Prop) (s : Expiring κ ν) : Prop :=
  ∀ k v deadline, s.cells.get? k = some (v, deadline) → P k v deadline

theorem All.empty {P : κ → ν → Option Int → Prop} : All P (Expiring.empty : Expiring κ ν) := by
  intro k v deadline found
  cases found

theorem All.set {P : κ → ν → Option Int → Prop} {s : Expiring κ ν} (all : All P s) {k : κ}
    {v : ν} {deadline : Option Int} (here : P k v deadline) : All P (s.set k v deadline) := by
  intro k' v' deadline' found
  rw [Expiring.set, Dict.get?_set] at found
  split at found
  · rename_i same
    obtain ⟨rfl, rfl⟩ := Prod.mk.inj (Option.some.inj found)
    exact same ▸ here
  · exact all k' v' deadline' found

theorem All.del {P : κ → ν → Option Int → Prop} {s : Expiring κ ν} (all : All P s) (k : κ) :
    All P (s.del k) := by
  intro k' v' deadline' found
  by_cases same : k' = k
  · subst same
    rw [Expiring.del, Dict.get?_pop_self] at found
    cases found
  · rw [Expiring.del, Dict.get?_pop_ne _ same] at found
    exact all k' v' deadline' found

theorem All.imp {P Q : κ → ν → Option Int → Prop} {s : Expiring κ ν} (all : All P s)
    (weaker : ∀ k v deadline, P k v deadline → Q k v deadline) : All Q s := by
  intro k v deadline found
  exact weaker k v deadline (all k v deadline found)

/-! ## Writes -/

inductive Write (κ ν : Type) where
  | set (k : κ) (v : ν) (deadline : Option Int)
  | del (k : κ)

namespace Write

def key : Write κ ν → κ
  | .set k _ _ => k
  | .del k => k

def apply (s : Expiring κ ν) : Write κ ν → Expiring κ ν
  | .set k v deadline => s.set k v deadline
  | .del k => s.del k

/-- A write touches the entry of its own key only. -/
theorem cell_apply_ne (s : Expiring κ ν) (w : Write κ ν) {k : κ} (ne : k ≠ w.key) :
    (w.apply s).cells.get? k = s.cells.get? k := by
  cases w with
  | set k' v deadline => exact Dict.get?_set_ne _ ne _
  | del k' => exact Dict.get?_pop_ne _ ne

end Write

end Expiring

end LocoTwin.Lib
