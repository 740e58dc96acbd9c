/-
# Lib.Fairness -- fair runs and what they reach

A `FairRun` is an infinite run of a system that is weakly fair to some parties: a
party that can take a step from some time on takes one.  Steps of nobody's, such as
those of an environment, come as they like.

* `FairRun.reaches` is the rule for termination.  A `Ranking` has a measure that no
  step raises and names, in each state short of the goal, a helpful party, whose steps
  lower the measure and which stays helpful as long as the measure stays;
* `exists_fairRun`: where some step is always possible there is a fair run from every
  state, which gives each party its turn.  Without it a statement about all fair runs
  could hold for want of one.
-/
import LocoTwin.Lib.Transition
import Mathlib.Order.WellFounded
import Mathlib.Data.Nat.Basic

namespace LocoTwin.Lib

set_option autoImplicit false

namespace System

variable {σ ι : Type}

/-- The party can take a step. -/
def Enabled (S : System σ ι) (s : σ) (l : ι) : Prop := ∃ t, S.step s l t

/-- An infinite run, weakly fair to the parties. -/
structure FairRun (S : System σ ι) (parties : ι → Prop) where
  state : Nat → σ
  label : Nat → ι
  step : ∀ n, S.step (state n) (label n) (state (n + 1))
  fair : ∀ l, parties l → ∀ start, (∀ n, start ≤ n → S.Enabled (state n) l) →
    ∃ n, start ≤ n ∧ label n = l

/-- How the states with `I` come closer to `F`. -/
structure Ranking (S : System σ ι) (parties : ι → Prop) (I F : σ → Prop) (α : Type)
    [LT α] where
  measure : σ → α
  helps : σ → ι → Prop
  helped : ∀ s, I s → ¬F s → ∃ l, parties l ∧ helps s l
  enabled : ∀ s l, I s → ¬F s → helps s l → S.Enabled s l
  kept : ∀ s l t, I s → ¬F s → S.step s l t → F t ∨ I t
  lowers : ∀ s l t, I s → ¬F s → helps s l → S.step s l t → F t ∨ measure t < measure s
  steady : ∀ s l t, I s → ¬F s → S.step s l t → F t ∨ measure t < measure s ∨
    measure t = measure s ∧ ∀ k, helps s k → helps t k

namespace FairRun

variable {S : System σ ι} {parties : ι → Prop} {I F : σ → Prop}

/-- What every step keeps holds along the run. -/
theorem invariant (run : S.FairRun parties) (start : I (run.state 0))
    (kept : ∀ s l t, I s → S.step s l t → I t) (n : Nat) : I (run.state n) := by
  induction n with
  | zero => exact start
  | succ n ih => exact kept _ _ _ ih (run.step n)

theorem kept_upto (run : S.FairRun parties)
    (kept : ∀ s l t, I s → ¬F s → S.step s l t → F t ∨ I t) (never : ∀ n, ¬F (run.state n))
    {m : Nat} (start : I (run.state m)) (n : Nat) : I (run.state (m + n)) := by
  induction n with
  | zero => exact start
  | succ n ih => exact (kept _ _ _ ih (never _) (run.step _)).resolve_left (never _)

/-- Short of the goal the measure falls at some time. -/
theorem exists_lower {α : Type} [LT α] (run : S.FairRun parties)
    (rank : S.Ranking parties I F α) (never : ∀ n, ¬F (run.state n)) {m : Nat}
    (start : I (run.state m)) :
    ∃ n, m ≤ n ∧ rank.measure (run.state n) < rank.measure (run.state m) := by
  by_contra stays
  push Not at stays
  obtain ⟨l, party, helpful⟩ := rank.helped _ start (never m)
  have inv := run.kept_upto rank.kept never start
  -- as long as the measure stays, the helpful party stays helpful
  have same : ∀ n, rank.measure (run.state (m + n)) = rank.measure (run.state m) ∧
      rank.helps (run.state (m + n)) l := by
    intro n
    induction n with
    | zero => exact ⟨rfl, helpful⟩
    | succ n ih =>
        rcases rank.steady _ _ _ (inv n) (never _) (run.step _) with goal | lower | ⟨eq, keeps⟩
        · exact absurd goal (never _)
        · exact absurd (ih.1 ▸ lower) (stays (m + n + 1) (by omega))
        · exact ⟨eq.trans ih.1, keeps l ih.2⟩
  have shift : ∀ n, m ≤ n → ∃ k, n = m + k := fun n le => ⟨n - m, by omega⟩
  obtain ⟨n, le, turn⟩ := run.fair l party m (by
    intro n le
    obtain ⟨k, rfl⟩ := shift n le
    exact rank.enabled _ _ (inv k) (never _) (same k).2)
  obtain ⟨k, rfl⟩ := shift n le
  rcases rank.lowers _ _ _ (inv k) (never _) (same k).2 (turn ▸ run.step _) with goal | lower
  · exact never _ goal
  · exact stays (m + k + 1) (by omega) ((same k).1 ▸ lower)

/-- **A fair run of a ranked system reaches its goal.** -/
theorem reaches {α : Type} [LT α] [WellFoundedLT α] (run : S.FairRun parties)
    (rank : S.Ranking parties I F α) (start : I (run.state 0)) : ∃ n, F (run.state n) := by
  by_contra none
  have never : ∀ n, ¬F (run.state n) := fun n goal => none ⟨n, goal⟩
  have inv := run.kept_upto rank.kept never start
  suffices absurd' : ∀ a : α, ∀ n, rank.measure (run.state n) = a → False from
    absurd' _ 0 rfl
  intro a
  induction a using WellFoundedLT.induction with
  | ind a ih =>
      rintro n rfl
      obtain ⟨k, -, lower⟩ := run.exists_lower rank never (by simpa using inv n)
      exact ih _ lower k rfl

end FairRun

/-- The party whose turn it is. -/
def turn (parties : List ι) (idle : ι) (n : Nat) : ι :=
  (parties[n % parties.length]?).getD idle

theorem exists_turn {parties : List ι} {idle l : ι} (mem : l ∈ parties) (start : Nat) :
    ∃ n, start ≤ n ∧ turn parties idle n = l := by
  obtain ⟨i, lt, rfl⟩ := List.getElem_of_mem mem
  refine ⟨parties.length * start + i, ?_, ?_⟩
  · have := Nat.le_mul_of_pos_left start (show 0 < parties.length by omega)
    omega
  · rw [turn, Nat.mul_add_mod, Nat.mod_eq_of_lt lt, List.getElem?_eq_getElem lt,
      Option.getD_some]

/-- **From every state there is a fair run**, where one step is always possible. -/
theorem exists_fairRun {S : System σ ι} (parties : List ι) {idle : ι}
    (always : ∀ s, S.Enabled s idle) (s₀ : σ) :
    ∃ run : S.FairRun (· ∈ parties), run.state 0 = s₀ := by
  have next : ∀ n s, ∃ out : ι × σ, S.step s out.1 out.2 ∧
      (S.Enabled s (turn parties idle n) → out.1 = turn parties idle n) := by
    intro n s
    by_cases able : S.Enabled s (turn parties idle n)
    · obtain ⟨t, step⟩ := able
      exact ⟨(_, t), step, fun _ => rfl⟩
    · obtain ⟨t, step⟩ := always s
      exact ⟨(idle, t), step, fun able' => absurd able' able⟩
  choose out stepped turned using next
  let state : Nat → σ := fun n => Nat.rec s₀ (fun n s => (out n s).2) n
  refine ⟨⟨state, fun n => (out n (state n)).1, fun n => stepped n (state n), ?_⟩, rfl⟩
  intro l mem start able
  obtain ⟨n, le, own⟩ := exists_turn mem start
  exact ⟨n, le, (turned n (state n) (own ▸ able n le)).trans own⟩

end System

end LocoTwin.Lib
