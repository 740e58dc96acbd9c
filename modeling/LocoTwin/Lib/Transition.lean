/-
# Lib.Transition -- labelled transition systems, their runs and their invariants

A `System` is a set of initial states and a labelled step relation.  What a
system can do is its `Reachable` states; an invariant is a predicate that holds
in all of them, and `Reachable.invariant` is the only induction on runs the
rest of the development uses.

* `System.where'`: the same system with every step guarded by a condition on the
  state before it and on its label.  Its reachable states are those of the runs
  whose steps all meet the condition (`Reachable.guarded` takes one such step).
* `Reachable.simulated`: forward simulation by another system, with stuttering.
* `System.Run`: a run with its labels, for what depends on the order of events.
  `Run.where'_iff` takes a condition that is exact at every step to the runs, and
  `Run.guarded_iff` one without which a step breaks what it should keep.

`Machine` is the deterministic counterpart: a state, an input, a next state and
an output.  `Machine.run` threads a list of inputs through it.

* `run_lockstep`: two machines whose steps keep a relation of their states and a
  function of their outputs keep both over a run;
* `run_filter`: the unwinding theorem.  If a view of the state is changed only
  by the inputs of one party, and the outputs of that party's inputs are a
  function of the view, then the party sees what it would see alone;
* `run_iff`: a condition that is exact for every input is exact over a run.
-/
import Mathlib.Data.List.Forall2
import Mathlib.Data.List.Induction

namespace LocoTwin.Lib

set_option autoImplicit false

/-- Initial states and labelled steps. -/
structure System (σ ι : Type) where
  init : σ → Prop
  step : σ → ι → σ → Prop

namespace System

variable {σ ι : Type}

/-- The same system, each step guarded by a condition on the state it leaves. -/
def where' (S : System σ ι) (C : σ → ι → Prop) : System σ ι where
  init := S.init
  step s l s' := C s l ∧ S.step s l s'

inductive Reachable (S : System σ ι) : σ → Prop where
  | init {s : σ} : S.init s → Reachable S s
  | step {s s' : σ} {l : ι} : Reachable S s → S.step s l s' → Reachable S s'

namespace Reachable

variable {S : System σ ι}

/-- What holds initially and is kept by every step from a reachable state holds
in every reachable state. -/
theorem invariant {I : σ → Prop} {s : σ} (reach : S.Reachable s)
    (start : ∀ s, S.init s → I s)
    (kept : ∀ s l s', I s → S.step s l s' → I s') : I s := by
  induction reach with
  | init h => exact start _ h
  | step _ h ih => exact kept _ _ _ ih h

/-- Forward simulation: where the other system can answer each step with a step or by
standing still, its reachable states cover these. -/
theorem simulated {τ κ : Type} {T : System τ κ} {R : σ → τ → Prop} {s : σ}
    (reach : S.Reachable s) (start : ∀ s, S.init s → ∃ t, T.init t ∧ R s t)
    (kept : ∀ s l s' t, R s t → S.step s l s' → R s' t ∨ ∃ k t', T.step t k t' ∧ R s' t') :
    ∃ t, T.Reachable t ∧ R s t := by
  induction reach with
  | init h =>
      obtain ⟨t, initial, related⟩ := start _ h
      exact ⟨t, .init initial, related⟩
  | step _ step ih =>
      obtain ⟨t, reach, related⟩ := ih
      rcases kept _ _ _ _ related step with still | ⟨k, t', moved, related'⟩
      · exact ⟨t, reach, still⟩
      · exact ⟨t', reach.step moved, related'⟩

/-- A step that meets the condition, in the guarded system. -/
theorem guarded {C : σ → ι → Prop} {s s' : σ} {l : ι} (reach : (S.where' C).Reachable s)
    (step : S.step s l s') (allowed : C s l) : (S.where' C).Reachable s' :=
  .step reach ⟨allowed, step⟩

end Reachable

/-- A run, with its labels from the first to the last. -/
inductive Run (S : System σ ι) : σ → List ι → σ → Prop where
  | nil (s : σ) : Run S s [] s
  | snoc {s t u : σ} {ls : List ι} {l : ι} : Run S s ls t → S.step t l u → Run S s (ls ++ [l]) u

namespace Run

variable {S : System σ ι}

theorem reachable {s t : σ} {ls : List ι} (run : S.Run s ls t) (from' : S.Reachable s) :
    S.Reachable t := by
  induction run with
  | nil => exact from'
  | snoc _ step ih => exact .step ih step

/-- A preorder that every step from a reachable state respects is respected by every
run. -/
theorem respects {R : σ → σ → Prop} (refl : ∀ s, R s s)
    (trans : ∀ s t u, R s t → R t u → R s u) {s t : σ} {ls : List ι} (run : S.Run s ls t)
    (from' : S.Reachable s) (kept : ∀ s l t, S.Reachable s → S.step s l t → R s t) : R s t := by
  induction run with
  | nil => exact refl s
  | snoc run step ih => exact trans _ _ _ ih (kept _ _ _ (run.reachable from') step)

/-- What holds at the start and is kept by the steps of the run holds at its end. -/
theorem invariant {I : σ → Prop} {s t : σ} {ls : List ι} (run : S.Run s ls t) (start : I s)
    (kept : ∀ s l t, l ∈ ls → I s → S.step s l t → I t) : I t := by
  induction run with
  | nil => exact start
  | snoc _ step ih =>
      refine kept _ _ _ (by simp) (ih ?_) step
      exact fun s l t mem => kept s l t (List.mem_append_left _ mem)

theorem append {s t u : σ} {ls ks : List ι} (run : S.Run s ls t) (rest : S.Run t ks u) :
    S.Run s (ls ++ ks) u := by
  induction rest with
  | nil => simpa using run
  | snoc _ step ih =>
      rw [← List.append_assoc]
      exact .snoc ih step

theorem cons {s t u : σ} {l : ι} {ls : List ι} (step : S.step s l t) (rest : S.Run t ls u) :
    S.Run s (l :: ls) u :=
  (Run.snoc (.nil s) step).append rest

theorem nil_inv {s t : σ} (run : S.Run s [] t) : s = t := by
  generalize same : ([] : List ι) = ls at run
  cases run with
  | nil => rfl
  | snoc _ _ => simp at same

theorem snoc_inv {s u : σ} {ls : List ι} {l : ι} (run : S.Run s (ls ++ [l]) u) :
    ∃ t, S.Run s ls t ∧ S.step t l u := by
  generalize same : ls ++ [l] = all at run
  cases run with
  | nil => simp at same
  | snoc run step =>
      obtain ⟨rfl, last⟩ := List.append_inj' same rfl
      cases last
      exact ⟨_, run, step⟩

theorem single_inv {s u : σ} {l : ι} (run : S.Run s [l] u) : S.step s l u := by
  rw [← List.nil_append [l]] at run
  obtain ⟨t, none, step⟩ := run.snoc_inv
  rwa [none.nil_inv]

theorem split {s u : σ} {ls ks : List ι} (run : S.Run s (ls ++ ks) u) :
    ∃ t, S.Run s ls t ∧ S.Run t ks u := by
  induction ks using List.reverseRecOn generalizing u with
  | nil => exact ⟨u, by simpa using run, .nil u⟩
  | append_singleton ks k ih =>
      rw [← List.append_assoc] at run
      obtain ⟨v, run, step⟩ := run.snoc_inv
      obtain ⟨t, first, rest⟩ := ih run
      exact ⟨t, first, .snoc rest step⟩

theorem unguarded {C : σ → ι → Prop} {s t : σ} {ls : List ι} (run : (S.where' C).Run s ls t) :
    S.Run s ls t := by
  induction run with
  | nil => exact .nil _
  | snoc _ step ih => exact .snoc ih step.2

/-- A step that meets the condition, at the end of a run of the guarded system. -/
theorem guarded {C : σ → ι → Prop} {s t u : σ} {ls : List ι} {l : ι}
    (run : (S.where' C).Run s ls t) (step : S.step t l u) (allowed : C t l) :
    (S.where' C).Run s (ls ++ [l]) u :=
  run.snoc ⟨allowed, step⟩

/-- In a system whose steps are functions of state and label, so are its runs. -/
theorem unique (det : ∀ s l t u, S.step s l t → S.step s l u → t = u) {s t u : σ} {ls : List ι}
    (run : S.Run s ls t) (run' : S.Run s ls u) : t = u := by
  induction run generalizing u with
  | nil => exact run'.nil_inv
  | snoc _ step ih =>
      obtain ⟨t', first, step'⟩ := run'.snoc_inv
      obtain rfl := ih first
      exact det _ _ _ _ step step'

/-- What the steps that meet the condition keep, over a run of such steps. -/
theorem guarded_invariant {C : σ → ι → Prop} {I : σ → Prop} {s t : σ} {ls : List ι}
    (run : (S.where' C).Run s ls t) (start : I s)
    (kept : ∀ s l t, l ∈ ls → I s → C s l → S.step s l t → I t) : I t :=
  run.invariant start fun s l t mem inv step => kept s l t mem inv step.1 step.2

/-- **A condition necessary at every step is exact over runs.**  When an invariant `I` is
kept by the steps that meet `C`, has `Q` as a consequence, and a step that does not meet `C`
leads out of `Q`, the states of a run all have `Q` exactly when every step of it meets `C`. -/
theorem guarded_iff (det : ∀ s l t u, S.step s l t → S.step s l u → t = u) {I Q : σ → Prop}
    {C : σ → ι → Prop} {s t : σ} {ls : List ι} (run : S.Run s ls t) (start : I s)
    (kept : ∀ s l t, l ∈ ls → I s → C s l → S.step s l t → I t) (seen : ∀ s, I s → Q s)
    (broken : ∀ s l t, l ∈ ls → I s → ¬C s l → S.step s l t → ¬Q t) :
    (∀ pre u, pre <+: ls → S.Run s pre u → Q u) ↔ (S.where' C).Run s ls t := by
  constructor
  · intro all
    induction run with
    | nil => exact .nil _
    | @snoc t u ks k run step ih =>
        have sooner : ∀ l, l ∈ ks → l ∈ ks ++ [k] := fun l mem => List.mem_append_left _ mem
        have kept' : ∀ s l t, l ∈ ks → I s → C s l → S.step s l t → I t :=
          fun s l t mem => kept s l t (sooner l mem)
        have guarded := ih kept' (fun s l t mem => broken s l t (sooner l mem))
          fun pre v sub => all pre v (sub.trans (List.prefix_append _ _))
        have inv : I t := guarded.guarded_invariant start kept'
        have after : Q u := all (ks ++ [k]) u (List.prefix_refl _) (.snoc run step)
        refine .snoc guarded ⟨?_, step⟩
        by_contra unmet
        exact broken t k u (by simp) inv unmet step after
  · rintro guarded pre u ⟨post, rfl⟩ short
    obtain ⟨v, first, -⟩ := guarded.split
    obtain rfl := unique det short first.unguarded
    refine seen u (first.guarded_invariant start ?_)
    exact fun s l t mem => kept s l t (List.mem_append_left _ mem)

/-- **A condition exact at every step is exact over runs.**  When from a state with `P` a
step keeps `P` exactly under `C`, the states of a run all have `P` exactly when every step
of it meets `C`. -/
theorem where'_iff (det : ∀ s l t u, S.step s l t → S.step s l u → t = u) {I P : σ → Prop}
    {C : σ → ι → Prop} {s t : σ} {ls : List ι} (run : S.Run s ls t) (start : I s) (holds : P s)
    (kept : ∀ s l t, l ∈ ls → I s → S.step s l t → I t)
    (exact' : ∀ s l t, l ∈ ls → I s → P s → S.step s l t → (P t ↔ C s l)) :
    (∀ pre u, pre <+: ls → S.Run s pre u → P u) ↔ (S.where' C).Run s ls t := by
  refine run.guarded_iff det (I := fun s => I s ∧ P s) ⟨start, holds⟩ ?_ (fun s both => both.2) ?_
  · rintro s l t mem ⟨inv, before⟩ cond step
    exact ⟨kept s l t mem inv step, (exact' s l t mem inv before step).mpr cond⟩
  · rintro s l t mem ⟨inv, before⟩ unmet step after
    exact unmet ((exact' s l t mem inv before step).mp after)

end Run

end System

/-! ## Deterministic machines -/

/-- One step of a deterministic machine: next state and output. -/
abbrev Machine (σ ι ο : Type) := σ → ι → σ × ο

namespace Machine

variable {σ τ ι κ ο ω : Type}

/-- Thread a list of inputs through a machine. -/
def run (M : Machine σ ι ο) : σ → List ι → σ × List ο
  | s, [] => (s, [])
  | s, i :: is =>
      let now := M s i
      let later := run M now.1 is
      (later.1, now.2 :: later.2)

@[simp] theorem run_nil (M : Machine σ ι ο) (s : σ) : M.run s [] = (s, []) := rfl

@[simp] theorem run_cons (M : Machine σ ι ο) (s : σ) (i : ι) (is : List ι) :
    M.run s (i :: is) =
      ((M.run (M s i).1 is).1, (M s i).2 :: (M.run (M s i).1 is).2) := rfl

theorem length_run (M : Machine σ ι ο) (s : σ) (is : List ι) :
    (M.run s is).2.length = is.length := by
  induction is generalizing s with
  | nil => rfl
  | cons i is ih => simp [ih]

theorem run_append (M : Machine σ ι ο) (s : σ) (is js : List ι) :
    M.run s (is ++ js) =
      ((M.run (M.run s is).1 js).1, (M.run s is).2 ++ (M.run (M.run s is).1 js).2) := by
  induction is generalizing s with
  | nil => rfl
  | cons i is ih => simp [ih]

/-- An output is that of its input in the state the earlier ones leave. -/
theorem getElem?_run (M : Machine σ ι ο) (s : σ) (is : List ι) (n : ℕ) :
    (M.run s is).2[n]? = is[n]?.map fun i => (M (M.run s (is.take n)).1 i).2 := by
  induction is generalizing s n with
  | nil => rfl
  | cons i is ih =>
      cases n with
      | zero => rfl
      | succ n => simpa using ih (M s i).1 n

/-- What holds of the state and is kept by every step holds after a run. -/
theorem run_invariant {M : Machine σ ι ο} {I : σ → Prop} (kept : ∀ s i, I s → I (M s i).1)
    {s : σ} (start : I s) (is : List ι) : I (M.run s is).1 := by
  induction is generalizing s with
  | nil => exact start
  | cons i is ih => exact ih (kept _ _ start)

/-- Two machines in lockstep: states stay related and outputs agree through `f`
and `g`, when every step keeps both. -/
theorem run_lockstep {M : Machine σ ι ο} {N : Machine τ κ ω} {R : σ → τ → Prop}
    {α : Type} {f : ο → α} {g : ω → α} {h : ι → κ → Prop}
    (lock : ∀ s t i j, R s t → h i j → R (M s i).1 (N t j).1 ∧ f (M s i).2 = g (N t j).2)
    {s : σ} {t : τ} (start : R s t) {is : List ι} {js : List κ} (paired : List.Forall₂ h is js) :
    R (M.run s is).1 (N.run t js).1 ∧
      (M.run s is).2.map f = (N.run t js).2.map g := by
  induction paired generalizing s t with
  | nil => exact ⟨start, rfl⟩
  | cons hij _ ih =>
      obtain ⟨next, same⟩ := lock _ _ _ _ start hij
      obtain ⟨last, rest⟩ := ih next
      exact ⟨last, by simp [same, rest]⟩

/-- **Unwinding.**  `own i` marks one party's inputs.  When the party's view of
the state is left alone by every other input, and on the party's own inputs the
next view and the observed output are functions of the view, the view after a
run and the outputs of the party's inputs are those of the run that holds only
the party's inputs.  It is enough to ask this of the inputs of the run. -/
theorem run_filter_on {M : Machine σ ι ο} {ν α : Type} (view : σ → ν) (own : ι → Bool)
    (obs : ο → α) {is : List ι}
    (hidden : ∀ s, ∀ i ∈ is, own i = false → view (M s i).1 = view s)
    (local' : ∀ s t, ∀ i ∈ is, own i = true → view s = view t →
      view (M s i).1 = view (M t i).1 ∧ obs (M s i).2 = obs (M t i).2)
    {s t : σ} (same : view s = view t) :
    view (M.run s is).1 = view (M.run t (is.filter own)).1 ∧
      ((is.zip (M.run s is).2).filter fun e => own e.1).map (fun e => obs e.2) =
        (M.run t (is.filter own)).2.map obs := by
  induction is generalizing s t with
  | nil => exact ⟨same, rfl⟩
  | cons i is ih =>
      have later {s t : σ} (same : view s = view t) :=
        ih (fun s j mem => hidden s j (List.mem_cons_of_mem i mem))
          (fun s t j mem => local' s t j (List.mem_cons_of_mem i mem)) same
      cases mine : own i with
      | false =>
          have step := later ((hidden s i List.mem_cons_self mine).trans same)
          simpa [mine] using step
      | true =>
          obtain ⟨view_eq, obs_eq⟩ := local' s t i List.mem_cons_self mine same
          have step := later view_eq
          simpa [mine, obs_eq] using step

theorem run_filter {M : Machine σ ι ο} {ν α : Type} (view : σ → ν) (own : ι → Bool)
    (obs : ο → α)
    (hidden : ∀ s i, own i = false → view (M s i).1 = view s)
    (local' : ∀ s t i, own i = true → view s = view t →
      view (M s i).1 = view (M t i).1 ∧ obs (M s i).2 = obs (M t i).2)
    {s t : σ} (same : view s = view t) (is : List ι) :
    view (M.run s is).1 = view (M.run t (is.filter own)).1 ∧
      ((is.zip (M.run s is).2).filter fun e => own e.1).map (fun e => obs e.2) =
        (M.run t (is.filter own)).2.map obs :=
  run_filter_on view own obs (fun s i _ => hidden s i) (fun s t i _ => local' s t i) same

/-- A condition that is exact for every input is exact over a run: the states it goes
through all have `P` exactly when every input meets `C` in the state it finds. -/
theorem run_iff {M : Machine σ ι ο} {P : σ → Prop} {C : σ → ι → Prop}
    (exact' : ∀ s i, P s → (P (M s i).1 ↔ C s i)) {s : σ} (start : P s) (is : List ι) :
    (∀ pre, pre <+: is → P (M.run s pre).1) ↔
      ∀ pre i post, is = pre ++ i :: post → C (M.run s pre).1 i := by
  constructor
  · rintro all pre i post rfl
    have before : P (M.run s pre).1 := all pre (List.prefix_append _ _)
    have after : P (M.run s (pre ++ [i])).1 := all (pre ++ [i]) ⟨post, by simp⟩
    rw [run_append] at after
    exact (exact' _ i before).mp after
  · rintro met pre ⟨post, rfl⟩
    induction pre using List.reverseRecOn generalizing post with
    | nil => exact start
    | append_singleton pre i ih =>
        have here := met pre i post (by simp)
        have before := ih (i :: post) (by simpa using met)
        rw [run_append]
        exact (exact' _ i before).mpr here

end Machine

end LocoTwin.Lib
