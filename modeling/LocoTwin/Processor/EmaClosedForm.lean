/-
# Processor.EmaClosedForm -- what a filter returns after many values

The filters of all locomotives and sensors live in one dictionary, and a reset clears one
sensor or a whole locomotive.  Whatever else is called, the state of a key is the weighted
mean of the values filtered for it since its last reset (`get?_filterMachine`).

* `ema_closed_form`: every output of a run is that mean; it lies between the smallest and
  the largest of the values, and comes closer to a constant input by the factor `1 - K`.
-/
import LocoTwin.Lib.Smoothing
import LocoTwin.Lib.Transition
import LocoTwin.Processor.FilterService
import Mathlib.Data.Set.Finite.Lemmas
import Mathlib.Data.Set.Finite.List

namespace LocoTwin.Processor

open LocoTwin.Lib LocoTwin.Shared

set_option autoImplicit false

inductive FilterCall where
  | emaFilter (locomotiveId : String) (sensorType : SensorType) (rawValue : PyFloat)
  | resetFilter (locomotiveId : String) (sensorType : Option SensorType)

/-- One call after another; a reset returns nothing. -/
def filterMachine : Machine EmaState FilterCall (Option PyFloat)
  | state, .emaFilter locomotiveId sensorType rawValue =>
      let (filtered, state) := emaFilter state locomotiveId sensorType rawValue
      (state, some filtered)
  | state, .resetFilter locomotiveId sensorType => (resetFilter state locomotiveId sensorType, none)

/-- The values filtered for a key since its last reset, after one more call. -/
def keptValues (key : Key) (values : List PyFloat) : FilterCall → List PyFloat
  | .emaFilter locomotiveId sensorType rawValue =>
      if key = (locomotiveId, sensorType) then values ++ [rawValue] else values
  | .resetFilter locomotiveId (some sensorType) =>
      if key = (locomotiveId, sensorType) then [] else values
  | .resetFilter locomotiveId none => if key.1 = locomotiveId then [] else values

/-- The values filtered for a key since its last reset. -/
def sinceReset (key : Key) (calls : List FilterCall) : List PyFloat :=
  calls.foldl (keptValues key) []

theorem sinceReset_concat (key : Key) (calls : List FilterCall) (call : FilterCall) :
    sinceReset key (calls ++ [call]) = keptValues key (sinceReset key calls) call :=
  List.foldl_append

/-! ## The state of a key -/

/-- The state of a key after the values: none at the start. -/
def stateFor (key : Key) (values : List PyFloat) : Option PyFloat :=
  if values = [] then none else some (weighted (emaGain key.2) values)

theorem emaNext_stateFor (locomotiveId : String) (sensorType : SensorType)
    (values : List PyFloat) (rawValue : PyFloat) :
    emaNext sensorType (stateFor (locomotiveId, sensorType) values) rawValue =
      weighted (emaGain sensorType) (values ++ [rawValue]) := by
  unfold stateFor
  split
  case isTrue empty =>
    rw [empty, List.nil_append, weighted_singleton]
    rfl
  case isFalse some' => exact (weighted_concat _ _ some').symm

/-- One call, seen from one key. -/
theorem get?_filterCall {state : EmaState} {key : Key} {values : List PyFloat}
    (before : state.get? key = stateFor key values) (call : FilterCall) :
    (filterMachine state call).1.get? key = stateFor key (keptValues key values call) := by
  cases call with
  | emaFilter locomotiveId sensorType rawValue =>
      simp only [filterMachine, emaFilter_eq, keptValues, Dict.get?_set]
      split
      case isTrue own =>
        subst own
        rw [before, emaNext_stateFor]
        exact (if_neg (by simp)).symm
      case isFalse => exact before
  | resetFilter locomotiveId sensorType =>
      cases sensorType with
      | some sensorType =>
          simp only [filterMachine, resetFilter, keptValues]
          split
          case isTrue own =>
            rw [own, Dict.get?_pop_self]
            rfl
          case isFalse other => exact (Dict.get?_pop_ne state other).trans before
      | none =>
          simp only [filterMachine, resetFilter, keptValues, Dict.get?_restrict]
          by_cases own : key.1 = locomotiveId
          · simp [own, stateFor]
          · simpa [own] using before

/-- A key has the mean of its values since the last reset, whatever is called. -/
theorem get?_filterMachine (calls : List FilterCall) (key : Key) :
    (filterMachine.run Dict.empty calls).1.get? key = stateFor key (sinceReset key calls) := by
  induction calls using List.reverseRecOn with
  | nil => rfl
  | append_singleton calls call ih =>
      rw [Machine.run_append, sinceReset_concat]
      exact get?_filterCall ih call

/-! ## The outputs -/

/-- What an output promises, after the values `zs` since the last reset. -/
structure EmaOutput (gain : PyFloat) (zs : List PyFloat) (output : PyFloat) : Prop where
  closed : output = (1 - gain) ^ (zs.length - 1) * zs.getD 0 0 +
    ∑ i ∈ Finset.Icc 2 zs.length, gain * (1 - gain) ^ (zs.length - i) * zs.getD (i - 1) 0
  between : ∃ lo hi, IsLeast {z | z ∈ zs} lo ∧ IsGreatest {z | z ∈ zs} hi ∧
    lo ≤ output ∧ output ≤ hi
  /-- After `m` equal inputs, from the output before them. -/
  shrinks : ∀ ys m c, ys ≠ [] → zs = ys ++ List.replicate m c →
    |output - c| = (1 - gain) ^ m * |weighted gain ys - c|

theorem exists_isLeast_isGreatest {zs : List PyFloat} (some' : zs ≠ []) :
    ∃ lo hi, IsLeast {z | z ∈ zs} lo ∧ IsGreatest {z | z ∈ zs} hi := by
  have finite : {z | z ∈ zs}.Finite := zs.finite_toSet
  have nonempty : {z | z ∈ zs}.Nonempty := List.exists_mem_of_ne_nil zs some'
  obtain ⟨lo, lo_mem, least⟩ := Set.exists_min_image _ id finite nonempty
  obtain ⟨hi, hi_mem, greatest⟩ := Set.exists_max_image _ id finite nonempty
  exact ⟨lo, hi, ⟨lo_mem, least⟩, hi_mem, greatest⟩

theorem emaOutput_weighted (sensorType : SensorType) {zs : List PyFloat} (some' : zs ≠ []) :
    EmaOutput (emaGain sensorType) zs (weighted (emaGain sensorType) zs) where
  closed := rfl
  between := by
    obtain ⟨pos, le_one⟩ := emaGain_mem_unit sensorType
    obtain ⟨lo, hi, least, greatest⟩ := exists_isLeast_isGreatest some'
    refine ⟨lo, hi, least, greatest, ?_⟩
    exact weighted_mem_Icc pos.le le_one some' fun z mem => ⟨least.2 mem, greatest.2 mem⟩
  shrinks := by
    rintro ys m c before rfl
    have rest : 0 ≤ 1 - emaGain sensorType := sub_nonneg.mpr (emaGain_mem_unit sensorType).2
    rw [weighted_replicate _ c before, abs_mul, abs_pow, abs_of_nonneg rest]

/-- **Every output of a run of filters and resets** is the weighted mean of the values of its
key since the last reset. -/
theorem ema_closed_form (calls : List FilterCall) (i : Nat) (locomotiveId : String)
    (sensorType : SensorType) (rawValue : PyFloat)
    (called : calls[i]? = some (.emaFilter locomotiveId sensorType rawValue)) :
    ∃ output, (filterMachine.run Dict.empty calls).2[i]? = some (some output) ∧
      EmaOutput (emaGain sensorType)
        (sinceReset (locomotiveId, sensorType) (calls.take (i + 1))) output := by
  have before := get?_filterMachine (calls.take i) (locomotiveId, sensorType)
  have values : sinceReset (locomotiveId, sensorType) (calls.take (i + 1)) =
      sinceReset (locomotiveId, sensorType) (calls.take i) ++ [rawValue] := by
    rw [List.take_add_one, called, Option.toList_some, sinceReset_concat]
    exact if_pos rfl
  rw [values, Machine.getElem?_run, called]
  refine ⟨weighted (emaGain sensorType) _, ?_, emaOutput_weighted sensorType (by simp)⟩
  simp only [Option.map_some, filterMachine, emaFilter_eq, before, emaNext_stateFor]

/-- Two sensors of one locomotive, one of them reset. -/
def resetRun : List FilterCall :=
  [.emaFilter "A" .coolantTemp 90, .emaFilter "A" .dieselRpm 700,
    .resetFilter "A" (some .coolantTemp), .emaFilter "A" .coolantTemp 80,
    .emaFilter "A" .coolantTemp 100]

example : (filterMachine.run Dict.empty resetRun).2 =
    [some 90, some 700, none, some 80, some 82] := by decide +kernel

theorem ema_closed_form_reset : ∃ output,
    (filterMachine.run Dict.empty resetRun).2[4]? = some (some output) ∧
      EmaOutput (emaGain .coolantTemp)
        (sinceReset ("A", .coolantTemp) (resetRun.take 5)) output :=
  ema_closed_form resetRun 4 "A" .coolantTemp 100 rfl

end LocoTwin.Processor
