/-
# Processor.CriticalThreshold -- the critical value, and the range an alert prints

`p_crit` anchors the normalised deviation: a sensor there should carry its whole
weight.  `critRange` is floored at `1e-6`, so where the safe zone reaches as far as
`p_crit` the anchor moves past it.

* **`critical_iff`**: a value at `p_crit` or beyond is scored, flagged and graded as
  critical exactly when the safe zone ends before `p_crit`, or the value is at least
  `1e-6` past it;
* **`alerts_outside_iff`**: every alert reports a value outside the range it prints
  exactly when every alerted value is strictly past `p_crit`, since that range ends at
  `p_crit` and not at the safe zone.
-/
import LocoTwin.Processor.AlertMirror

namespace LocoTwin.Processor

open LocoTwin.Lib LocoTwin.Shared

set_option autoImplicit false

/-! ## How far past the critical value -/

/-- How far a value lies past `p_crit` on the penalised side; negative before it. -/
def critDistance (value : PyFloat) (spec : SensorSpec) : PyFloat :=
  match spec.thresholdType with
  | .upperBound => value - spec.pCrit
  | .lowerBound => spec.pCrit - value
  | _ => |value - spec.pNom| - |spec.pCrit - spec.pNom|

/-- `p_crit` lies on the penalised side, not inside the safe zone, and at least the
floor of `critRange` from a safe zone that ends before it. -/
structure Anchored (spec : SensorSpec) : Prop where
  upper : spec.thresholdType = .upperBound → spec.pNom ≤ spec.pCrit
  lower : spec.thresholdType = .lowerBound → spec.pCrit ≤ spec.pNom
  reach : spec.deltaSafe ≤ |spec.pCrit - spec.pNom|
  apart : spec.deltaSafe < |spec.pCrit - spec.pNom| →
    1 / 10 ^ 6 ≤ |spec.pCrit - spec.pNom| - spec.deltaSafe

instance (spec : SensorSpec) : Decidable (Anchored spec) :=
  decidable_of_iff
    ((spec.thresholdType = .upperBound → spec.pNom ≤ spec.pCrit) ∧
      (spec.thresholdType = .lowerBound → spec.pCrit ≤ spec.pNom) ∧
      spec.deltaSafe ≤ |spec.pCrit - spec.pNom| ∧
      (spec.deltaSafe < |spec.pCrit - spec.pNom| →
        1 / 10 ^ 6 ≤ |spec.pCrit - spec.pNom| - spec.deltaSafe))
    ⟨fun ⟨a, b, c, d⟩ => ⟨a, b, c, d⟩, fun ⟨a, b, c, d⟩ => ⟨a, b, c, d⟩⟩

theorem locoSpecs_anchored (type : LocomotiveType) :
    ∀ e ∈ (locoSpecs type).entries, Anchored e.2 := by
  cases type <;> decide +kernel

theorem anchored_of_get? {type : LocomotiveType} {key : SensorType} {spec : SensorSpec}
    (found : (locoSpecs type).get? key = some spec) : Anchored spec :=
  locoSpecs_anchored type _ (Dict.get?_eq_some.mp found)

theorem rawDeviation_past {value : PyFloat} {spec : SensorSpec} (wf : spec.Wellformed)
    (anchored : Anchored spec) (past : 0 ≤ critDistance value spec) :
    rawDeviation value spec = |spec.pCrit - spec.pNom| + critDistance value spec := by
  unfold critDistance at past ⊢
  unfold rawDeviation
  cases kind : spec.thresholdType with
  | bidirectional => simp
  | upperBound =>
      simp only [kind] at past ⊢
      have side := anchored.upper kind
      rw [abs_of_nonneg (by linarith), max_eq_right (by linarith)]
      ring
  | lowerBound =>
      simp only [kind] at past ⊢
      have side := anchored.lower kind
      rw [abs_of_nonpos (by linarith), max_eq_right (by linarith)]
      ring
  | exactMatch => exact absurd kind wf.not_exact

theorem normalizedExceedance_eq_one_iff (value : PyFloat) (spec : SensorSpec) :
    normalizedExceedance value spec = 1 ↔
      spec.critRange ≤ rawDeviation value spec - spec.deltaSafe := by
  have pos := spec.critRange_pos
  rw [normalizedExceedance, min_eq_left_iff, le_div_iff₀ pos, one_mul, le_max_iff,
    or_iff_right (not_le.mpr pos)]

/-! ## The critical value is critical -/

/-- The sensor carries its full weight at deviation 100, is flagged, and is graded
`EMERGENCY`. -/
def FullyCritical (M : PyMath) (value : PyFloat) (spec : SensorSpec) : Prop :=
  sensorPenalty M value spec = (spec.weight, 100) ∧ thresholdViolated value spec = true ∧
    severityFromSpec value spec = .emergency

theorem fullyCritical_iff_normalized {M : PyMath} (laws : M.PowLaws) (value : PyFloat)
    {spec : SensorSpec} (wf : spec.Wellformed) :
    FullyCritical M value spec ↔ normalizedExceedance value spec = 1 := by
  constructor
  · rintro ⟨scored, -, -⟩
    have percent : normalizedExceedance value spec * 100 = 100 := congrArg Prod.snd scored
    linarith
  · intro full
    have reached := (normalizedExceedance_eq_one_iff value spec).mp full
    have pos := spec.critRange_pos
    refine ⟨?_, ?_, ?_⟩
    · simp only [sensorPenalty, full]
      rw [laws.one _ wf.k_pos, mul_one, one_mul]
    · rw [thresholdViolated_iff value wf]
      linarith
    · rw [severityFromSpec_normalized value wf, full]
      exact if_pos (.inl (by norm_num))

/-- **The critical value is critical exactly where the safe zone ends before it, or
from `1e-6` past it on.** -/
theorem critical_iff {M : PyMath} (laws : M.PowLaws) {type : LocomotiveType} {key : SensorType}
    {spec : SensorSpec} (found : (locoSpecs type).get? key = some spec) {value : PyFloat}
    (past : 0 ≤ critDistance value spec) :
    FullyCritical M value spec ↔
      spec.deltaSafe < |spec.pCrit - spec.pNom| ∨ 1 / 10 ^ 6 ≤ critDistance value spec := by
  have wf := wellformed_of_get? found
  have anchored := anchored_of_get? found
  have reach := anchored.reach
  rw [fullyCritical_iff_normalized laws value wf, normalizedExceedance_eq_one_iff,
    rawDeviation_past wf anchored past, SensorSpec.critRange, max_le_iff]
  constructor
  · rintro ⟨floor, -⟩
    by_cases open' : spec.deltaSafe < |spec.pCrit - spec.pNom|
    · exact .inl open'
    · exact .inr (by linarith)
  · rintro (open' | beyond)
    · have apart := anchored.apart open'
      exact ⟨by linarith, by linarith⟩
    · exact ⟨by linarith, by linarith⟩

theorem critical_iff_oilPressure : FullyCritical PyMath.onIntegers 1.5 oilPressureSpec :=
  (@critical_iff _ PyMath.onIntegers_powLaws .te33a .oilPressure oilPressureSpec rfl 1.5
    (by decide +kernel)).mpr (.inl (by decide +kernel))

/-- Coolant at its critical 95 degrees: no penalty, no alert, grade `INFO`. -/
theorem coolant_at_critical :
    ∃ spec, (locoSpecs .te33a).get? .coolantTemp = some spec ∧ spec.pCrit = 95 ∧
      0 ≤ critDistance 95 spec ∧ sensorPenalty PyMath.onIntegers 95 spec = (0, 0) ∧
      thresholdViolated 95 spec = false ∧ severityFromSpec 95 spec = .info ∧
      ¬FullyCritical PyMath.onIntegers 95 spec := by
  refine ⟨_, rfl, rfl, ?_⟩
  unfold FullyCritical
  decide +kernel

/-! ## The range an alert prints -/

/-- The value lies strictly outside the range the event carries. -/
def OutsideRange (event : AlertEvent) : Prop :=
  event.value < event.thresholdMin ∨ event.thresholdMax < event.value

instance (event : AlertEvent) : Decidable (OutsideRange event) :=
  inferInstanceAs (Decidable (_ ∨ _))

/-- A value out of the safe zone is outside the permitted range exactly when it is
strictly past `p_crit`. -/
theorem outside_permittedRange_iff {value : PyFloat} {spec : SensorSpec} (wf : spec.Wellformed)
    (violated : thresholdViolated value spec = true) :
    (value < (permittedRange spec).1 ∨ (permittedRange spec).2 < value) ↔
      0 < critDistance value spec := by
  have safe := wf.deltaSafe_nonneg
  unfold permittedRange critDistance
  unfold thresholdViolated at violated
  cases kind : spec.thresholdType with
  | bidirectional =>
      simp only
      rw [sub_pos, lt_abs]
      constructor
      · rintro (low | high)
        · exact .inr (by linarith)
        · exact .inl (by linarith)
      · rintro (high | low)
        · exact .inr (by linarith)
        · exact .inl (by linarith)
  | upperBound =>
      simp only [kind, decide_eq_true_eq] at violated ⊢
      rw [or_iff_right (by linarith), sub_pos]
  | lowerBound =>
      simp only [kind, decide_eq_true_eq] at violated ⊢
      rw [or_iff_left (by linarith), sub_pos]
  | exactMatch => exact absurd kind wf.not_exact

theorem alertEvent_outside_iff {id : UUID} {now : Datetime} {reading : TelemetryReading}
    {key : SensorType} {spec : SensorSpec} {value : PyFloat} (wf : spec.Wellformed)
    (violated : thresholdViolated value spec = true) :
    OutsideRange (alertEvent id now reading key spec value) ↔ 0 < critDistance value spec :=
  outside_permittedRange_iff wf violated

/-- **Every alert of a reading reports a value outside its printed range exactly when
every alerted value is strictly past `p_crit`.** -/
theorem alerts_outside_iff (stamps : AlertStamps) (reading : TelemetryReading) :
    (∀ event ∈ evaluateAlerts stamps reading, OutsideRange event) ↔
      ∀ key spec value, (locoSpecs reading.locomotiveType).get? key = some spec →
        Alerted reading key spec value → 0 < critDistance value spec := by
  constructor
  · intro outside key spec value listed alerted
    have reported := (mem_evaluateAlerts_iff stamps reading key).mpr ⟨spec, value, listed, alerted⟩
    obtain ⟨event, mem, rfl⟩ := List.mem_map.mp reported
    obtain ⟨spec', id, listed', alerted', eq⟩ := mem_alertLoop_event mem
    -- the event is that of this specification and of this value
    obtain rfl : spec' = spec := by
      rw [Dict.get?_eq_some.mpr listed'] at listed
      exact Option.some.inj listed
    obtain rfl : event.value = value := by
      have present := alerted.1
      rw [alerted'.1] at present
      exact Option.some.inj present
    have here := outside event mem
    rw [eq] at here
    exact (alertEvent_outside_iff (wellformed_of_get? listed) alerted'.2.2.2).mp here
  · intro past event mem
    obtain ⟨spec, id, listed, alerted, eq⟩ := mem_alertLoop_event mem
    have found := Dict.get?_eq_some.mpr listed
    rw [eq]
    exact (alertEvent_outside_iff (wellformed_of_get? found) alerted.2.2.2).mpr
      (past _ spec _ found alerted)

/-- A diesel engine that turns at 950, out of its safe zone and short of 1050. -/
def fastEngine : TelemetryReading where
  locomotiveId := 7
  locomotiveType := .te33a
  timestamp := 0
  sensors := [⟨.dieselRpm, 950, "rpm"⟩]

theorem fastEngine_reports_permitted :
    (evaluateAlerts ⟨fun _ => 0, 0⟩ fastEngine).map
        (fun e => (e.sensorType, e.value, e.thresholdMin, e.thresholdMax)) =
      [(.dieselRpm, 950, 500, 1050)] ∧
    ¬∀ event ∈ evaluateAlerts ⟨fun _ => 0, 0⟩ fastEngine, OutsideRange event := by
  decide +kernel

end LocoTwin.Processor
