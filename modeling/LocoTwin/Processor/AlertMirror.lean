/-
# Processor.AlertMirror -- the alert evaluator and the health formula agree

The evaluator decides with its own copy of the deviation rules whether a sensor
has left its safe zone and how far.  For every specification of the tables the
copies agree with the health formula:

* `thresholdViolated_iff`: out of the safe zone is a positive base penalty;
* `severityFromSpec_eq`: the severity is the health deviation in per cent, cut at
  90, 60 and 30, or the weight of the sensor;
* `evaluateAlerts_mirrors_health`: the alerts of a reading, sensor by sensor.
-/
import LocoTwin.Processor.AlertEvaluator
import LocoTwin.Processor.HealthService

namespace LocoTwin.Processor

open LocoTwin.Lib LocoTwin.Shared

set_option autoImplicit false

/-! ## The two maps of a reading -/

theorem sensorMap_get? (reading : TelemetryReading) (key : SensorType) :
    (sensorMap reading).get? key = ((payloadMap reading).get? key).map (·.value) := by
  rw [payloadMap, ← Dict.get?_ofPairs_map, List.map_map]
  rfl

theorem payloadMap_eq_some {reading : TelemetryReading} {key : SensorType}
    {sensor : SensorPayload} (found : (payloadMap reading).get? key = some sensor) :
    sensor ∈ reading.sensors ∧ sensor.sensorType = key := by
  obtain ⟨s, mem, same⟩ := List.mem_map.mp (Dict.mem_of_get?_ofPairs found)
  cases same
  exact ⟨mem, rfl⟩

theorem payloadMap_eq_none {reading : TelemetryReading} {key : SensorType} :
    (payloadMap reading).get? key = none ↔ key ∉ reading.sensors.map (·.sensorType) := by
  rw [payloadMap, Dict.get?_ofPairs_eq_none, List.map_map]
  rfl

/-! ## One sensor -/

/-- The severity the health formula gives to a sensor. -/
def mirroredSeverity (weight deviationPct : PyFloat) : AlertSeverity :=
  if 35 ≤ weight ∨ 90 ≤ deviationPct then .emergency
  else if 60 ≤ deviationPct then .critical
  else if 30 ≤ deviationPct then .warning
  else .info

/-- Outside the safe zone is farther from nominal than the safe zone reaches. -/
theorem thresholdViolated_iff (value : PyFloat) {spec : SensorSpec} (wf : spec.Wellformed) :
    thresholdViolated value spec = true ↔ spec.deltaSafe < rawDeviation value spec := by
  have safe := wf.deltaSafe_nonneg
  have exact' := wf.not_exact
  unfold thresholdViolated rawDeviation
  cases kind : spec.thresholdType with
  | bidirectional => simp
  | upperBound =>
      simp only [decide_eq_true_eq, lt_max_iff, not_lt.mpr safe, false_or]
      exact lt_sub_iff_add_lt'.symm
  | lowerBound =>
      simp only [decide_eq_true_eq, lt_max_iff, not_lt.mpr safe, false_or]
      exact lt_sub_comm
  | exactMatch => exact absurd kind exact'

/-- Both modules normalise a deviation alike. -/
theorem severityFromSpec_normalized (value : PyFloat) {spec : SensorSpec} (wf : spec.Wellformed) :
    severityFromSpec value spec =
      if 0.9 ≤ normalizedExceedance value spec ∨ 35 ≤ spec.weight then .emergency
      else if 0.6 ≤ normalizedExceedance value spec then .critical
      else if 0.3 ≤ normalizedExceedance value spec then .warning
      else .info := by
  have exact' := wf.not_exact
  unfold severityFromSpec normalizedExceedance rawDeviation
  cases kind : spec.thresholdType with
  | bidirectional => simp only [if_pos spec.critRange_pos]
  | upperBound => simp only [if_pos spec.critRange_pos]
  | lowerBound => simp only [if_pos spec.critRange_pos]
  | exactMatch => exact absurd kind exact'

theorem severityFromSpec_eq (M : PyMath) (value : PyFloat) {spec : SensorSpec}
    (wf : spec.Wellformed) :
    severityFromSpec value spec = mirroredSeverity spec.weight (sensorPenalty M value spec).2 := by
  have percent : ∀ cut n : PyFloat, cut * 100 ≤ n * 100 ↔ cut ≤ n := by
    intro cut n
    constructor <;> intro h <;> linarith
  rw [severityFromSpec_normalized value wf, mirroredSeverity, sensorPenalty,
    show (90 : PyFloat) = 0.9 * 100 by norm_num, show (60 : PyFloat) = 0.6 * 100 by norm_num,
    show (30 : PyFloat) = 0.3 * 100 by norm_num]
  simp only [percent, or_comm]

/-! ## All sensors -/

/-- The sensor is present, neither masked nor accepted, and its base penalty is
positive. -/
def Penalised (M : PyMath) (reading : TelemetryReading) (key : SensorType) : Prop :=
  ∃ spec value, (locoSpecs reading.locomotiveType).get? key = some spec ∧
    (sensorMap reading).get? key = some value ∧
    ¬ AessMasked reading key ∧ ¬ ContextuallyAccepted reading key value ∧
    0 < (sensorPenalty M value spec).1

/-- **The alerts mirror the health formula.**  One alert for each penalised sensor,
no other alert, and each with the severity of its health deviation. -/
theorem evaluateAlerts_mirrors_health {M : PyMath} (laws : M.PowLaws) (stamps : AlertStamps)
    (reading : TelemetryReading) :
    ((evaluateAlerts stamps reading).map (·.sensorType)).Nodup ∧
      (∀ key, key ∈ (evaluateAlerts stamps reading).map (·.sensorType) ↔
        Penalised M reading key) ∧
      ∀ event ∈ evaluateAlerts stamps reading, ∃ spec,
        (locoSpecs reading.locomotiveType).get? event.sensorType = some spec ∧
          (sensorMap reading).get? event.sensorType = some event.value ∧
          event.severity =
            mirroredSeverity spec.weight (sensorPenalty M event.value spec).2 := by
  refine ⟨evaluateAlerts_nodup stamps reading, ?_, ?_⟩
  · intro key
    rw [mem_evaluateAlerts_iff]
    constructor
    · rintro ⟨spec, value, listed, present, unmasked, unaccepted, violated⟩
      have wf := wellformed_of_get? listed
      exact ⟨spec, value, listed, present, unmasked, unaccepted,
        (sensorPenalty_pos_iff laws value wf).mpr ((thresholdViolated_iff value wf).mp violated)⟩
    · rintro ⟨spec, value, listed, present, unmasked, unaccepted, positive⟩
      have wf := wellformed_of_get? listed
      exact ⟨spec, value, listed, present, unmasked, unaccepted,
        (thresholdViolated_iff value wf).mpr ((sensorPenalty_pos_iff laws value wf).mp positive)⟩
  · intro event mem
    obtain ⟨spec, listed, ⟨present, -, -, -⟩, severity⟩ := evaluateAlerts_event mem
    refine ⟨spec, listed, present, ?_⟩
    rw [severity, severityFromSpec_eq M event.value (wellformed_of_get? listed)]

/-- Coolant at 120 °C reported twice, after a normal value. -/
def overheated : TelemetryReading where
  locomotiveId := 7
  locomotiveType := .te33a
  timestamp := 0
  sensors := [⟨.coolantTemp, 82, "°C"⟩, ⟨.speedActual, 40, "km/h"⟩, ⟨.coolantTemp, 120, "°C"⟩]

theorem overheated_mirrors_health :
    Penalised PyMath.onIntegers overheated .coolantTemp ∧
      ¬ Penalised PyMath.onIntegers overheated .speedActual := by
  have mirrors := evaluateAlerts_mirrors_health PyMath.onIntegers_powLaws ⟨fun _ => 0, 0⟩ overheated
  exact ⟨(mirrors.2.1 .coolantTemp).mp (by decide +kernel),
    fun wrong => absurd ((mirrors.2.1 .speedActual).mpr wrong) (by decide +kernel)⟩

end LocoTwin.Processor
