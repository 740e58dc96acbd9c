/-
# Processor.AessAlerts -- the AESS mask over whole runs

The mask is decided on the filtered engine speed, not on the incoming one.  While
the filter runs down, a sleeping engine is treated as a running one, and its oil
pressure is compared with the floor for the filtered speed.

* `run_ema`: after a run of one locomotive from empty state, a filter holds the
  recurrence over all raw values the run reported for it (`filteredAfter`);
* `silent_iff`: after any history, a reading raises no alert for the masked
  sensors exactly when `MaskHolds`, a condition on the raw values so far;
* `shutdown_alerts`: an engine that stops from idle raises an oil-pressure alert.
-/
import LocoTwin.Processor.AlertMirror
import LocoTwin.Processor.IngestionService

namespace LocoTwin.Processor

open LocoTwin.Lib LocoTwin.Shared

set_option autoImplicit false

/-- Flatten one reading, then evaluate it as it was mutated. -/
def ingestAlerts : Machine IngestState (TelemetryReading × AlertStamps) (List AlertEvent) :=
  fun state (reading, stamps) =>
    let (state', mutated, _) := flattenReading state reading
    (state', evaluateAlerts stamps mutated)

/-- The events a reading raises after a history. -/
def alertsAfter (history : List (TelemetryReading × AlertStamps)) (reading : TelemetryReading)
    (stamps : AlertStamps) : List AlertEvent :=
  (ingestAlerts (ingestAlerts.run .empty history).1 (reading, stamps)).2

/-- No alert for engine speed or oil pressure. -/
def Silent (events : List AlertEvent) : Prop :=
  ∀ event ∈ events, event.sensorType ≠ .dieselRpm ∧ event.sensorType ≠ .oilPressure

/-- The incoming engine speed is in sleep range. -/
def Asleep (reading : TelemetryReading) : Prop :=
  ∃ rpm, (sensorMap reading).get? .dieselRpm = some rpm ∧ rpm ≤ aessRpmThreshold

/-- In a run, every reading whose incoming engine speed is in sleep range is silent. -/
def AessSuppressed (run : List (TelemetryReading × AlertStamps)) : Prop :=
  ∀ history reading stamps later, run = history ++ (reading, stamps) :: later →
    Asleep reading → Silent (alertsAfter history reading stamps)

/-! ## The condition, on raw values -/

/-- The filtered value of a sensor after the readings. -/
def filteredAfter (key : SensorType) (readings : List TelemetryReading) : Option PyFloat :=
  emaFold key none (readings.flatMap fun r => rawValues key r.sensors)

/-- The filtered engine speed has come down to sleep range, or it is not above its
safe zone and the filtered oil pressure, where reported, is in its safe zone or at
the floor for that speed. -/
def MaskHolds (history : List TelemetryReading) (reading : TelemetryReading) : Prop :=
  ∀ rpm, filteredAfter .dieselRpm (history ++ [reading]) = some rpm →
    rpm ≤ aessRpmThreshold ∨
      rpm ≤ 900 ∧ ∀ oil, rawValues .oilPressure reading.sensors ≠ [] →
        filteredAfter .oilPressure (history ++ [reading]) = some oil →
          min 2.5 (1.5 + rpm / 1050 * 1.5) ≤ oil

/-! ## The filters after a run -/

/-- A run of one locomotive leaves the recurrence over its raw values. -/
theorem run_ema {locoId : UUID} (key : SensorType)
    {history : List (TelemetryReading × AlertStamps)}
    (one : ∀ e ∈ history, e.1.locomotiveId = locoId) (state : IngestState) :
    (ingestAlerts.run state history).1.ema.get? (UUID.str locoId, key) =
      emaFold key (state.ema.get? (UUID.str locoId, key))
        ((history.map Prod.fst).flatMap fun r => rawValues key r.sensors) := by
  induction history generalizing state with
  | nil => rfl
  | cons e rest ih =>
      have same : e.1.locomotiveId = locoId := one e List.mem_cons_self
      have step := flattenReading_ema state e.1 key
      rw [same] at step
      rw [Machine.run_cons, ih (fun e mem => one e (List.mem_cons_of_mem _ mem)), List.map_cons,
        List.flatMap_cons, emaFold_append, ← step]
      rfl

/-- What the mutated reading reports after a history of the same locomotive. -/
theorem value_after {locoId : UUID} (key : SensorType)
    {history : List (TelemetryReading × AlertStamps)} {reading : TelemetryReading}
    (one : ∀ e ∈ history, e.1.locomotiveId = locoId) (own : reading.locomotiveId = locoId) :
    (sensorMap (flattenReading (ingestAlerts.run .empty history).1 reading).2.1).get? key =
      if rawValues key reading.sensors = [] then none
      else filteredAfter key (history.map Prod.fst ++ [reading]) := by
  have ema := run_ema key one .empty
  rw [sensorMap, flattenReading_value, own, ema, filteredAfter, List.flatMap_append,
    emaFold_append]
  simp [IngestState.empty]

theorem reported_of_asleep {reading : TelemetryReading} (asleep : Asleep reading) :
    rawValues .dieselRpm reading.sensors ≠ [] := by
  obtain ⟨rpm, found, -⟩ := asleep
  intro none
  have absent : (sensorMap reading).get? .dieselRpm = Option.none := by
    rw [sensorMap, Dict.get?_ofPairs_eq_none, List.map_map]
    simpa [rawValues, List.filter_eq_nil_iff] using none
  rw [absent] at found
  cases found

/-! ## When a reading is silent -/

theorem silent_iff_not_mem (events : List AlertEvent) :
    Silent events ↔ SensorType.dieselRpm ∉ events.map (·.sensorType) ∧
      SensorType.oilPressure ∉ events.map (·.sensorType) := by
  simp only [Silent, List.mem_map, not_exists, not_and, ne_eq]
  constructor
  · intro silent
    exact ⟨fun e mem => (silent e mem).1, fun e mem => (silent e mem).2⟩
  · intro absent e mem
    exact ⟨absent.1 e mem, absent.2 e mem⟩

section

variable {reading : TelemetryReading} {rpm : PyFloat}

/-- The mask of a diesel reading that reports its engine speed. -/
theorem aessActive_iff (diesel : reading.locomotiveType = .te33a)
    (found : (sensorMap reading).get? .dieselRpm = some rpm) :
    aessActive reading = true ↔ rpm ≤ aessRpmThreshold := by
  simp [aessActive, isAessActive, diesel, found]

theorem rpm_alerted_iff (diesel : reading.locomotiveType = .te33a)
    (found : (sensorMap reading).get? .dieselRpm = some rpm) (stamps : AlertStamps) :
    SensorType.dieselRpm ∈ (evaluateAlerts stamps reading).map (·.sensorType) ↔
      ¬ rpm ≤ aessRpmThreshold ∧ 900 < rpm := by
  have listed : (locoSpecs reading.locomotiveType).get? .dieselRpm = some dieselRpmSpec := by
    rw [diesel]; rfl
  have violated : thresholdViolated rpm dieselRpmSpec = true ↔ 900 < rpm := by
    simp only [thresholdViolated, dieselRpmSpec]
    norm_num
  rw [mem_evaluateAlerts_iff, ← aessActive_iff diesel found, ← violated]
  constructor
  · rintro ⟨spec, value, listed', present, unmasked, -, out⟩
    rw [listed, Option.some.injEq] at listed'
    rw [found, Option.some.injEq] at present
    subst listed' present
    refine ⟨?_, out⟩
    intro active
    exact unmasked ⟨active, by decide⟩
  · rintro ⟨awake, out⟩
    refine ⟨_, rpm, listed, found, ?_, ?_, out⟩
    · intro masked
      exact awake masked.1
    · intro accepted
      exact absurd accepted.1 (by decide)

theorem oil_alerted_iff (diesel : reading.locomotiveType = .te33a)
    (found : (sensorMap reading).get? .dieselRpm = some rpm) (stamps : AlertStamps) :
    SensorType.oilPressure ∈ (evaluateAlerts stamps reading).map (·.sensorType) ↔
      ¬ rpm ≤ aessRpmThreshold ∧ ∃ oil, (sensorMap reading).get? .oilPressure = some oil ∧
        oil < min 2.5 (1.5 + rpm / 1050 * 1.5) := by
  have listed : (locoSpecs reading.locomotiveType).get? .oilPressure = some oilPressureSpec := by
    rw [diesel]; rfl
  have floor : minExpected (sensorMap reading) = 1.5 + rpm / 1050 * 1.5 := by
    simp [minExpected, Dict.getD, found]
  have violated : ∀ oil, thresholdViolated oil oilPressureSpec = true ↔ oil < 2.5 := by
    intro oil
    simp only [thresholdViolated, oilPressureSpec]
    norm_num
  rw [mem_evaluateAlerts_iff, ← aessActive_iff diesel found]
  constructor
  · rintro ⟨spec, oil, listed', present, unmasked, unaccepted, out⟩
    rw [listed, Option.some.injEq] at listed'
    subst listed'
    refine ⟨?_, oil, present, lt_min ?_ ?_⟩
    · intro active
      exact unmasked ⟨active, by decide⟩
    · exact (violated oil).mp out
    · rw [← floor]
      exact not_le.mp fun high => unaccepted ⟨rfl, high⟩
  · rintro ⟨awake, oil, present, low⟩
    obtain ⟨below, under⟩ := lt_min_iff.mp low
    refine ⟨_, oil, listed, present, ?_, ?_, (violated oil).mpr below⟩
    · intro masked
      exact awake masked.1
    · intro accepted
      exact absurd accepted.2 (not_le.mpr (floor ▸ under))

/-- A diesel reading that reports its engine speed is silent when that speed is in
sleep range, and otherwise when both sensors pass unmasked. -/
theorem evaluateAlerts_silent_iff (diesel : reading.locomotiveType = .te33a)
    (found : (sensorMap reading).get? .dieselRpm = some rpm) (stamps : AlertStamps) :
    Silent (evaluateAlerts stamps reading) ↔
      rpm ≤ aessRpmThreshold ∨
        rpm ≤ 900 ∧ ∀ oil, (sensorMap reading).get? .oilPressure = some oil →
          min 2.5 (1.5 + rpm / 1050 * 1.5) ≤ oil := by
  rw [silent_iff_not_mem, rpm_alerted_iff diesel found, oil_alerted_iff diesel found]
  by_cases slow : rpm ≤ aessRpmThreshold
  · simp [slow]
  · simp only [slow, not_false_eq_true, true_and, false_or, not_lt, not_exists, not_and]

end

/-- After any history of one diesel locomotive, a sleeping reading is silent exactly
when the mask holds. -/
theorem silent_iff {locoId : UUID} {history : List (TelemetryReading × AlertStamps)}
    {reading : TelemetryReading} (one : ∀ e ∈ history, e.1.locomotiveId = locoId)
    (own : reading.locomotiveId = locoId) (diesel : reading.locomotiveType = .te33a)
    (asleep : Asleep reading) (stamps : AlertStamps) :
    Silent (alertsAfter history reading stamps) ↔ MaskHolds (history.map Prod.fst) reading := by
  have reported := reported_of_asleep asleep
  have value := fun key => value_after key one own
  obtain ⟨rpm, filtered⟩ : ∃ rpm,
      filteredAfter .dieselRpm (history.map Prod.fst ++ [reading]) = some rpm := by
    rw [filteredAfter, List.flatMap_append]
    exact emaFold_eq_some (by simp [reported])
  have found := value .dieselRpm
  rw [if_neg reported, filtered] at found
  have diesel' : (flattenReading (ingestAlerts.run .empty history).1 reading).2.1.locomotiveType =
      .te33a := diesel
  have silent := evaluateAlerts_silent_iff diesel' found stamps
  rw [value .oilPressure] at silent
  rw [MaskHolds, alertsAfter, ingestAlerts, silent]
  simp only [filtered, Option.some.injEq, forall_eq']
  by_cases oil : rawValues .oilPressure reading.sensors = []
  · simp [oil]
  · simp [oil]

/-- **When the mask covers a run.**  In a run of one diesel locomotive every reading
in sleep range is silent exactly when the mask holds at each of them. -/
theorem aessSuppressed_iff {locoId : UUID} {run : List (TelemetryReading × AlertStamps)}
    (one : ∀ e ∈ run, e.1.locomotiveId = locoId ∧ e.1.locomotiveType = .te33a) :
    AessSuppressed run ↔
      ∀ history reading stamps later, run = history ++ (reading, stamps) :: later →
        Asleep reading → MaskHolds (history.map Prod.fst) reading := by
  unfold AessSuppressed
  refine forall_congr' fun history => forall_congr' fun reading => forall_congr' fun stamps =>
    forall_congr' fun later => forall_congr' fun split => forall_congr' fun asleep => ?_
  subst split
  have here := one (reading, stamps) (by simp)
  exact silent_iff (fun e mem => (one e (by simp [mem])).1) here.1 here.2 asleep stamps

/-- An engine with the given speed and oil pressure. -/
def engineAt (rpm oil : PyFloat) : TelemetryReading where
  locomotiveId := 7
  locomotiveType := .te33a
  timestamp := 0
  sensors := [⟨.dieselRpm, rpm, "rpm"⟩, ⟨.oilPressure, oil, "bar"⟩]

def noStamps : AlertStamps := ⟨fun _ => 0, 0⟩

/-- An engine that was never started keeps the mask. -/
theorem aessSuppressed_cold :
    AessSuppressed [(engineAt 0 0, noStamps), (engineAt 0 0, noStamps)] := by
  have one : ∀ e ∈ [(engineAt 0 0, noStamps), (engineAt 0 0, noStamps)],
      e.1.locomotiveId = 7 ∧ e.1.locomotiveType = .te33a := by decide
  refine (aessSuppressed_iff one).mpr ?_
  intro history reading stamps later split _ rpm filtered
  left
  match history, split with
  | [], whole =>
      obtain ⟨rfl, -⟩ := Prod.mk.inj (List.cons.inj whole).1
      obtain rfl : (0 : PyFloat) = rpm := Option.some.inj filtered
      decide +kernel
  | [first], whole =>
      obtain ⟨head, tail⟩ := List.cons.inj whole
      obtain ⟨same, -⟩ := Prod.mk.inj (List.cons.inj tail).1
      have zero : filteredAfter .dieselRpm [engineAt 0 0, engineAt 0 0] = some 0 := by
        decide +kernel
      rw [← head, ← same] at filtered
      obtain rfl : (0 : PyFloat) = rpm := Option.some.inj (zero.symm.trans filtered)
      decide +kernel
  | _ :: _ :: _, whole => simp at whole

/-- An engine at idle stops: both values drop to zero, and the filtered speed keeps
the mask off while the filtered pressure falls below the floor for it. -/
theorem shutdown_alerts :
    ¬ AessSuppressed [(engineAt 700 2.5, noStamps), (engineAt 0 0, noStamps)] := by
  intro suppressed
  have silent := suppressed [(engineAt 700 2.5, noStamps)] (engineAt 0 0) noStamps [] rfl
    ⟨0, by decide +kernel, by decide +kernel⟩
  rw [silent_iff_not_mem] at silent
  exact absurd silent.2 (by decide +kernel)

end LocoTwin.Processor
