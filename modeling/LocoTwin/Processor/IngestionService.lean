/-
# Processor.IngestionService -- a reading becomes rows, in place

`flattenReading` filters every sensor of a reading, writes the filtered value
back into the reading (the alert evaluator and the health index read it there)
and returns the rows to persist.  At 10 Hz and above a sample that moved less
than the noise floor since the last persisted one gives no row.

One sensor is one step of a machine over `IngestState` (`flattenSensor`), so the
loop over the sensors is `Machine.run`.

* `flattenSensor_filters`: what one step does to the filter and to its sensor;
* `flattenReading_ema`, `flattenReading_value`: over a reading, a sensor's filter
  runs over the raw values reported for it, and the mutated reading reports where
  it ends.
-/
import LocoTwin.Lib.Transition
import LocoTwin.Processor.FilterService
import LocoTwin.Shared.Schemas

namespace LocoTwin.Processor

open LocoTwin.Lib LocoTwin.Shared

set_option autoImplicit false

/-- `_ema_state` and `_last_persisted`, the dictionaries a reading is flattened against. -/
structure IngestState where
  ema : EmaState
  lastPersisted : Dict Key PyFloat
  deriving DecidableEq

def IngestState.empty : IngestState := ⟨Dict.empty, Dict.empty⟩

/-- A row of the telemetry stream. -/
structure TelemetryRow where
  time : Datetime
  locomotiveId : UUID
  locomotiveType : LocomotiveType
  sensorType : SensorType
  value : PyFloat
  filteredValue : PyFloat
  unit : String
  sampleRateHz : PyFloat
  latitude : Option PyFloat
  longitude : Option PyFloat
  deriving DecidableEq

/-- `_HF_NOISE_FLOOR` -/
def hfNoiseFloor : PyFloat := 0.005

/-- A high-frequency sample too close to the last persisted one. -/
def suppressed (filtered last : PyFloat) : Bool :=
  decide (|filtered - last| / (|last| + 1 / 10 ^ 9) < hfNoiseFloor)

/-- The body of the loop over `reading.sensors`. -/
def flattenSensor (reading : TelemetryReading) :
    Machine IngestState SensorPayload (SensorPayload × Option TelemetryRow) :=
  fun state sensor =>
    let locoId := UUID.str reading.locomotiveId
    let key := (locoId, sensor.sensorType)
    let rawValue := sensor.value
    let (filtered, ema) := emaFilter state.ema locoId sensor.sensorType rawValue
    let mutated := { sensor with value := filtered }
    let row : TelemetryRow :=
      { time := reading.timestamp
        locomotiveId := reading.locomotiveId
        locomotiveType := reading.locomotiveType
        sensorType := sensor.sensorType
        value := rawValue
        filteredValue := filtered
        unit := sensor.unit
        sampleRateHz := reading.sampleRateHz
        latitude := reading.gps.map (·.latitude)
        longitude := reading.gps.map (·.longitude) }
    if 10 ≤ reading.sampleRateHz then
      let persist := ({ ema, lastPersisted := state.lastPersisted.set key filtered },
        (mutated, some row))
      match state.lastPersisted.get? key with
      | some last =>
          if suppressed filtered last then ({ state with ema }, (mutated, none)) else persist
      | none => persist
    else ({ state with ema }, (mutated, some row))

/-- The new state, the mutated reading and the rows. -/
def flattenReading (state : IngestState) (reading : TelemetryReading) :
    IngestState × TelemetryReading × List TelemetryRow :=
  let (state', outs) := Machine.run (flattenSensor reading) state reading.sensors
  (state', { reading with sensors := outs.map Prod.fst }, outs.filterMap Prod.snd)

theorem flattenReading_locomotiveId (state : IngestState) (reading : TelemetryReading) :
    (flattenReading state reading).2.1.locomotiveId = reading.locomotiveId := rfl

theorem locomotiveId_of_flat {state ingest : IngestState} {reading mutated : TelemetryReading}
    {rows : List TelemetryRow} (flat : flattenReading state reading = (ingest, mutated, rows)) :
    mutated.locomotiveId = reading.locomotiveId := by
  rw [← flattenReading_locomotiveId state reading, flat]

/-! ## What flattening does to the filter -/

/-- The raw values a list of sensors reports for `key`, in order. -/
def rawValues (key : SensorType) (sensors : List SensorPayload) : List PyFloat :=
  (sensors.filter fun s => s.sensorType == key).map (·.value)

/-- The recurrence over a list of raw values. -/
def emaFold (key : SensorType) (start : Option PyFloat) (values : List PyFloat) :
    Option PyFloat :=
  values.foldl (fun prev rawValue => some (emaNext key prev rawValue)) start

theorem emaFold_append (key : SensorType) (start : Option PyFloat) (values later : List PyFloat) :
    emaFold key start (values ++ later) = emaFold key (emaFold key start values) later :=
  List.foldl_append

/-- Running over at least one value leaves a value. -/
theorem emaFold_eq_some {key : SensorType} {start : Option PyFloat} {values : List PyFloat}
    (some' : values ≠ []) : ∃ value, emaFold key start values = some value := by
  induction values using List.reverseRecOn with
  | nil => exact absurd rfl some'
  | append_singleton values last _ => exact ⟨_, emaFold_append key start values [last]⟩

/-- A step runs the filter of its sensor and reports the filtered value. -/
theorem flattenSensor_filters (reading : TelemetryReading) (state : IngestState)
    (sensor : SensorPayload) :
    let key := (UUID.str reading.locomotiveId, sensor.sensorType)
    let filtered := emaNext sensor.sensorType (state.ema.get? key) sensor.value
    (flattenSensor reading state sensor).1.ema = state.ema.set key filtered ∧
      (flattenSensor reading state sensor).2.1 = { sensor with value := filtered } := by
  simp only [flattenSensor, emaFilter_eq]
  split_ifs
  · split
    · split_ifs <;> exact ⟨rfl, rfl⟩
    · exact ⟨rfl, rfl⟩
  · exact ⟨rfl, rfl⟩

theorem run_flattenSensor_ema (reading : TelemetryReading) (key : SensorType)
    (sensors : List SensorPayload) (state : IngestState) :
    (Machine.run (flattenSensor reading) state sensors).1.ema.get?
        (UUID.str reading.locomotiveId, key) =
      emaFold key (state.ema.get? (UUID.str reading.locomotiveId, key))
        (rawValues key sensors) := by
  induction sensors generalizing state with
  | nil => rfl
  | cons sensor rest ih =>
      rw [Machine.run_cons, ih, (flattenSensor_filters reading state sensor).1, Dict.get?_set]
      by_cases own : sensor.sensorType = key
      · subst own
        simp [rawValues, emaFold]
      · simp [rawValues, own, Ne.symm own]

/-- The mutated sensors report, for a sensor that was reported at all, the state of
its filter after the run. -/
theorem run_flattenSensor_value (reading : TelemetryReading) (key : SensorType)
    (sensors : List SensorPayload) (state : IngestState) :
    (Dict.ofPairs ((Machine.run (flattenSensor reading) state sensors).2.map fun out =>
        (out.1.sensorType, out.1.value))).get? key =
      if rawValues key sensors = [] then none
      else (Machine.run (flattenSensor reading) state sensors).1.ema.get?
        (UUID.str reading.locomotiveId, key) := by
  -- from the right: the last report of a sensor is the one that counts
  induction sensors using List.reverseRecOn with
  | nil => rfl
  | append_singleton sensors sensor ih =>
      obtain ⟨ema, mutated⟩ :=
        flattenSensor_filters reading (Machine.run (flattenSensor reading) state sensors).1 sensor
      simp only [Machine.run_append, Machine.run_cons, Machine.run_nil, List.map_append,
        List.map_singleton, Dict.ofPairs_append_single, Dict.get?_set, mutated, ema, ih]
      by_cases own : sensor.sensorType = key
      · subst own
        simp [rawValues]
      · simp [rawValues, own, Ne.symm own]

theorem flattenReading_ema (state : IngestState) (reading : TelemetryReading) (key : SensorType) :
    (flattenReading state reading).1.ema.get? (UUID.str reading.locomotiveId, key) =
      emaFold key (state.ema.get? (UUID.str reading.locomotiveId, key))
        (rawValues key reading.sensors) :=
  run_flattenSensor_ema reading key reading.sensors state

theorem flattenReading_value (state : IngestState) (reading : TelemetryReading)
    (key : SensorType) :
    (Dict.ofPairs ((flattenReading state reading).2.1.sensors.map fun s =>
        (s.sensorType, s.value))).get? key =
      if rawValues key reading.sensors = [] then none
      else emaFold key (state.ema.get? (UUID.str reading.locomotiveId, key))
        (rawValues key reading.sensors) := by
  rw [← flattenReading_ema, flattenReading, List.map_map]
  exact run_flattenSensor_value reading key reading.sensors state

end LocoTwin.Processor
