/-
# Processor.FailedReading -- what a failed reading leaves in a batch

The batch path collects the rows and the alert records of a reading before its health
index is computed, and the filter has run by then.  Nothing takes them back when the
index raises.

* `outputs_of_ema`: two runs over the same samples that end with the same filter state
  filtered every sample to the same value, since the filter forgets no value it held;
* `alerts_of_raised`: the index raises on an overheated aging sensor only, and such a
  sensor raises an alert;
* **`failed_reading_leaves_trace`**: so a failed reading either shows in the filter state
  or its alert records are in the batch, whatever the readings before and after it.
-/
import LocoTwin.Processor.AlertMirror
import LocoTwin.Processor.BatchEquiv
import LocoTwin.Processor.Dedup

namespace LocoTwin.Processor

open LocoTwin.Lib LocoTwin.Shared

set_option autoImplicit false

/-! ## The filter forgets nothing -/

theorem emaGain_lt_one (key : SensorType) : emaGain key < 1 := by
  unfold emaGain
  cases key <;> decide +kernel

/-- Different values stay different under the same sample. -/
theorem emaNext_injective (key : SensorType) {a b : PyFloat} (z : PyFloat)
    (same : emaNext key (some a) z = emaNext key (some b) z) : a = b := by
  have gain := emaGain_lt_one key
  have left : (1 - emaGain key) * a = (1 - emaGain key) * b := by
    simp only [emaNext] at same
    linarith
  exact mul_left_cancel₀ (by linarith) left

theorem flattenSample_ema (state : IngestState) (sample : Sample) (key : Key) :
    (flattenSample state sample).1.ema.get? key =
      if key = sample.key then
        some (emaNext sample.2.sensorType (state.ema.get? sample.key) sample.2.value)
      else state.ema.get? key := by
  rw [flattenSample, (flattenSensor_filters sample.1 state sample.2).1, Dict.get?_set]
  rfl

/-- The filtered value a sample reports is the filter state after it. -/
theorem flattenSample_value (state : IngestState) (sample : Sample) :
    (flattenSample state sample).2.1 =
      { sample.2 with
        value := ((flattenSample state sample).1.ema.get? sample.key).getD 0 } := by
  rw [flattenSample_ema, if_pos rfl, Option.getD_some]
  exact (flattenSensor_filters sample.1 state sample.2).2

/-- Two runs that hold a value for a key and end with the same one began with the same. -/
theorem ema_injective (key : Key) (samples : List Sample) {state state' : IngestState}
    {a b : PyFloat} (held : state.ema.get? key = some a) (held' : state'.ema.get? key = some b)
    (same : (flattenSample.run state samples).1.ema.get? key =
      (flattenSample.run state' samples).1.ema.get? key) : a = b := by
  induction samples generalizing state state' a b with
  | nil =>
      simp only [Machine.run_nil] at same
      rw [held, held'] at same
      exact Option.some.inj same
  | cons sample rest ih =>
      by_cases own : key = sample.key
      · subst own
        refine emaNext_injective sample.2.sensorType sample.2.value (ih ?_ ?_ same)
        · rw [flattenSample_ema, if_pos rfl, held]
        · rw [flattenSample_ema, if_pos rfl, held']
      · refine ih ?_ ?_ same
        · rw [flattenSample_ema, if_neg own, held]
        · rw [flattenSample_ema, if_neg own, held']

/-- The same filter state at the end means the same filtered values on the way. -/
theorem outputs_of_ema {samples : List Sample} {state state' : IngestState}
    (same : ∀ key, (flattenSample.run state samples).1.ema.get? key =
      (flattenSample.run state' samples).1.ema.get? key) :
    (flattenSample.run state samples).2.map Prod.fst =
      (flattenSample.run state' samples).2.map Prod.fst := by
  induction samples generalizing state state' with
  | nil => rfl
  | cons sample rest ih =>
      have here : (flattenSample state sample).1.ema.get? sample.key =
          (flattenSample state' sample).1.ema.get? sample.key := by
        rw [flattenSample_ema, flattenSample_ema, if_pos rfl, if_pos rfl]
        refine congrArg some (ema_injective sample.key rest ?_ ?_ (same sample.key))
        · rw [flattenSample_ema, if_pos rfl]
        · rw [flattenSample_ema, if_pos rfl]
      rw [Machine.run_cons, Machine.run_cons, List.map_cons, List.map_cons, ih same,
        flattenSample_value, flattenSample_value, here]

/-! ## The readings the pipeline sees -/

/-- The readings after the filter, one after another. -/
def filteredReadings : IngestState → List TelemetryReading → List TelemetryReading
  | _, [] => []
  | state, reading :: rest =>
      (flattenReading state reading).2.1 :: filteredReadings (flattenReading state reading).1 rest

def ingestAfter (state : IngestState) (readings : List TelemetryReading) : IngestState :=
  (flattenSample.run state (samples readings)).1

theorem ingestAfter_cons (state : IngestState) (reading : TelemetryReading)
    (rest : List TelemetryReading) :
    ingestAfter state (reading :: rest) = ingestAfter (flattenReading state reading).1 rest := by
  have here := run_flattenSample_map reading reading.sensors state
  simp only [ingestAfter, samples, List.flatMap_cons, Machine.run_append, here]
  rfl

theorem ingestAfter_append (state : IngestState) (pre post : List TelemetryReading) :
    ingestAfter state (pre ++ post) = ingestAfter (ingestAfter state pre) post := by
  simp only [ingestAfter, samples, List.flatMap_append, Machine.run_append]

theorem filteredReadings_append (state : IngestState) (pre post : List TelemetryReading) :
    filteredReadings state (pre ++ post) =
      filteredReadings state pre ++ filteredReadings (ingestAfter state pre) post := by
  induction pre generalizing state with
  | nil => rfl
  | cons reading rest ih =>
      rw [List.cons_append, filteredReadings, filteredReadings, ih, ingestAfter_cons,
        List.cons_append]

theorem run_pipeline_ingest (M : PyMath) (state : ProcessorState)
    (items : List (TelemetryReading × Stamps)) :
    ((pipeline M).run state items).1.ingest = ingestAfter state.ingest (items.map Prod.fst) := by
  induction items generalizing state with
  | nil => rfl
  | cons item rest ih =>
      rw [Machine.run_cons, List.map_cons, ingestAfter_cons]
      exact ih _

/-- How many alerts a filtered reading raises, whatever the ids and the clock. -/
def alertCount (reading : TelemetryReading) : ℕ :=
  (evaluateAlerts ⟨fun _ => 0, 0⟩ reading).length

theorem length_evaluateAlerts (stamps : AlertStamps) (reading : TelemetryReading) :
    (evaluateAlerts stamps reading).length = alertCount reading := by
  have same := congrArg List.length (evaluateAlerts_unstamped stamps ⟨fun _ => 0, 0⟩ reading)
  rwa [List.length_map, List.length_map] at same

/-- The alert records of a batch, counted reading by reading. -/
theorem length_allAlertRecords (M : PyMath) (state : ProcessorState)
    (items : List (TelemetryReading × Stamps)) :
    (processReadingsSync M state items).2.allAlertRecords.length =
      ((filteredReadings state.ingest (items.map Prod.fst)).map alertCount).sum := by
  rw [processReadingsSync_eq]
  induction items generalizing state with
  | nil => rfl
  | cons item rest ih =>
      have here : (pipeline M state item).2.toBatch.allAlertRecords.length =
          alertCount (flattenReading state.ingest item.1).2.1 := by
        rw [← length_evaluateAlerts item.2.alerts, Processed.toBatch]
        split <;> exact List.length_map _
      simp only [Machine.run_cons, Batch.collect_cons, Batch.append, List.length_append, here,
        List.map_cons, filteredReadings, List.sum_cons]
      exact congrArg _ (ih _)

/-- Samples that are filtered alike make readings that are filtered alike. -/
theorem filteredReadings_of_outputs {readings : List TelemetryReading}
    {state state' : IngestState}
    (same : (flattenSample.run state (samples readings)).2.map Prod.fst =
      (flattenSample.run state' (samples readings)).2.map Prod.fst) :
    filteredReadings state readings = filteredReadings state' readings := by
  induction readings generalizing state state' with
  | nil => rfl
  | cons reading rest ih =>
      have here := run_flattenSample_map reading reading.sensors
      simp only [samples, List.flatMap_cons, Machine.run_append, here, List.map_append] at same
      obtain ⟨first, later⟩ := List.append_inj same (by simp [Machine.length_run])
      have tail := ih later
      simp only [filteredReadings, flattenReading, first]
      exact congrArg _ tail

/-! ## A raised index comes with an alert -/

/-- An aging sensor that hot is far out of its safe zone, and no mask covers it. -/
theorem kz8a_aging_alerts : ∀ e ∈ (locoSpecs .kz8a).entries, e.2.isAgingParam = true →
    e.1 ≠ .oilPressure ∧ e.2.thresholdType = .upperBound ∧
      e.2.pNom + e.2.deltaSafe < e.2.montsingerRefTemp + 6 * 1024 := by
  decide +kernel

theorem alerts_of_raised {M : PyMath} (overflows : M.Exp2Overflows) {now : Datetime}
    {damage : DamageState} {reading : TelemetryReading} {exc : PyError}
    (raised : (calculateHealth M now damage reading).1 = .error exc) :
    0 < alertCount reading := by
  have loop : (penaltyLoop M (UUID.str reading.locomotiveId) (payloadMap reading) damage
      (locoSpecs reading.locomotiveType).entries).1 = .error exc := by
    simp only [calculateHealth] at raised
    cases rows : (penaltyLoop M (UUID.str reading.locomotiveId) (payloadMap reading) damage
        (locoSpecs reading.locomotiveType).entries).1 with
    | ok rows' => simp [rows, Except.map] at raised
    | error exc' => simpa [rows, Except.map] using raised
  obtain ⟨e, mem, sensor, present, aging, power⟩ := penaltyLoop_error loop
  have type : reading.locomotiveType = .kz8a := by
    cases kind : reading.locomotiveType with
    | kz8a => rfl
    | te33a =>
        rw [kind] at mem
        rw [te33a_not_aging e mem] at aging
        exact absurd aging (by decide)
  have hot : 1024 ≤ (sensor.value - e.2.montsingerRefTemp) / montsingerDegreeStep := by
    by_contra cool
    obtain ⟨y, ok⟩ := overflows.below _ (not_le.mp cool)
    rw [ok] at power
    exact absurd power (by simp)
  have high : e.2.montsingerRefTemp + 6 * 1024 ≤ sensor.value := by
    rw [montsingerDegreeStep, le_div_iff₀ (by norm_num)] at hot
    linarith
  have listed := mem
  rw [type] at mem
  obtain ⟨notOil, upper, far⟩ := kz8a_aging_alerts e mem aging
  have alerted : Alerted reading e.1 e.2 sensor.value := by
    refine ⟨by rw [sensorMap_get?, present]; rfl, ?_, fun accepted => notOil accepted.1, ?_⟩
    · rintro ⟨active, -⟩
      simp [aessActive, type] at active
    · simp only [thresholdViolated, upper, decide_eq_true_eq]
      linarith
  have reported := (mem_evaluateAlerts_iff ⟨fun _ => 0, 0⟩ reading e.1).mpr
    ⟨e.2, sensor.value, Dict.get?_eq_some.mpr listed, alerted⟩
  have length := List.length_pos_of_mem reported
  rwa [List.length_map] at length

theorem alerts_of_processSingle {M : PyMath} (overflows : M.Exp2Overflows)
    {state : ProcessorState} {item : TelemetryReading × Stamps} {exc : PyError}
    (raised : (processSingle M state item).2 = .error exc) :
    0 < alertCount (flattenReading state.ingest item.1).2.1 := by
  rw [processSingle_eq] at raised
  simp only [pipeline] at raised
  cases health : (calculateHealth M item.2.healthTime state.damage
      (flattenReading state.ingest item.1).2.1).1 with
  | ok index => simp [health, Except.map] at raised
  | error exc' => exact alerts_of_raised overflows health

/-! ## The trace in the batch -/

/-- Two batch runs leave the same dictionaries and collect the same lists, up to ids and
clock readings. -/
structure SameTrace (full without : ProcessorState × Batch) : Prop where
  rows : full.2.allTelemetryRows = without.2.allTelemetryRows
  alerts : full.2.allAlertRecords.map AlertRecord.unstamped =
    without.2.allAlertRecords.map AlertRecord.unstamped
  health : full.2.allHealthRecords.map HealthRecord.unstamped =
    without.2.allHealthRecords.map HealthRecord.unstamped
  publications : full.2.publishItems.map Publication.unstamped =
    without.2.publishItems.map Publication.unstamped
  ema : ∀ key, full.1.ingest.ema.get? key = without.1.ingest.ema.get? key
  lastPersisted : ∀ key,
    full.1.ingest.lastPersisted.get? key = without.1.ingest.lastPersisted.get? key
  damage : ∀ key, full.1.damage.get? key = without.1.damage.get? key

/-- The processing of `item` raises when its turn comes after `pre`. -/
def RaisesAfter (M : PyMath) (state : ProcessorState) (pre : List (TelemetryReading × Stamps))
    (item : TelemetryReading × Stamps) : Prop :=
  ∃ exc, (processSingle M (processReadingsSync M state pre).1 item).2 = .error exc

/-- **A failed reading always leaves a trace**: with and without it, the batch differs in
its alert records or in the filter state. -/
theorem failed_reading_leaves_trace {M : PyMath} (overflows : M.Exp2Overflows)
    (state : ProcessorState) (pre post others : List (TelemetryReading × Stamps))
    (item : TelemetryReading × Stamps)
    (removed : others.map Prod.fst = (pre ++ post).map Prod.fst)
    (raised : RaisesAfter M state pre item) :
    ¬SameTrace (processReadingsSync M state (pre ++ item :: post))
      (processReadingsSync M state others) := by
  intro trace
  obtain ⟨exc, raised⟩ := raised
  obtain ⟨before, begun⟩ : ∃ before, ingestAfter state.ingest (pre.map Prod.fst) = before :=
    ⟨_, rfl⟩
  -- the failed reading alerts
  have alerts := alerts_of_processSingle overflows raised
  rw [processReadingsSync_eq] at alerts
  simp only [run_pipeline_ingest, begun] at alerts
  -- the readings after it are filtered as without it
  have same : filteredReadings (flattenReading before item.1).1 (post.map Prod.fst) =
      filteredReadings before (post.map Prod.fst) := by
    refine filteredReadings_of_outputs (outputs_of_ema fun key => ?_)
    have ema := trace.ema key
    rw [processReadingsSync_eq, processReadingsSync_eq] at ema
    simp only [run_pipeline_ingest, removed, List.map_append, List.map_cons, ingestAfter_append,
      ingestAfter_cons, begun] at ema
    exact ema
  -- so its alert records are the difference
  have count := congrArg List.length trace.alerts
  simp only [List.length_map, length_allAlertRecords, removed, List.map_append, List.map_cons,
    filteredReadings_append, filteredReadings, begun, same, List.sum_append, List.sum_cons]
    at count
  omega

/-- A reading of the transformer alone. -/
def transformerItem (celsius : PyFloat) : TelemetryReading × Stamps :=
  ({ locomotiveId := 7, locomotiveType := .kz8a, timestamp := 0,
     sensors := [⟨.transformerTemp, celsius, "°C"⟩] },
    ⟨⟨fun _ => 0, 0⟩, 0, 0⟩)

theorem failed_reading_leaves_trace_transformerItem :
    ¬SameTrace
      (processReadingsSync .ofFloats .empty
        [transformerItem 60, transformerItem 100000, transformerItem 60])
      (processReadingsSync .ofFloats .empty [transformerItem 60, transformerItem 60]) :=
  failed_reading_leaves_trace PyMath.ofFloats_exp2Overflows .empty [transformerItem 60]
    [transformerItem 60] [transformerItem 60, transformerItem 60] (transformerItem 100000) rfl
    ⟨{ kind := "OverflowError", text := "(34, 'Numerical result out of range')" }, by
      decide +kernel⟩

/-- Its row and its alert are in the batch, beside the error that reports it as failed. -/
theorem overheated_leaves_trace :
    (processReadingsSync .ofFloats .empty
        [transformerItem 60, transformerItem 100000]).2.errors.length = 1 ∧
      (processReadingsSync .ofFloats .empty
        [transformerItem 60, transformerItem 100000]).2.allTelemetryRows.length = 2 ∧
      (processReadingsSync .ofFloats .empty
        [transformerItem 60, transformerItem 100000]).2.allAlertRecords.length = 1 ∧
      (processReadingsSync .ofFloats .empty [transformerItem 60]).2.allTelemetryRows.length = 1 ∧
      (processReadingsSync .ofFloats .empty [transformerItem 60]).2.allAlertRecords.length = 0 ∧
      ¬SameTrace (processReadingsSync .ofFloats .empty [transformerItem 60, transformerItem 100000])
        (processReadingsSync .ofFloats .empty [transformerItem 60]) := by
  have full : (processReadingsSync .ofFloats .empty
      [transformerItem 60, transformerItem 100000]).2.allTelemetryRows.length = 2 := by
    decide +kernel
  have without : (processReadingsSync .ofFloats .empty
      [transformerItem 60]).2.allTelemetryRows.length = 1 := by decide +kernel
  refine ⟨by decide +kernel, full, by decide +kernel, without, by decide +kernel, ?_⟩
  intro trace
  have := congrArg List.length trace.rows
  omega

end LocoTwin.Processor
