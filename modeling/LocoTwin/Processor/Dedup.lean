/-
# Processor.Dedup -- is a suppressed sample close to what was persisted last?

Rows of low-rate readings do not enter `_last_persisted`, so after a change of rate the
noise floor is measured from a row that is no longer the last one.

* `flattenAll_samples`: a run over readings is a run over their samples; `inCall_eq` says so
  of the samples of a call that has not ended;
* `baseline_eq`: `_last_persisted` is the value of the last row from a high-frequency
  reading;
* **`dedup_faithful`**: suppressed samples are within the noise floor of the last row in
  every run where that row is as good a baseline; at a sample where it is not, some
  values are suppressed outside the floor.
-/
import LocoTwin.Processor.IngestionService

namespace LocoTwin.Processor

open LocoTwin.Lib LocoTwin.Shared

set_option autoImplicit false

/-! ## Samples -/

/-- A sensor value of a reading. -/
abbrev Sample := TelemetryReading × SensorPayload

def Sample.key (sample : Sample) : Key :=
  (UUID.str sample.1.locomotiveId, sample.2.sensorType)

/-- `is_hf` -/
def Sample.IsHf (sample : Sample) : Prop := 10 ≤ sample.1.sampleRateHz

instance (sample : Sample) : Decidable sample.IsHf :=
  inferInstanceAs (Decidable (10 ≤ sample.1.sampleRateHz))

def TelemetryRow.key (row : TelemetryRow) : Key := (UUID.str row.locomotiveId, row.sensorType)

def samples (readings : List TelemetryReading) : List Sample :=
  readings.flatMap fun reading => reading.sensors.map fun sensor => (reading, sensor)

def flattenSample : Machine IngestState Sample (SensorPayload × Option TelemetryRow) :=
  fun state sample => flattenSensor sample.1 state sample.2

/-- One `flatten_reading` call after another. -/
def flattenAll : Machine IngestState TelemetryReading (List TelemetryRow) :=
  fun state reading => ((flattenReading state reading).1, (flattenReading state reading).2.2)

/-- The state before a sample, and the rows emitted before it. -/
def stateAfter (before : List Sample) : IngestState :=
  (flattenSample.run IngestState.empty before).1

def rowsAfter (before : List Sample) : List TelemetryRow :=
  (flattenSample.run IngestState.empty before).2.filterMap Prod.snd

/-- The state and the rows so far, when calls for the readings `done` have ended and the next
call has come through the sensors `seen` of its reading. -/
def inCall (done : List TelemetryReading) (reading : TelemetryReading)
    (seen : List SensorPayload) : IngestState × List TelemetryRow :=
  let calls := flattenAll.run IngestState.empty done
  let call := (flattenSensor reading).run calls.1 seen
  (call.1, calls.2.flatten ++ call.2.filterMap Prod.snd)

theorem run_flattenSample_map (reading : TelemetryReading) (sensors : List SensorPayload)
    (state : IngestState) :
    flattenSample.run state (sensors.map fun sensor => (reading, sensor)) =
      (flattenSensor reading).run state sensors := by
  induction sensors generalizing state with
  | nil => rfl
  | cons sensor rest ih =>
      rw [List.map_cons, Machine.run_cons, Machine.run_cons, ih]
      rfl

/-- The calls go through the samples one by one and emit their rows. -/
theorem flattenAll_samples (state : IngestState) (readings : List TelemetryReading) :
    (flattenAll.run state readings).1 = (flattenSample.run state (samples readings)).1 ∧
      (flattenAll.run state readings).2.flatten =
        (flattenSample.run state (samples readings)).2.filterMap Prod.snd := by
  induction readings generalizing state with
  | nil => exact ⟨rfl, rfl⟩
  | cons reading rest ih =>
      obtain ⟨last, rows⟩ := ih (flattenAll state reading).1
      have here := run_flattenSample_map reading reading.sensors state
      simp only [samples, List.flatMap_cons, Machine.run_append, Machine.run_cons,
        List.filterMap_append, List.flatten_cons, here]
      exact ⟨last, congrArg _ rows⟩

/-- The samples before one of a reading are those of the calls before and of its own call. -/
theorem inCall_eq (done : List TelemetryReading) (reading : TelemetryReading)
    (seen : List SensorPayload) :
    inCall done reading seen =
      (stateAfter (samples done ++ seen.map fun sensor => (reading, sensor)),
        rowsAfter (samples done ++ seen.map fun sensor => (reading, sensor))) := by
  obtain ⟨state, rows⟩ := flattenAll_samples IngestState.empty done
  simp only [inCall, stateAfter, rowsAfter, Machine.run_append, List.filterMap_append,
    run_flattenSample_map, state, rows]

/-! ## The last row of a sensor -/

/-- The most recent row for `key`. -/
def lastRow (key : Key) (rows : List TelemetryRow) : Option TelemetryRow :=
  (rows.filter fun row => row.key == key).getLast?

/-- The most recent row for `key` from a high-frequency reading. -/
def lastHfRow (key : Key) (rows : List TelemetryRow) : Option TelemetryRow :=
  (rows.filter fun row => row.key == key && decide (10 ≤ row.sampleRateHz)).getLast?

theorem lastHfRow_append (key : Key) (rows : List TelemetryRow) (row : TelemetryRow) :
    lastHfRow key (rows ++ [row]) =
      if row.key = key ∧ 10 ≤ row.sampleRateHz then some row else lastHfRow key rows := by
  unfold lastHfRow
  by_cases own : row.key = key ∧ 10 ≤ row.sampleRateHz
  · rw [if_pos own]
    simp [List.filter_append, own.1, own.2]
  · rw [if_neg own]
    rw [not_and_or] at own
    rcases own with other | slow
    · simp [List.filter_append, other]
    · simp [List.filter_append, slow]

/-- A sensor with a high-frequency row has a last row. -/
theorem exists_lastRow {key : Key} {rows : List TelemetryRow} {hf : TelemetryRow}
    (found : lastHfRow key rows = some hf) : ∃ row, lastRow key rows = some row := by
  have mem := List.mem_filter.mp (List.mem_of_getLast? found)
  have own : hf.key == key := (Bool.and_eq_true _ _ ▸ mem.2).1
  have some' : rows.filter (fun row => row.key == key) ≠ [] :=
    List.ne_nil_of_mem (List.mem_filter.mpr ⟨mem.1, own⟩)
  exact ⟨_, List.getLast?_eq_some_getLast some'⟩

/-! ## One sample -/

/-- What a sample does: its row is emitted, and becomes the baseline when the reading is
high-frequency; or it is suppressed, and nothing changes but the filter. -/
theorem flattenSample_cases (state : IngestState) (sample : Sample) :
    (∃ row, (flattenSample state sample).2.2 = some row ∧ row.key = sample.key ∧
      row.sampleRateHz = sample.1.sampleRateHz ∧
      (flattenSample state sample).1.lastPersisted =
        if sample.IsHf then state.lastPersisted.set sample.key row.filteredValue
        else state.lastPersisted) ∨
    (∃ last, (flattenSample state sample).2.2 = none ∧ sample.IsHf ∧
      state.lastPersisted.get? sample.key = some last ∧
      suppressed (flattenSample state sample).2.1.value last = true ∧
      (flattenSample state sample).1.lastPersisted = state.lastPersisted) := by
  obtain ⟨reading, sensor⟩ := sample
  simp only [flattenSample, flattenSensor, Sample.IsHf, Sample.key]
  split_ifs with hf
  · split
    · rename_i last baseline
      split_ifs with close
      · exact .inr ⟨last, rfl, hf, baseline, close, rfl⟩
      · exact .inl ⟨_, rfl, rfl, rfl, (if_pos hf).symm⟩
    · exact .inl ⟨_, rfl, rfl, rfl, (if_pos hf).symm⟩
  · exact .inl ⟨_, rfl, rfl, rfl, (if_neg hf).symm⟩

/-- A high-frequency sample close to the baseline is suppressed. -/
theorem flattenSample_suppressed {state : IngestState} {sample : Sample} (hf : sample.IsHf)
    {last : PyFloat} (baseline : state.lastPersisted.get? sample.key = some last)
    (close : suppressed (flattenSample state sample).2.1.value last = true) :
    (flattenSample state sample).2.2 = none := by
  have value := (flattenSensor_filters sample.1 state sample.2).2
  simp only [flattenSample, value] at close
  have filtered := congrArg Prod.fst
    (emaFilter_eq state.ema (UUID.str sample.1.locomotiveId) sample.2.sensorType sample.2.value)
  simp only [Sample.key] at baseline
  simp only [flattenSample, flattenSensor]
  rw [if_pos (show 10 ≤ sample.1.sampleRateHz from hf)]
  simp only [baseline, filtered, if_pos close]

/-! ## The baseline -/

theorem stateAfter_snoc (before : List Sample) (sample : Sample) :
    stateAfter (before ++ [sample]) = (flattenSample (stateAfter before) sample).1 := by
  simp [stateAfter, Machine.run_append]

theorem rowsAfter_snoc (before : List Sample) (sample : Sample) :
    rowsAfter (before ++ [sample]) =
      rowsAfter before ++ (flattenSample (stateAfter before) sample).2.2.toList := by
  simp only [rowsAfter, stateAfter, Machine.run_append, Machine.run_cons, Machine.run_nil,
    List.filterMap_append]
  rcases flattenSample (flattenSample.run IngestState.empty before).1 sample with ⟨_, _, row⟩
  cases row <;> rfl

/-- `_last_persisted` holds the value of the last high-frequency row. -/
theorem baseline_eq (before : List Sample) (key : Key) :
    (stateAfter before).lastPersisted.get? key =
      (lastHfRow key (rowsAfter before)).map (·.filteredValue) := by
  induction before using List.reverseRecOn with
  | nil => rfl
  | append_singleton before sample ih =>
      rw [stateAfter_snoc, rowsAfter_snoc]
      rcases flattenSample_cases (stateAfter before) sample with
        ⟨row, emitted, own, rate, baseline⟩ | ⟨last, dropped, -, -, -, kept⟩
      · have fast : 10 ≤ row.sampleRateHz ↔ sample.IsHf := by rw [rate]; rfl
        rw [emitted, baseline, Option.toList_some, lastHfRow_append, own]
        simp only [fast]
        by_cases hf : sample.IsHf
        · rw [if_pos hf, Dict.get?_set]
          by_cases here : key = sample.key
          · rw [if_pos here, if_pos ⟨here.symm, hf⟩]
            rfl
          · rw [if_neg here, if_neg fun h => here h.1.symm]
            exact ih
        · rw [if_neg hf, if_neg fun h => hf h.2]
          exact ih
      · rw [dropped, kept, Option.toList_none, List.append_nil]
        exact ih

/-! ## Suppressed samples -/

/-- `x` is within the noise floor of `f`. -/
def WithinFloor (x f : PyFloat) : Prop := |x - f| < 0.005 * (|f| + 1 / 10 ^ 9)

/-- If the sample is suppressed, it is within the noise floor of the last row of its
sensor. -/
def FaithfulAt (before : List Sample) (sample : Sample) : Prop :=
  (flattenSample (stateAfter before) sample).2.2 = none →
    ∃ row, lastRow sample.key (rowsAfter before) = some row ∧
      WithinFloor (flattenSample (stateAfter before) sample).2.1.value row.filteredValue

def Faithful (readings : List TelemetryReading) : Prop :=
  ∀ before sample after, samples readings = before ++ sample :: after → FaithfulAt before sample

/-- The last row of the sensor carries the value of its last high-frequency row: that row
itself, or a low-rate row since with the same value. -/
def FreshAt (before : List Sample) (key : Key) : Prop :=
  ∀ hf row, lastHfRow key (rowsAfter before) = some hf →
    lastRow key (rowsAfter before) = some row → row.filteredValue = hf.filteredValue

/-- Without low-rate rows every baseline is the last row. -/
theorem freshAt_of_fast {before : List Sample}
    (fast : ∀ row ∈ rowsAfter before, 10 ≤ row.sampleRateHz) (key : Key) : FreshAt before key := by
  intro hf row found recent
  have same : lastHfRow key (rowsAfter before) = lastRow key (rowsAfter before) := by
    refine congrArg List.getLast? (List.filter_congr fun row mem => ?_)
    simp [fast row mem]
  rw [same, recent] at found
  rw [Option.some.inj found]

/-- Every high-frequency sample finds it so. -/
def FreshBaselines (readings : List TelemetryReading) : Prop :=
  ∀ before sample after, samples readings = before ++ sample :: after → sample.IsHf →
    FreshAt before sample.key

theorem suppressed_iff (filtered last : PyFloat) :
    suppressed filtered last = true ↔ WithinFloor filtered last := by
  have pos : (0 : PyFloat) < |last| + 1 / 10 ^ 9 := by positivity
  rw [suppressed, decide_eq_true_eq, div_lt_iff₀ pos, WithinFloor, hfNoiseFloor]

theorem faithfulAt_of_fresh {before : List Sample} {sample : Sample}
    (fresh : sample.IsHf → FreshAt before sample.key) : FaithfulAt before sample := by
  intro dropped
  rcases flattenSample_cases (stateAfter before) sample with
    ⟨row, emitted, -⟩ | ⟨last, -, fast, baseline, close, -⟩
  · rw [emitted] at dropped
    exact absurd dropped (by simp)
  · rw [baseline_eq] at baseline
    obtain ⟨hf, found, rfl⟩ := Option.map_eq_some_iff.mp baseline
    obtain ⟨row, recent⟩ := exists_lastRow found
    refine ⟨row, recent, ?_⟩
    rw [fresh fast hf row found recent]
    exact (suppressed_iff _ _).mp close

/-- Within the floor of one value, but not of another. -/
theorem exists_withinFloor_not {b f : PyFloat} (ne : b ≠ f) :
    ∃ x, WithinFloor x b ∧ ¬WithinFloor x f := by
  have apart : 0 < |b - f| := abs_pos.mpr (sub_ne_zero.mpr ne)
  have tilt : |f| - |b| ≤ |b - f| := by
    rw [abs_sub_comm]
    exact abs_sub_abs_le_abs_sub f b
  -- step away from `f` by what its floor exceeds the distance
  let t := max 0 (0.005 * (|f| + 1 / 10 ^ 9) - |b - f|)
  have nonneg : 0 ≤ t := le_max_left _ _
  have far : 0.005 * (|f| + 1 / 10 ^ 9) - |b - f| ≤ t := le_max_right _ _
  have near : t < 0.005 * (|b| + 1 / 10 ^ 9) := by
    refine max_lt (by positivity) ?_
    linarith
  unfold WithinFloor
  rcases lt_or_gt_of_ne ne with below | above
  · have dist : |b - f| = f - b := by rw [abs_of_neg (by linarith)]; ring
    refine ⟨b - t, ?_, ?_⟩
    · rw [show b - t - b = -t by ring, abs_neg, abs_of_nonneg nonneg]
      exact near
    · rw [show b - t - f = -(f - b + t) by ring, abs_neg, abs_of_nonneg (by linarith)]
      linarith
  · have dist : |b - f| = b - f := abs_of_pos (by linarith)
    refine ⟨b + t, ?_, ?_⟩
    · rw [show b + t - b = t by ring, abs_of_nonneg nonneg]
      exact near
    · rw [show b + t - f = b - f + t by ring, abs_of_nonneg (by linarith)]
      linarith

/-- The filter can be brought to any value. -/
theorem exists_emaNext (sensorType : SensorType) (prev : Option PyFloat) (x : PyFloat) :
    ∃ z, emaNext sensorType prev z = x := by
  cases prev with
  | none => exact ⟨x, rfl⟩
  | some prev =>
      have pos : 0 < emaGain sensorType := (emaGain_mem_unit sensorType).1
      refine ⟨(x - (1 - emaGain sensorType) * prev) / emaGain sensorType, ?_⟩
      rw [emaNext, mul_div_cancel₀ _ pos.ne']
      ring

/-- Where the last row is not as good as the baseline, some value of the next
high-frequency sample is suppressed and far from the last row. -/
theorem exists_unfaithful {before : List Sample} {reading : TelemetryReading}
    {sensor : SensorPayload} (fast : 10 ≤ reading.sampleRateHz)
    (stale : ¬FreshAt before (Sample.key (reading, sensor))) :
    ∃ z, ¬FaithfulAt before (reading, { sensor with value := z }) := by
  simp only [FreshAt, not_forall] at stale
  obtain ⟨hf, row, found, recent, ne⟩ := stale
  obtain ⟨x, close, far⟩ := exists_withinFloor_not (Ne.symm ne)
  obtain ⟨z, filtered⟩ := exists_emaNext sensor.sensorType
    ((stateAfter before).ema.get? (UUID.str reading.locomotiveId, sensor.sensorType)) x
  have value : (flattenSample (stateAfter before) (reading, { sensor with value := z })).2.1.value =
      x := by
    have mutated := (flattenSensor_filters reading (stateAfter before)
      { sensor with value := z }).2
    simp only [flattenSample, mutated, filtered]
  have baseline : (stateAfter before).lastPersisted.get?
      (Sample.key (reading, { sensor with value := z })) = some hf.filteredValue := by
    rw [baseline_eq]
    exact congrArg _ found
  refine ⟨z, fun faithful => ?_⟩
  have dropped := @flattenSample_suppressed _ (reading, { sensor with value := z }) fast _
    baseline ((suppressed_iff _ _).mpr (by rw [value]; exact close))
  obtain ⟨row', recent', within⟩ := faithful dropped
  have same : row' = row := Option.some.inj (recent'.symm.trans recent)
  rw [value, same] at within
  exact far within

/-- **In a run where no low-rate row with another value has overtaken the baseline of a
high-frequency sample, every suppressed sample is within the noise floor of the last row of
its sensor; and where one has, some values of the sample are not.**  The states and rows in
which samples are judged are those of `flatten_reading` calls. -/
theorem dedup_faithful (readings : List TelemetryReading) (before : List Sample)
    (reading : TelemetryReading) (sensor : SensorPayload) :
    (∀ done seen, inCall done reading seen =
      (stateAfter (samples done ++ seen.map fun sensor => (reading, sensor)),
        rowsAfter (samples done ++ seen.map fun sensor => (reading, sensor)))) ∧
    (FreshBaselines readings → Faithful readings) ∧
      (10 ≤ reading.sampleRateHz →
        ((∀ z, FaithfulAt before (reading, { sensor with value := z })) ↔
          FreshAt before (Sample.key (reading, sensor)))) := by
  refine ⟨fun done seen => inCall_eq done reading seen, ?_, ?_⟩
  · intro fresh before sample after split
    exact faithfulAt_of_fresh (fresh before sample after split)
  · intro fast
    constructor
    · intro faithful
      by_contra stale
      obtain ⟨z, far⟩ := exists_unfaithful fast stale
      exact far (faithful z)
    · intro fresh z
      exact faithfulAt_of_fresh fun _ => fresh

/-- A reading of the speed at the given rate. -/
def speedAt (rate speed : PyFloat) (range : 1 / 10 ≤ rate ∧ rate ≤ 200) : TelemetryReading where
  locomotiveId := 7
  locomotiveType := .kz8a
  timestamp := 0
  sampleRateHz := rate
  sampleRate_range := range
  sensors := [⟨.speedActual, speed, "km/h"⟩]

def cruising : TelemetryReading := speedAt 50 100 (by norm_num)

def steady : List TelemetryReading := [cruising, cruising]

theorem dedup_faithful_steady :
    Faithful steady ∧ ∀ z, FaithfulAt [] (cruising, ⟨.speedActual, z, "km/h"⟩) := by
  have both := (dedup_faithful steady [] cruising ⟨.speedActual, 0, "km/h"⟩).2
  constructor
  · refine both.1 ?_
    intro before sample after split _
    refine freshAt_of_fast ?_ _
    have two : (samples steady).length = 2 := rfl
    rw [split] at two
    rcases before with _ | ⟨first, _ | ⟨second, rest⟩⟩
    · simp [rowsAfter]
    · have head : (samples steady).take 1 = [first] := by rw [split]; rfl
      rw [← head]
      decide +kernel
    · simp at two
  · exact (both.2 (by decide +kernel)).mpr (freshAt_of_fast (by simp [rowsAfter]) _)

def burst : List TelemetryReading :=
  [speedAt 50 100 (by norm_num), speedAt 1 200 (by norm_num), speedAt 50 20 (by norm_num)]

/-- A low-rate row of 120 between two high-frequency samples of 100: the second is
suppressed against the first. -/
theorem burst_unfaithful : ¬Faithful burst := by
  intro faithful
  have third := faithful ((samples burst).take 2)
    (speedAt 50 20 (by norm_num), ⟨.speedActual, 20, "km/h"⟩) [] rfl
  obtain ⟨row, recent, within⟩ := third (by decide +kernel)
  have last : (lastRow (UUID.str 7, .speedActual) (rowsAfter ((samples burst).take 2))).map
      (·.filteredValue) = some 120 := by decide +kernel
  have value : (flattenSample (stateAfter ((samples burst).take 2))
      (speedAt 50 20 (by norm_num), ⟨.speedActual, 20, "km/h"⟩)).2.1.value = 100 := by
    decide +kernel
  have same : row.filteredValue = 120 := by
    have := congrArg (Option.map (·.filteredValue)) recent
    rw [show Sample.key (speedAt 50 20 (by norm_num), ⟨.speedActual, 20, "km/h"⟩) =
      (UUID.str 7, .speedActual) from rfl, last] at this
    exact (Option.some.inj this).symm
  rw [value, same, WithinFloor] at within
  norm_num at within

end LocoTwin.Processor
