/-
# Processor.Isolation -- locomotives do not interfere

The three dictionaries are shared by the whole fleet, and every key of theirs starts
with the text of a locomotive id.  `ownPart` is what one locomotive's keys hold.
Texts of different ids differ, so a reading of one locomotive leaves the part of
every other alone (`pipeline_frame`), and what it produces is a function of its own
part (`pipeline_own`).  Unwinding gives the rest: in any interleaving a locomotive
sees the run of its own readings.
-/
import LocoTwin.Processor.BatchEquiv

namespace LocoTwin.Processor

open LocoTwin.Lib LocoTwin.Shared

set_option autoImplicit false

/-- The key belongs to the locomotive. -/
def ownKey (locoId : UUID) (key : Key) : Bool := key.1 == UUID.str locoId

theorem ownKey_self (locoId : UUID) (sensorType : SensorType) :
    ownKey locoId (UUID.str locoId, sensorType) = true := by
  simp [ownKey]

theorem ownKey_other {locoId other : UUID} (ne : other ≠ locoId) (sensorType : SensorType) :
    ownKey locoId (UUID.str other, sensorType) = false := by
  simpa [ownKey] using fun same => ne (UUID.str_injective same)

def IngestState.restrict (p : Key → Bool) (state : IngestState) : IngestState :=
  ⟨state.ema.restrict p, state.lastPersisted.restrict p⟩

/-- A locomotive's part of the three dictionaries. -/
def ownPart (locoId : UUID) (state : ProcessorState) : ProcessorState :=
  ⟨state.ingest.restrict (ownKey locoId), state.damage.restrict (ownKey locoId)⟩

/-! ## Flattening -/

/-- What a step reads under its own key. -/
theorem IngestState.read_of_restrict {p : Key → Bool} {key : Key} (own : p key = true)
    {state state' : IngestState} (same : state.restrict p = state'.restrict p) :
    state.ema.get? key = state'.ema.get? key ∧
      state.lastPersisted.get? key = state'.lastPersisted.get? key := by
  obtain ⟨ema, persisted⟩ := IngestState.mk.inj same
  have read : ∀ {d d' : Dict Key PyFloat}, d.restrict p = d'.restrict p →
      d.get? key = d'.get? key := by
    intro d d' eq
    have := congrArg (·.get? key) eq
    simpa [own] using this
  exact ⟨read ema, read persisted⟩

/-- A sensor's step reads and writes the keys of its own locomotive only. -/
theorem flattenSensor_own {p : Key → Bool} {reading : TelemetryReading}
    (own : ∀ key, p (UUID.str reading.locomotiveId, key) = true) {state state' : IngestState}
    (same : state.restrict p = state'.restrict p) (sensor : SensorPayload) :
    (flattenSensor reading state sensor).1.restrict p =
        (flattenSensor reading state' sensor).1.restrict p ∧
      (flattenSensor reading state sensor).2 = (flattenSensor reading state' sensor).2 := by
  obtain ⟨ema, persisted⟩ := IngestState.read_of_restrict (own sensor.sensorType) same
  obtain ⟨emaPart, persistedPart⟩ := IngestState.mk.inj same
  simp only [flattenSensor, emaFilter_eq, ema, persisted]
  split_ifs
  · split
    · split_ifs <;>
        simp [IngestState.restrict, Dict.restrict_set p _ (own sensor.sensorType), emaPart,
          persistedPart]
    · simp [IngestState.restrict, Dict.restrict_set p _ (own sensor.sensorType), emaPart,
        persistedPart]
  · simp [IngestState.restrict, Dict.restrict_set p _ (own sensor.sensorType), emaPart,
      persistedPart]

theorem flattenSensor_frame {p : Key → Bool} {reading : TelemetryReading}
    (other : ∀ key, p (UUID.str reading.locomotiveId, key) = false) (state : IngestState)
    (sensor : SensorPayload) :
    (flattenSensor reading state sensor).1.restrict p = state.restrict p := by
  simp only [flattenSensor, emaFilter_eq]
  split_ifs
  · split
    · split_ifs <;>
        simp [IngestState.restrict, Dict.restrict_set_of_not p _ (other sensor.sensorType)]
    · simp [IngestState.restrict, Dict.restrict_set_of_not p _ (other sensor.sensorType)]
  · simp [IngestState.restrict, Dict.restrict_set_of_not p _ (other sensor.sensorType)]

theorem flattenReading_own {p : Key → Bool} {reading : TelemetryReading}
    (own : ∀ key, p (UUID.str reading.locomotiveId, key) = true) {state state' : IngestState}
    (same : state.restrict p = state'.restrict p) :
    (flattenReading state reading).1.restrict p = (flattenReading state' reading).1.restrict p ∧
      (flattenReading state reading).2 = (flattenReading state' reading).2 := by
  have run := Machine.run_lockstep (M := flattenSensor reading) (N := flattenSensor reading)
    (R := fun s t => s.restrict p = t.restrict p) (f := id) (g := id) (h := Eq)
    (fun s t i j eq hij => hij ▸ flattenSensor_own own eq i) same
    (List.forall₂_refl reading.sensors)
  simp only [List.map_id] at run
  exact ⟨run.1, by simp only [flattenReading, run.2]⟩

theorem flattenReading_frame {p : Key → Bool} {reading : TelemetryReading}
    (other : ∀ key, p (UUID.str reading.locomotiveId, key) = false) (state : IngestState) :
    (flattenReading state reading).1.restrict p = state.restrict p :=
  Machine.run_invariant (I := fun s => s.restrict p = state.restrict p)
    (fun s i kept => (flattenSensor_frame other s i).trans kept) rfl reading.sensors

/-! ## One reading through the pipeline -/

/-- A reading's outputs and its locomotive's next part are functions of the part. -/
theorem pipeline_own (M : PyMath) {locoId : UUID} {state state' : ProcessorState}
    (same : ownPart locoId state = ownPart locoId state') {reading : TelemetryReading}
    (own : reading.locomotiveId = locoId) (stamps stamps' : Stamps) :
    ownPart locoId (pipeline M state (reading, stamps)).1 =
        ownPart locoId (pipeline M state' (reading, stamps')).1 ∧
      (pipeline M state (reading, stamps)).2.unstamped =
        (pipeline M state' (reading, stamps')).2.unstamped := by
  obtain ⟨ingest, damage⟩ := ProcessorState.mk.inj same
  have mine : ∀ key, ownKey locoId (UUID.str reading.locomotiveId, key) = true := by
    intro key
    rw [own]
    exact ownKey_self locoId key
  rw [← (pipeline_unstamped M state' reading stamps stamps').1,
    ← (pipeline_unstamped M state' reading stamps stamps').2]
  obtain ⟨next, flat⟩ := flattenReading_own mine ingest
  rcases left : flattenReading state.ingest reading with ⟨after, mutated, rows⟩
  rcases right : flattenReading state'.ingest reading with ⟨after', mutated', rows'⟩
  simp only [left, right, Prod.mk.injEq] at next flat
  obtain ⟨rfl, rfl⟩ := flat
  rw [← locomotiveId_of_flat left] at mine
  obtain ⟨rows', last⟩ := penaltyLoop_restrict M mine (payloadMap mutated)
    (locoSpecs mutated.locomotiveType).entries damage
  simp only [pipeline, left, right, calculateHealth, rows', ownPart, next, last, and_self]

theorem pipeline_frame (M : PyMath) {locoId : UUID} (state : ProcessorState)
    {reading : TelemetryReading} (other : reading.locomotiveId ≠ locoId) (stamps : Stamps) :
    ownPart locoId (pipeline M state (reading, stamps)).1 = ownPart locoId state := by
  have foreign : ∀ key, ownKey locoId (UUID.str reading.locomotiveId, key) = false :=
    ownKey_other other
  have next := flattenReading_frame foreign state.ingest
  rcases flat : flattenReading state.ingest reading with ⟨after, mutated, rows⟩
  rw [flat] at next
  rw [← locomotiveId_of_flat flat] at foreign
  have last := penaltyLoop_frame M foreign (payloadMap mutated)
    (locoSpecs mutated.locomotiveType).entries state.damage
  simp only [pipeline, flat, calculateHealth, ownPart, next, last]

/-! ## Whole runs -/

/-- The reading belongs to the locomotive. -/
def ownReading (locoId : UUID) (item : TelemetryReading × Stamps) : Bool :=
  item.1.locomotiveId == locoId

/-- **Locomotives do not interfere.**  In any run, a locomotive's part of the state
and what its readings produce are those of the run of its readings alone. -/
theorem locomotives_do_not_interfere (M : PyMath) (locoId : UUID) (state : ProcessorState)
    (run alone : List (TelemetryReading × Stamps))
    (same : alone.map Prod.fst = (run.filter (ownReading locoId)).map Prod.fst) :
    ownPart locoId ((pipeline M).run state run).1 =
        ownPart locoId ((pipeline M).run state alone).1 ∧
      ((run.zip ((pipeline M).run state run).2).filter fun e => ownReading locoId e.1).map
          (fun e => e.2.unstamped) =
        ((pipeline M).run state alone).2.map Processed.unstamped := by
  have hidden : ∀ s i, ownReading locoId i = false →
      ownPart locoId (pipeline M s i).1 = ownPart locoId s := by
    rintro s ⟨reading, stamps⟩ foreign
    exact pipeline_frame M s (by simpa [ownReading] using foreign) stamps
  have own : ∀ s t i, ownReading locoId i = true → ownPart locoId s = ownPart locoId t →
      ownPart locoId (pipeline M s i).1 = ownPart locoId (pipeline M t i).1 ∧
        (pipeline M s i).2.unstamped = (pipeline M t i).2.unstamped := by
    rintro s t ⟨reading, stamps⟩ mine eq
    exact pipeline_own M eq (by simpa [ownReading] using mine) stamps stamps
  have purged := Machine.run_filter (ownPart locoId) (ownReading locoId) Processed.unstamped
    hidden own (rfl : ownPart locoId state = ownPart locoId state) run
  have paired : List.Forall₂ (fun a b => a.1.locomotiveId = locoId ∧ a.1 = b.1)
      (run.filter (ownReading locoId)) alone := by
    refine (List.forall₂_and_left _ _).mpr ⟨?_, paired_of_map_fst same.symm⟩
    intro item mem
    simpa [ownReading] using (List.mem_filter.mp mem).2
  have restamped := Machine.run_lockstep (M := pipeline M) (N := pipeline M)
    (R := fun s t => ownPart locoId s = ownPart locoId t) (f := Processed.unstamped)
    (g := Processed.unstamped) (h := fun a b => a.1.locomotiveId = locoId ∧ a.1 = b.1)
    (by
      rintro s t ⟨reading, stamps⟩ ⟨_, stamps'⟩ eq ⟨mine, rfl⟩
      exact pipeline_own M eq mine stamps stamps')
    (rfl : ownPart locoId state = ownPart locoId state) paired
  exact ⟨purged.1.trans restamped.1, purged.2.trans restamped.2⟩

/-- The transformer's damage in a mixed run is that of its own readings. -/
theorem transformer_alone :
    ownPart 1 ((pipeline .onIntegers).run .empty (twoLocomotives 1000)).1 =
      ownPart 1 ((pipeline .onIntegers).run .empty
        [(twoLocomotives 1000)[0], (twoLocomotives 1000)[2]]).1 :=
  (locomotives_do_not_interfere .onIntegers 1 .empty (twoLocomotives 1000)
    [(twoLocomotives 1000)[0], (twoLocomotives 1000)[2]] rfl).1

end LocoTwin.Processor
