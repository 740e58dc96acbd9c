/-
# Processor.BatchEquiv -- the batch path equals the single path

Both paths are the core of `pipeline` run over the readings in order, so they leave
the same dictionaries.  What they produce agrees up to the ids and clock readings
drawn on the way: `unstamped` erases these, and `processSingle_unstamped` says that
nothing else depends on them.

`batch_eq_single` compares the six lists of a batch with those of the calls of the
single path.
-/
import LocoTwin.Processor.RouterIngest

namespace LocoTwin.Processor

open LocoTwin.Lib LocoTwin.Shared

set_option autoImplicit false

/-! ## Up to ids and clock readings -/

def HealthIndex.unstamped (index : HealthIndex) : HealthIndex := { index with calculatedAt := 0 }

def AlertRecord.unstamped (record : AlertRecord) : AlertRecord :=
  { record with id := 0, timestamp := 0 }

def HealthRecord.unstamped (record : HealthRecord) : HealthRecord :=
  { record with id := 0, calculatedAt := 0 }

def Payload.unstamped : Payload → Payload
  | .telemetry reading => .telemetry reading
  | .health index => .health (HealthIndex.unstamped index)
  | .alert event => .alert (Processor.unstamped event)

def Publication.unstamped (publication : Publication) : Publication :=
  (publication.1, publication.2.unstamped)

def Ingested.unstamped (work : Ingested) : Ingested :=
  { work with
    alertDicts := work.alertDicts.map AlertRecord.unstamped
    healthDicts := work.healthDicts.map HealthRecord.unstamped
    pubsub := work.pubsub.map Publication.unstamped }

def Batch.unstamped (batch : Batch) : Batch :=
  { batch with
    allAlertRecords := batch.allAlertRecords.map AlertRecord.unstamped
    allHealthRecords := batch.allHealthRecords.map HealthRecord.unstamped
    publishItems := batch.publishItems.map Publication.unstamped }

def Processed.unstamped (p : Processed) : Processed :=
  { p with
    alerts := p.alerts.map Processor.unstamped
    health := p.health.map HealthIndex.unstamped
    healthId := 0 }

/-- Ids and clock readings do not flow into anything else. -/
theorem pipeline_unstamped (M : PyMath) (state : ProcessorState) (reading : TelemetryReading)
    (stamps stamps' : Stamps) :
    (pipeline M state (reading, stamps)).1 = (pipeline M state (reading, stamps')).1 ∧
      (pipeline M state (reading, stamps)).2.unstamped =
        (pipeline M state (reading, stamps')).2.unstamped := by
  rcases flat : flattenReading state.ingest reading with ⟨ingest, mutated, rows⟩
  have alerts := evaluateAlerts_unstamped stamps.alerts stamps'.alerts mutated
  have health : (calculateHealth M stamps.healthTime state.damage mutated).1.map
        HealthIndex.unstamped =
      (calculateHealth M stamps'.healthTime state.damage mutated).1.map HealthIndex.unstamped := by
    simp only [calculateHealth]
    cases (penaltyLoop M (UUID.str mutated.locomotiveId) (payloadMap mutated) state.damage
      (locoSpecs mutated.locomotiveType).entries).1 <;> rfl
  refine ⟨by simp only [pipeline, flat, calculateHealth], ?_⟩
  simp only [pipeline, flat, Processed.unstamped, alerts, health]

theorem Processed.ingested_unstamped (p : Processed) (health : HealthIndex) :
    (p.ingested health).unstamped =
      (p.unstamped.ingested (HealthIndex.unstamped health)).unstamped := by
  simp [Processed.ingested, Ingested.unstamped, Processed.unstamped, Processed.alertRecords,
    Processed.healthRecord, Processed.publications, Processed.summary, AlertRecord.unstamped,
    HealthRecord.unstamped, Publication.unstamped, Payload.unstamped, HealthIndex.unstamped,
    Processor.unstamped, Function.comp_def]

/-- One call of the single path, under two supplies of ids and clock readings. -/
theorem processSingle_unstamped (M : PyMath) (state : ProcessorState) (reading : TelemetryReading)
    (stamps stamps' : Stamps) :
    (processSingle M state (reading, stamps)).1 = (processSingle M state (reading, stamps')).1 ∧
      (processSingle M state (reading, stamps)).2.map Ingested.unstamped =
        (processSingle M state (reading, stamps')).2.map Ingested.unstamped := by
  obtain ⟨next, same⟩ := pipeline_unstamped M state reading stamps stamps'
  simp only [processSingle_eq]
  refine ⟨next, ?_⟩
  have answer : ∀ p : Processed, (p.health.map p.ingested).map Ingested.unstamped =
      p.unstamped.health.map fun health => (p.unstamped.ingested health).unstamped := by
    intro p
    cases found : p.health with
    | error exc => simp [Except.map, Processed.unstamped, found]
    | ok health =>
        simp only [Except.map, p.ingested_unstamped]
        simp only [Processed.unstamped, found, Except.map]
  rw [answer, answer, same]

/-! ## The two paths -/

/-- The lists a batch would have, filled call by call. -/
def Batch.ofIngested (work : List Ingested) : Batch where
  results := work.map (·.summary)
  allTelemetryRows := work.flatMap (·.telemetryDicts)
  allAlertRecords := work.flatMap (·.alertDicts)
  allHealthRecords := work.flatMap (·.healthDicts)
  publishItems := work.flatMap (·.pubsub)
  errors := []

theorem Batch.ofIngested_unstamped (work : List Ingested) :
    (ofIngested work).unstamped = ofIngested (work.map Ingested.unstamped) := by
  simp [ofIngested, Batch.unstamped, Ingested.unstamped, List.map_flatMap, List.flatMap_map,
    Function.comp_def]

/-- Outputs without an error are summaries, and their lists are the batch's. -/
theorem Batch.collect_clean {ps : List Processed} (clean : (collect ps).errors = []) :
    ∃ work, ps.map (fun p => p.health.map p.ingested) = work.map .ok ∧
      collect ps = ofIngested work := by
  induction ps with
  | nil => exact ⟨[], rfl, rfl⟩
  | cons p rest ih =>
      simp only [collect_cons, append, List.append_eq_nil_iff] at clean
      obtain ⟨work, answers, lists⟩ := ih clean.2
      cases found : p.health with
      | error exc => simp [Processed.toBatch, found] at clean
      | ok health =>
          refine ⟨p.ingested health :: work, ?_, ?_⟩
          · rw [List.map_cons, answers, found]
            rfl
          · simp [collect_cons, lists, Processed.toBatch, found, append, ofIngested,
              Processed.ingested]

theorem run_processSingle (M : PyMath) (state : ProcessorState)
    (readings : List (TelemetryReading × Stamps)) :
    (processSingle M).run state readings =
      (((pipeline M).run state readings).1,
        ((pipeline M).run state readings).2.map fun p => p.health.map p.ingested) := by
  induction readings generalizing state with
  | nil => rfl
  | cons item rest ih => simp [processSingle_eq, ih]

/-- The same readings under two supplies, side by side. -/
theorem paired_of_map_fst {readings readings' : List (TelemetryReading × Stamps)}
    (same : readings.map Prod.fst = readings'.map Prod.fst) :
    List.Forall₂ (fun a b => a.1 = b.1) readings readings' := by
  rw [← List.forall₂_eq_eq_eq] at same
  exact List.forall₂_map_left_iff.mp (List.forall₂_map_right_iff.mp same)

/-- Runs of the single path under two supplies of ids and clock readings. -/
theorem run_processSingle_unstamped (M : PyMath) (state : ProcessorState)
    {readings readings' : List (TelemetryReading × Stamps)}
    (same : readings.map Prod.fst = readings'.map Prod.fst) :
    ((processSingle M).run state readings).1 = ((processSingle M).run state readings').1 ∧
      ((processSingle M).run state readings).2.map (Except.map Ingested.unstamped) =
        ((processSingle M).run state readings').2.map (Except.map Ingested.unstamped) := by
  refine Machine.run_lockstep (R := Eq) ?_ rfl (paired_of_map_fst same)
  rintro state _ ⟨reading, stamps⟩ ⟨_, stamps'⟩ rfl rfl
  exact processSingle_unstamped M state reading stamps stamps'

/-- Outputs that agree through `f` with successful ones are successful themselves. -/
theorem eq_map_ok_of_map_eq {ε α β : Type} (f : α → β) {outputs : List (Except ε α)}
    {work : List α}
    (same : (work.map Except.ok).map (Except.map f) = outputs.map (Except.map f)) :
    ∃ work' : List α, outputs = work'.map .ok ∧ work.map f = work'.map f := by
  induction outputs generalizing work with
  | nil =>
      obtain rfl : work = [] := by simpa using same
      exact ⟨[], rfl, rfl⟩
  | cons output rest ih =>
      cases work with
      | nil => simp at same
      | cons a as =>
          simp only [List.map_cons, List.cons.injEq] at same
          obtain ⟨work', outputs, agree⟩ := ih same.2
          cases output with
          | error exc => simp [Except.map] at same
          | ok b =>
              have head : f a = f b := by simpa [Except.map] using same.1
              exact ⟨b :: work', by simp [outputs], by simp [head, agree]⟩

/-- **The batch path equals the single path.**  Where no reading raises, the batch
leaves the dictionaries of the single calls made in order and fills its lists with
what these produce. -/
theorem batch_eq_single (M : PyMath) (state : ProcessorState)
    {readings singles : List (TelemetryReading × Stamps)}
    (same : readings.map Prod.fst = singles.map Prod.fst)
    (clean : (processReadingsSync M state readings).2.errors = []) :
    ∃ work : List Ingested,
      (processSingle M).run state singles =
          ((processReadingsSync M state readings).1, work.map .ok) ∧
        (processReadingsSync M state readings).2.unstamped = (Batch.ofIngested work).unstamped := by
  rw [processReadingsSync_eq] at clean ⊢
  obtain ⟨work, answers, lists⟩ := Batch.collect_clean clean
  obtain ⟨last, outputs⟩ := run_processSingle_unstamped M state same
  rw [run_processSingle M state readings, answers] at last outputs
  obtain ⟨work', answers', agree⟩ := eq_map_ok_of_map_eq Ingested.unstamped outputs
  refine ⟨work', Prod.ext last.symm answers', ?_⟩
  rw [lists, Batch.ofIngested_unstamped, Batch.ofIngested_unstamped, agree]

/-- A transformer above its reference temperature and an overspeeding diesel, twice. -/
def twoLocomotives (draw : UUID) : List (TelemetryReading × Stamps) :=
  let kz8a : TelemetryReading :=
    { locomotiveId := 1, locomotiveType := .kz8a, timestamp := 0,
      sensors := [⟨.transformerTemp, 95, "°C"⟩] }
  let te33a : TelemetryReading :=
    { locomotiveId := 2, locomotiveType := .te33a, timestamp := 0,
      sensors := [⟨.speedActual, 125, "km/h"⟩, ⟨.speedActual, 130, "km/h"⟩] }
  let stamps : Stamps := ⟨⟨fun n => draw + BitVec.ofNat 128 n, 5⟩, draw, 6⟩
  [(kz8a, stamps), (te33a, stamps), (kz8a, stamps)]

theorem batch_eq_single_twoLocomotives :
    ∃ work : List Ingested,
      (processSingle .onIntegers).run .empty (twoLocomotives 2000) =
          ((processReadingsSync .onIntegers .empty (twoLocomotives 1000)).1, work.map .ok) ∧
        (processReadingsSync .onIntegers .empty (twoLocomotives 1000)).2.unstamped =
          (Batch.ofIngested work).unstamped :=
  batch_eq_single .onIntegers .empty rfl (by decide +kernel)

end LocoTwin.Processor
