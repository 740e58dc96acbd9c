/-
# Processor.RouterIngest -- the ingest endpoints, single and batch

`processSingle` is the computation of `_process_single`, `processReadingsSync` the
batch path; the source writes the pipeline out in both, and so do these.  Ids and
clock readings are inputs (`Stamps`).  A publication carries the object that is
encoded, an error what the caller is told.

The writes are a second step: `xaddRows` appends one message to a stream, with an
outcome chosen by the environment, and both endpoints gather their three calls
with `return_exceptions=True` and look at none of the results.

`pipeline` is the common core, filter, alerts and health of one reading as a
machine over the module dictionaries; `processSingle_eq` and
`processReadingsSync_eq` say that both paths are that core and a collection of its
outputs.
-/
import LocoTwin.Processor.AlertEvaluator
import LocoTwin.Processor.HealthService
import LocoTwin.Processor.IngestionService

namespace LocoTwin.Processor

open LocoTwin.Lib LocoTwin.Shared

set_option autoImplicit false

/-! ## Records and answers -/

structure AlertRecord where
  id : UUID
  locomotiveId : UUID
  locomotiveType : LocomotiveType
  sensorType : SensorType
  severity : AlertSeverity
  value : PyFloat
  thresholdMin : PyFloat
  thresholdMax : PyFloat
  message : String
  recommendation : String
  timestamp : Datetime
  acknowledged : Bool
  deriving DecidableEq

structure HealthRecord where
  id : UUID
  locomotiveId : UUID
  locomotiveType : LocomotiveType
  score : PyFloat
  category : String
  topFactors : List HealthFactor
  damagePenalty : PyFloat
  calculatedAt : Datetime
  deriving DecidableEq

/-- The summary a reading is answered with. -/
structure ResultSummary where
  locomotiveId : String
  rowsWritten : Nat
  alertsRaised : Nat
  healthScore : PyFloat
  healthCategory : String
  deriving DecidableEq

/-- The object whose dump a publication encodes. -/
inductive Payload where
  | telemetry (reading : TelemetryReading)
  | health (index : HealthIndex)
  | alert (event : AlertEvent)
  deriving DecidableEq

/-- `(channel, payload)` -/
abbrev Publication := String × Payload

/-- What the processing of one reading draws: ids and clock readings. -/
structure Stamps where
  alerts : AlertStamps
  healthId : UUID
  healthTime : Datetime

/-- The three module dictionaries. -/
structure ProcessorState where
  ingest : IngestState
  damage : DamageState
  deriving DecidableEq

def ProcessorState.empty : ProcessorState := ⟨.empty, Dict.empty⟩

/-! ## The single path -/

/-- What one call hands to Redis, and its summary. -/
structure Ingested where
  telemetryDicts : List TelemetryRow
  alertDicts : List AlertRecord
  healthDicts : List HealthRecord
  pubsub : List Publication
  summary : ResultSummary
  deriving DecidableEq

def processSingle (M : PyMath) :
    Machine ProcessorState (TelemetryReading × Stamps) (Except PyError Ingested) :=
  fun state (reading, stamps) =>
    let locoId := UUID.str reading.locomotiveId
    let (ingest, reading, telemetryDicts) := flattenReading state.ingest reading
    let alertEvents := evaluateAlerts stamps.alerts reading
    let alertDicts := alertEvents.map fun ae =>
      { id := ae.id
        locomotiveId := ae.locomotiveId
        locomotiveType := reading.locomotiveType
        sensorType := ae.sensorType
        severity := ae.severity
        value := ae.value
        thresholdMin := ae.thresholdMin
        thresholdMax := ae.thresholdMax
        message := ae.message
        recommendation := ae.recommendation
        timestamp := ae.timestamp
        acknowledged := ae.acknowledged }
    match calculateHealth M stamps.healthTime state.damage reading with
    | (.error exc, damage) => ({ ingest, damage }, .error exc)
    | (.ok health, damage) =>
        let healthDicts :=
          [{ id := stamps.healthId
             locomotiveId := reading.locomotiveId
             locomotiveType := reading.locomotiveType
             score := health.overallScore
             category := health.category
             topFactors := health.topFactors
             damagePenalty := health.damagePenalty
             calculatedAt := health.calculatedAt }]
        let pubsub :=
          [(telemetryChannel ++ ":" ++ locoId, Payload.telemetry reading),
            (healthChannel ++ ":" ++ locoId, Payload.health health)] ++
          alertEvents.map fun ae => (alertChannel, Payload.alert ae)
        ({ ingest, damage },
          .ok { telemetryDicts, alertDicts, healthDicts, pubsub
                summary :=
                  { locomotiveId := locoId
                    rowsWritten := telemetryDicts.length
                    alertsRaised := alertEvents.length
                    healthScore := health.overallScore
                    healthCategory := health.category } })

/-! ## The batch path -/

structure BatchError where
  locomotiveId : String
  error : String
  deriving DecidableEq

/-- The six lists the batch path fills. -/
structure Batch where
  results : List ResultSummary
  allTelemetryRows : List TelemetryRow
  allAlertRecords : List AlertRecord
  allHealthRecords : List HealthRecord
  publishItems : List Publication
  errors : List BatchError
  deriving DecidableEq

def Batch.empty : Batch := ⟨[], [], [], [], [], []⟩

/-- The body of the loop.  Rows and alert records of a reading whose health index
raises have been collected by then, and stay. -/
def batchStep (M : PyMath) :
    ProcessorState × Batch → TelemetryReading × Stamps → ProcessorState × Batch
  | (state, batch), (reading, stamps) =>
      let locoId := UUID.str reading.locomotiveId
      let (ingest, reading, rows) := flattenReading state.ingest reading
      let batch := { batch with allTelemetryRows := batch.allTelemetryRows ++ rows }
      let alertEvents := evaluateAlerts stamps.alerts reading
      let alertRecords : List AlertRecord := alertEvents.map fun ae =>
        { id := ae.id
          locomotiveId := ae.locomotiveId
          locomotiveType := reading.locomotiveType
          sensorType := ae.sensorType
          severity := ae.severity
          value := ae.value
          thresholdMin := ae.thresholdMin
          thresholdMax := ae.thresholdMax
          message := ae.message
          recommendation := ae.recommendation
          timestamp := ae.timestamp
          acknowledged := ae.acknowledged }
      let batch := { batch with allAlertRecords := batch.allAlertRecords ++ alertRecords }
      match calculateHealth M stamps.healthTime state.damage reading with
      | (.error exc, damage) =>
          let error : BatchError := { locomotiveId := locoId, error := exc.text }
          ({ ingest, damage }, { batch with errors := batch.errors ++ [error] })
      | (.ok health, damage) =>
          let healthRecord : HealthRecord :=
            { id := stamps.healthId
              locomotiveId := reading.locomotiveId
              locomotiveType := reading.locomotiveType
              score := health.overallScore
              category := health.category
              topFactors := health.topFactors
              damagePenalty := health.damagePenalty
              calculatedAt := health.calculatedAt }
          let result : ResultSummary :=
            { locomotiveId := locoId
              rowsWritten := rows.length
              alertsRaised := alertEvents.length
              healthScore := health.overallScore
              healthCategory := health.category }
          ({ ingest, damage },
            { batch with
              allHealthRecords := batch.allHealthRecords ++ [healthRecord]
              publishItems := batch.publishItems ++
                [(telemetryChannel ++ ":" ++ locoId, Payload.telemetry reading)] ++
                [(healthChannel ++ ":" ++ locoId, Payload.health health)] ++
                alertEvents.map fun ae => (alertChannel, Payload.alert ae)
              results := batch.results ++ [result] })

def processReadingsSync (M : PyMath) (state : ProcessorState)
    (readings : List (TelemetryReading × Stamps)) : ProcessorState × Batch :=
  readings.foldl (batchStep M) (state, .empty)

/-! ## Streams and endpoints -/

/-- How a call of `xadd` ends: the message is in the stream, or the call raised,
before or after the message got there. -/
inductive XaddOutcome where
  | appended
  | lost (exc : PyError)
  | unconfirmed (exc : PyError)
  deriving DecidableEq

/-- The message reaches its stream. -/
def XaddOutcome.lands : XaddOutcome → Bool
  | .lost _ => false
  | _ => true

/-- `xadd_rows`, on the messages of its stream; the position of a message stands for
its id. -/
def xaddRows {α : Type} (outcome : XaddOutcome) (stream : List (List α)) (rows : List α) :
    Except PyError (Option Nat) × List (List α) :=
  if rows.isEmpty then (.ok none, stream)
  else
    match outcome with
    | .appended => (.ok (some stream.length), stream ++ [rows])
    | .lost exc => (.error exc, stream)
    | .unconfirmed exc => (.error exc, stream ++ [rows])

structure Streams where
  telemetry : List (List TelemetryRow)
  alerts : List (List AlertRecord)
  health : List (List HealthRecord)
  deriving DecidableEq

/-- The outcomes of the three calls of one request. -/
structure Outcomes where
  telemetry : XaddOutcome
  alerts : XaddOutcome
  health : XaddOutcome

/-- The gathered calls.  Their results are dropped. -/
def gatherXadds (outcomes : Outcomes) (streams : Streams) (telemetryRows : List TelemetryRow)
    (alertRecords : List AlertRecord) (healthRecords : List HealthRecord) : Streams :=
  let (_, telemetry) := xaddRows outcomes.telemetry streams.telemetry telemetryRows
  let (_, alerts) := xaddRows outcomes.alerts streams.alerts alertRecords
  let (_, health) := xaddRows outcomes.health streams.health healthRecords
  { telemetry, alerts, health }

/-- The answer `accepted` with its summary, or the error behind a failed request. -/
def ingestTelemetry (M : PyMath) (state : ProcessorState) (streams : Streams)
    (reading : TelemetryReading) (stamps : Stamps) (outcomes : Outcomes) :
    ProcessorState × Streams × Except PyError ResultSummary :=
  match processSingle M state (reading, stamps) with
  | (state, .error exc) => (state, streams, .error exc)
  | (state, .ok work) =>
      (state,
        gatherXadds outcomes streams work.telemetryDicts work.alertDicts work.healthDicts,
        .ok work.summary)

structure BatchAnswer where
  processed : Nat
  failed : Nat
  results : List ResultSummary
  errors : List BatchError
  deriving DecidableEq

/-- `execute` is what the publishing pipeline raises, if it does. -/
def ingestBatch (M : PyMath) (state : ProcessorState) (streams : Streams)
    (readings : List (TelemetryReading × Stamps)) (outcomes : Outcomes)
    (execute : Option PyError) : ProcessorState × Streams × Except PyError BatchAnswer :=
  let (state, batch) := processReadingsSync M state readings
  let streams := gatherXadds outcomes streams batch.allTelemetryRows batch.allAlertRecords
    batch.allHealthRecords
  let answer : BatchAnswer :=
    { processed := batch.results.length
      failed := batch.errors.length
      results := batch.results
      errors := batch.errors }
  match batch.publishItems, execute with
  | _ :: _, some exc => (state, streams, .error exc)
  | _, _ => (state, streams, .ok answer)

/-! ## The common core -/

/-- What the pipeline makes of one reading. -/
structure Processed where
  reading : TelemetryReading
  rows : List TelemetryRow
  alerts : List AlertEvent
  health : Except PyError HealthIndex
  healthId : UUID

def pipeline (M : PyMath) : Machine ProcessorState (TelemetryReading × Stamps) Processed :=
  fun state (reading, stamps) =>
    let (ingest, reading, rows) := flattenReading state.ingest reading
    let (health, damage) := calculateHealth M stamps.healthTime state.damage reading
    ({ ingest, damage },
      { reading, rows, alerts := evaluateAlerts stamps.alerts reading, health
        healthId := stamps.healthId })

namespace Processed

def alertRecords (p : Processed) : List AlertRecord :=
  p.alerts.map fun ae =>
    { id := ae.id, locomotiveId := ae.locomotiveId, locomotiveType := p.reading.locomotiveType,
      sensorType := ae.sensorType, severity := ae.severity, value := ae.value,
      thresholdMin := ae.thresholdMin, thresholdMax := ae.thresholdMax, message := ae.message,
      recommendation := ae.recommendation, timestamp := ae.timestamp,
      acknowledged := ae.acknowledged }

def healthRecord (p : Processed) (health : HealthIndex) : HealthRecord :=
  { id := p.healthId, locomotiveId := p.reading.locomotiveId,
    locomotiveType := p.reading.locomotiveType, score := health.overallScore,
    category := health.category, topFactors := health.topFactors,
    damagePenalty := health.damagePenalty, calculatedAt := health.calculatedAt }

def publications (p : Processed) (health : HealthIndex) : List Publication :=
  (telemetryChannel ++ ":" ++ UUID.str p.reading.locomotiveId, .telemetry p.reading) ::
    (healthChannel ++ ":" ++ UUID.str p.reading.locomotiveId, .health health) ::
      p.alerts.map fun ae => (alertChannel, .alert ae)

def summary (p : Processed) (health : HealthIndex) : ResultSummary :=
  { locomotiveId := UUID.str p.reading.locomotiveId, rowsWritten := p.rows.length,
    alertsRaised := p.alerts.length, healthScore := health.overallScore,
    healthCategory := health.category }

def ingested (p : Processed) (health : HealthIndex) : Ingested :=
  { telemetryDicts := p.rows, alertDicts := p.alertRecords, healthDicts := [p.healthRecord health],
    pubsub := p.publications health, summary := p.summary health }

/-- What one reading adds to the lists of a batch. -/
def toBatch (p : Processed) : Batch :=
  match p.health with
  | .error exc =>
      { Batch.empty with
        allTelemetryRows := p.rows
        allAlertRecords := p.alertRecords
        errors := [{ locomotiveId := UUID.str p.reading.locomotiveId, error := exc.text }] }
  | .ok health =>
      { results := [p.summary health]
        allTelemetryRows := p.rows
        allAlertRecords := p.alertRecords
        allHealthRecords := [p.healthRecord health]
        publishItems := p.publications health
        errors := [] }

end Processed

namespace Batch

/-- List by list. -/
def append (a b : Batch) : Batch :=
  { results := a.results ++ b.results
    allTelemetryRows := a.allTelemetryRows ++ b.allTelemetryRows
    allAlertRecords := a.allAlertRecords ++ b.allAlertRecords
    allHealthRecords := a.allHealthRecords ++ b.allHealthRecords
    publishItems := a.publishItems ++ b.publishItems
    errors := a.errors ++ b.errors }

theorem append_assoc (a b c : Batch) : (a.append b).append c = a.append (b.append c) := by
  simp [append]

@[simp] theorem empty_append (a : Batch) : empty.append a = a := rfl

@[simp] theorem append_empty (a : Batch) : a.append empty = a := by
  simp [append, empty]

/-- The lists of a batch whose readings came out as `ps`. -/
def collect (ps : List Processed) : Batch := ps.foldr (fun p rest => p.toBatch.append rest) empty

@[simp] theorem collect_nil : collect [] = empty := rfl

@[simp] theorem collect_cons (p : Processed) (ps : List Processed) :
    collect (p :: ps) = p.toBatch.append (collect ps) := rfl

end Batch

/-- The single path is the core and its summary. -/
theorem processSingle_eq (M : PyMath) (state : ProcessorState)
    (item : TelemetryReading × Stamps) :
    processSingle M state item =
      ((pipeline M state item).1,
        (pipeline M state item).2.health.map (pipeline M state item).2.ingested) := by
  obtain ⟨reading, stamps⟩ := item
  rcases flat : flattenReading state.ingest reading with ⟨ingest, mutated, rows⟩
  have own := locomotiveId_of_flat flat
  rcases health : calculateHealth M stamps.healthTime state.damage mutated with ⟨out, damage⟩
  cases out <;>
    simp [processSingle, pipeline, flat, health, Except.map, Processed.ingested,
      Processed.alertRecords, Processed.healthRecord, Processed.publications, Processed.summary,
      own]

theorem batchStep_eq (M : PyMath) (state : ProcessorState) (batch : Batch)
    (item : TelemetryReading × Stamps) :
    batchStep M (state, batch) item =
      ((pipeline M state item).1, batch.append (pipeline M state item).2.toBatch) := by
  obtain ⟨reading, stamps⟩ := item
  rcases flat : flattenReading state.ingest reading with ⟨ingest, mutated, rows⟩
  have own := locomotiveId_of_flat flat
  rcases health : calculateHealth M stamps.healthTime state.damage mutated with ⟨out, damage⟩
  cases out <;>
    simp [batchStep, pipeline, flat, health, Batch.append, Batch.empty, Processed.toBatch,
      Processed.alertRecords, Processed.healthRecord, Processed.publications, Processed.summary,
      own]

/-- The batch path is the core run over the readings, its outputs collected. -/
theorem processReadingsSync_eq (M : PyMath) (state : ProcessorState)
    (readings : List (TelemetryReading × Stamps)) :
    processReadingsSync M state readings =
      (((pipeline M).run state readings).1, Batch.collect ((pipeline M).run state readings).2) := by
  -- from any lists collected so far
  have after : ∀ batch, readings.foldl (batchStep M) (state, batch) =
      (((pipeline M).run state readings).1,
        batch.append (Batch.collect ((pipeline M).run state readings).2)) := by
    induction readings generalizing state with
    | nil => intro batch; simp
    | cons item rest ih =>
        intro batch
        rw [List.foldl_cons, batchStep_eq, ih]
        simp [Batch.append_assoc]
  exact after .empty

end LocoTwin.Processor
