/-
# Processor.StreamRows -- the row dictionaries handed to `xadd_rows`

The literals of the source, key by key: one in `flatten_reading`, and for alerts and health
indices one in `_process_single` and one in `_process_readings_sync`.

`Handed` are the rows of the three calls of one request to either endpoint.
-/
import LocoTwin.Processor.RouterIngest
import LocoTwin.Shared.Wire

namespace LocoTwin.Processor

open LocoTwin.Lib LocoTwin.Shared

set_option autoImplicit false

def pyFloat (f : PyFloat) : Field := .plain (.float f)

def pyStr (s : String) : Field := .plain (.str s)

/-- `None`, or the float. -/
def optFloat : Option PyFloat → Field
  | none => .plain .none
  | some f => pyFloat f

/-- The literal of `flatten_reading`. -/
def TelemetryRow.dict (r : TelemetryRow) : Row :=
  [ ("time", .datetime r.time),
    ("locomotive_id", .uuid r.locomotiveId),
    ("locomotive_type", pyStr r.locomotiveType.value),
    ("sensor_type", pyStr r.sensorType.value),
    ("value", pyFloat r.value),
    ("filtered_value", pyFloat r.filteredValue),
    ("unit", pyStr r.unit),
    ("sample_rate_hz", pyFloat r.sampleRateHz),
    ("latitude", optFloat r.latitude),
    ("longitude", optFloat r.longitude) ]

/-- The literal of `_process_single`. -/
def AlertRecord.singleDict (r : AlertRecord) : Row :=
  [ ("id", .uuid r.id),
    ("locomotive_id", .uuid r.locomotiveId),
    ("locomotive_type", pyStr r.locomotiveType.value),
    ("sensor_type", pyStr r.sensorType.value),
    ("severity", pyStr r.severity.value),
    ("value", pyFloat r.value),
    ("threshold_min", pyFloat r.thresholdMin),
    ("threshold_max", pyFloat r.thresholdMax),
    ("message", pyStr r.message),
    ("recommendation", pyStr r.recommendation),
    ("timestamp", .datetime r.timestamp),
    ("acknowledged", .plain (.bool r.acknowledged)) ]

/-- The literal of `_process_readings_sync`. -/
def AlertRecord.batchDict (r : AlertRecord) : Row :=
  [ ("id", .uuid r.id),
    ("locomotive_id", .uuid r.locomotiveId),
    ("locomotive_type", pyStr r.locomotiveType.value),
    ("sensor_type", pyStr r.sensorType.value),
    ("severity", pyStr r.severity.value),
    ("value", pyFloat r.value),
    ("threshold_min", pyFloat r.thresholdMin),
    ("threshold_max", pyFloat r.thresholdMax),
    ("message", pyStr r.message),
    ("recommendation", pyStr r.recommendation),
    ("timestamp", .datetime r.timestamp),
    ("acknowledged", .plain (.bool r.acknowledged)) ]

/-- `f.model_dump()` -/
def modelDump (f : HealthFactor) : PyVal :=
  .dict
    [ ("sensor_type", .str f.sensorType.value),
      ("value", .float f.value),
      ("unit", .str f.unit),
      ("penalty", .float f.penalty),
      ("contribution_pct", .float f.contributionPct),
      ("deviation_pct", .float f.deviationPct) ]

/-- `[f.model_dump() for f in health.top_factors]` -/
def HealthRecord.factors (r : HealthRecord) : PyVal := .list (r.topFactors.map modelDump)

/-- The literal of `_process_single`. -/
def HealthRecord.singleDict (r : HealthRecord) : Row :=
  [ ("id", .uuid r.id),
    ("locomotive_id", .uuid r.locomotiveId),
    ("locomotive_type", pyStr r.locomotiveType.value),
    ("score", pyFloat r.score),
    ("category", pyStr r.category),
    ("top_factors", .plain r.factors),
    ("damage_penalty", pyFloat r.damagePenalty),
    ("calculated_at", .datetime r.calculatedAt) ]

/-- The literal of `_process_readings_sync`. -/
def HealthRecord.batchDict (r : HealthRecord) : Row :=
  [ ("id", .uuid r.id),
    ("locomotive_id", .uuid r.locomotiveId),
    ("locomotive_type", pyStr r.locomotiveType.value),
    ("score", pyFloat r.score),
    ("category", pyStr r.category),
    ("top_factors", .plain r.factors),
    ("damage_penalty", pyFloat r.damagePenalty),
    ("calculated_at", .datetime r.calculatedAt) ]

/-- The lists of the three calls. -/
structure StreamRows where
  telemetry : List Row
  alerts : List Row
  health : List Row
  deriving DecidableEq

def Ingested.streamRows (work : Ingested) : StreamRows where
  telemetry := work.telemetryDicts.map TelemetryRow.dict
  alerts := work.alertDicts.map AlertRecord.singleDict
  health := work.healthDicts.map HealthRecord.singleDict

def Batch.streamRows (batch : Batch) : StreamRows where
  telemetry := batch.allTelemetryRows.map TelemetryRow.dict
  alerts := batch.allAlertRecords.map AlertRecord.batchDict
  health := batch.allHealthRecords.map HealthRecord.batchDict

/-- The rows a request can hand to `xadd_rows`, from any state of the processor. -/
inductive Handed (M : PyMath) : StreamRows → Prop where
  | single (state : ProcessorState) (item : TelemetryReading × Stamps) (work : Ingested) :
      (processSingle M state item).2 = .ok work → Handed M work.streamRows
  | batch (state : ProcessorState) (items : List (TelemetryReading × Stamps)) :
      Handed M (processReadingsSync M state items).2.streamRows

end LocoTwin.Processor
