/-
# Analytics.GrpcHop -- rows of the repository, through gRPC

The servicer encodes rows as messages and `AnalyticsClient` decodes them.  A double of
proto3 is never null, so each field that may be null has a convention of its own:

* a bucketed row says with `is_gap` that its four values are null, which is right where
  they are null together (`bucketed_survives_iff`), as they are in every row that
  `query_bucketed` returns (`queryBucketed_nullsTogether`);
* a coordinate of a raw row is decoded as null where it is 0.0, so a locomotive on the
  equator or on the prime meridian loses one; `filtered_value` is never decoded as null.

**`nulls_survive_iff`** has the exact condition for both kinds.
-/
import LocoTwin.Analytics.Downsampling

namespace LocoTwin.Analytics

open LocoTwin.Lib LocoTwin.Shared

set_option autoImplicit false

/-! ## Python's `or` on a number that may be null -/

/-- `x or 0` -/
def orZero (x : Option PyFloat) : PyFloat := x.getD 0

/-- `x or None` -/
def orNone (x : PyFloat) : Option PyFloat := if x = 0 then none else some x

theorem orNone_orZero_iff (x : Option PyFloat) : orNone (orZero x) = x ↔ x ≠ some 0 := by
  cases x with
  | none => simp [orNone, orZero]
  | some v => by_cases zero : v = 0 <;> simp [orNone, orZero, zero]

theorem some_orZero_iff (x : Option PyFloat) : some (orZero x) = x ↔ x ≠ none := by
  cases x <;> simp [orZero]

/-! ## Bucketed rows -/

/-- The message of a bucketed row. -/
structure TelemetryPoint where
  bucket : String
  locomotiveId : String
  sensorType : String
  avgValue : PyFloat
  minValue : PyFloat
  maxValue : PyFloat
  lastValue : PyFloat
  unit : String
  isGap : Bool
  deriving DecidableEq

structure TelemetryBucketedResponse where
  points : List TelemetryPoint
  dataSource : String
  totalPoints : ℕ
  deriving DecidableEq

/-- What the client makes of a bucketed message. -/
structure BucketedPoint where
  bucket : String
  locomotiveId : String
  sensorType : String
  avgValue : Option PyFloat
  minValue : Option PyFloat
  maxValue : Option PyFloat
  lastValue : Option PyFloat
  unit : String
  isGap : Bool
  deriving DecidableEq

structure BucketedResult where
  points : List BucketedPoint
  dataSource : String
  totalPoints : ℕ
  deriving DecidableEq

section

variable (str : Bucket → String)

/-- One point of `GetTelemetryBucketed`; `str` is the text of a bucket. -/
def telemetryPoint (r : BucketRow) : TelemetryPoint where
  bucket := str r.bucket
  locomotiveId := UUID.str r.locomotiveId
  sensorType := r.sensorType
  avgValue := orZero r.avgValue
  minValue := orZero r.minValue
  maxValue := orZero r.maxValue
  lastValue := orZero r.lastValue
  unit := r.unit
  isGap := r.avgValue.isNone

/-- `GetTelemetryBucketed` -/
def AnalyticsServicer.getTelemetryBucketed (rows : List BucketRow) (dataSource : String) :
    TelemetryBucketedResponse where
  points := rows.map (telemetryPoint str)
  dataSource := dataSource
  totalPoints := rows.length

end

def bucketedPoint (p : TelemetryPoint) : BucketedPoint where
  bucket := p.bucket
  locomotiveId := p.locomotiveId
  sensorType := p.sensorType
  avgValue := if p.isGap then none else some p.avgValue
  minValue := if p.isGap then none else some p.minValue
  maxValue := if p.isGap then none else some p.maxValue
  lastValue := if p.isGap then none else some p.lastValue
  unit := p.unit
  isGap := p.isGap

/-- `get_telemetry_bucketed` -/
def AnalyticsClient.getTelemetryBucketed (resp : TelemetryBucketedResponse) : BucketedResult where
  points := resp.points.map bucketedPoint
  dataSource := resp.dataSource
  totalPoints := resp.totalPoints

/-! ## Raw rows -/

/-- A row of `query_raw`, which has a `time`, or of `query_snapshot`, which has a
`timestamp`. -/
structure RawRow where
  time : Option Datetime
  timestamp : Option Datetime
  locomotiveId : UUID
  locomotiveType : String
  sensorType : String
  value : PyFloat
  filteredValue : Option PyFloat
  unit : String
  latitude : Option PyFloat
  longitude : Option PyFloat
  deriving DecidableEq

structure TelemetryRawPoint where
  time : String
  locomotiveId : String
  locomotiveType : String
  sensorType : String
  value : PyFloat
  filteredValue : PyFloat
  unit : String
  latitude : PyFloat
  longitude : PyFloat
  deriving DecidableEq

/-- What the client makes of a raw message. -/
structure RawPoint where
  time : String
  locomotiveId : String
  locomotiveType : String
  sensorType : String
  value : PyFloat
  filteredValue : PyFloat
  unit : String
  latitude : Option PyFloat
  longitude : Option PyFloat
  deriving DecidableEq

/-- `_row_to_raw_proto`; `str` is the text of an instant. -/
def rowToRawProto (str : Datetime → String) (r : RawRow) : TelemetryRawPoint where
  time := ((r.time <|> r.timestamp).map str).getD ""
  locomotiveId := UUID.str r.locomotiveId
  locomotiveType := r.locomotiveType
  sensorType := r.sensorType
  value := r.value
  filteredValue := orZero r.filteredValue
  unit := r.unit
  latitude := orZero r.latitude
  longitude := orZero r.longitude

/-- `_raw_point_to_dict` -/
def rawPointToDict (p : TelemetryRawPoint) : RawPoint where
  time := p.time
  locomotiveId := p.locomotiveId
  locomotiveType := p.locomotiveType
  sensorType := p.sensorType
  value := p.value
  filteredValue := p.filteredValue
  unit := p.unit
  latitude := orNone p.latitude
  longitude := orNone p.longitude

/-! ## What survives -/

/-- The numbers of a bucketed row. -/
def BucketRow.numbers (r : BucketRow) : List (Option PyFloat) :=
  [r.avgValue, r.minValue, r.maxValue, r.lastValue]

def BucketedPoint.numbers (p : BucketedPoint) : List (Option PyFloat) :=
  [p.avgValue, p.minValue, p.maxValue, p.lastValue]

def RawRow.numbers (r : RawRow) : List (Option PyFloat) :=
  [some r.value, r.filteredValue, r.latitude, r.longitude]

def RawPoint.numbers (p : RawPoint) : List (Option PyFloat) :=
  [some p.value, some p.filteredValue, p.latitude, p.longitude]

/-- The hop changes no number, and no null, of the bucketed rows. -/
def BucketedSurvives (str : Bucket → String) (rows : List BucketRow) (dataSource : String) :
    Prop :=
  (AnalyticsClient.getTelemetryBucketed
    (AnalyticsServicer.getTelemetryBucketed str rows dataSource)).points.map
      BucketedPoint.numbers = rows.map BucketRow.numbers

/-- Nor of the raw rows. -/
def RawSurvives (str : Datetime → String) (rows : List RawRow) : Prop :=
  (rows.map fun r => rawPointToDict (rowToRawProto str r)).map RawPoint.numbers =
    rows.map RawRow.numbers

instance (str : Datetime → String) (rows : List RawRow) : Decidable (RawSurvives str rows) :=
  inferInstanceAs (Decidable (_ = _))

/-- The four values are null together. -/
def BucketRow.NullsTogether (r : BucketRow) : Prop :=
  ∀ x ∈ r.numbers, x.isNone = r.avgValue.isNone

instance (r : BucketRow) : Decidable r.NullsTogether :=
  inferInstanceAs (Decidable (∀ x ∈ r.numbers, _))

theorem bucketed_numbers_iff (str : Bucket → String) (r : BucketRow) :
    (bucketedPoint (telemetryPoint str r)).numbers = r.numbers ↔ r.NullsTogether := by
  obtain ⟨_, _, _, avg, min, max, last, _⟩ := r
  cases avg <;> cases min <;> cases max <;> cases last <;>
    simp [BucketedPoint.numbers, BucketRow.numbers, BucketRow.NullsTogether, bucketedPoint,
      telemetryPoint, orZero]

theorem raw_numbers_iff (str : Datetime → String) (r : RawRow) :
    (rawPointToDict (rowToRawProto str r)).numbers = r.numbers ↔
      r.filteredValue ≠ none ∧ r.latitude ≠ some 0 ∧ r.longitude ≠ some 0 := by
  simp only [RawPoint.numbers, RawRow.numbers, rawPointToDict, rowToRawProto, List.cons.injEq,
    true_and, and_true, some_orZero_iff, orNone_orZero_iff]

theorem bucketed_survives_iff (str : Bucket → String) (rows : List BucketRow)
    (dataSource : String) :
    BucketedSurvives str rows dataSource ↔ ∀ r ∈ rows, r.NullsTogether := by
  simp only [BucketedSurvives, AnalyticsClient.getTelemetryBucketed,
    AnalyticsServicer.getTelemetryBucketed, List.map_map, List.map_inj_left, Function.comp_apply,
    bucketed_numbers_iff]

theorem raw_survives_iff (str : Datetime → String) (rows : List RawRow) :
    RawSurvives str rows ↔ ∀ r ∈ rows,
      r.filteredValue ≠ none ∧ r.latitude ≠ some 0 ∧ r.longitude ≠ some 0 := by
  simp only [RawSurvives, List.map_map, List.map_inj_left, Function.comp_apply, raw_numbers_iff]

/-! ## The rows a query returns -/

/-- The rows of `query_bucketed`: those of the database with the gaps marked, thinned to
`max_points`, where 0 is no limit. -/
def queryBucketed (fromisoformat : String → Datetime) (rows : List BucketRow)
    (bucketSizeSeconds : PyFloat) (maxPoints : ℕ) : List BucketRow :=
  let rows := insertGapMarkers fromisoformat rows bucketSizeSeconds
  if maxPoints ≠ 0 ∧ maxPoints < rows.length then lttb binary64 fromisoformat rows maxPoints
  else rows

theorem gapMarker_nullsTogether (fromisoformat : String → Datetime) (prev cur : BucketRow) :
    (gapMarker fromisoformat prev cur).NullsTogether := by
  simp [BucketRow.NullsTogether, BucketRow.numbers, gapMarker]

theorem withMarkers_nullsTogether (fromisoformat : String → Datetime) (threshold : PyFloat)
    (prev : BucketRow) {rest : List BucketRow} (together : ∀ r ∈ rest, r.NullsTogether) :
    ∀ r ∈ withMarkers fromisoformat threshold prev rest, r.NullsTogether := by
  induction rest generalizing prev with
  | nil => exact List.forall_mem_nil _
  | cons cur rest ih =>
      obtain ⟨here, later⟩ := List.forall_mem_cons.mp together
      have tail := ih cur later
      rw [withMarkers]
      split_ifs
      · exact List.forall_mem_cons.mpr ⟨gapMarker_nullsTogether _ _ _,
          List.forall_mem_cons.mpr ⟨here, tail⟩⟩
      · exact List.forall_mem_cons.mpr ⟨here, tail⟩

theorem insertGapMarkers_nullsTogether (fromisoformat : String → Datetime)
    (bucketSizeSeconds : PyFloat) {rows : List BucketRow}
    (together : ∀ r ∈ rows, r.NullsTogether) :
    ∀ r ∈ insertGapMarkers fromisoformat rows bucketSizeSeconds, r.NullsTogether := by
  cases rows with
  | nil => exact together
  | cons first rest =>
      obtain ⟨here, later⟩ := List.forall_mem_cons.mp together
      rw [insertGapMarkers]
      split_ifs
      · exact together
      · exact List.forall_mem_cons.mpr ⟨here, withMarkers_nullsTogether _ _ _ later⟩

/-- Thinning returns rows it was given, or, past their end, rows without values. -/
theorem lttb_nullsTogether (F : FloatArith) (fromisoformat : String → Datetime) (threshold : ℕ)
    {rows : List BucketRow} (together : ∀ r ∈ rows, r.NullsTogether) :
    ∀ r ∈ lttb F fromisoformat rows threshold, r.NullsTogether := by
  by_cases thinned : threshold ≤ 2 ∨ rows.length ≤ threshold
  · rwa [lttb, if_pos thinned]
  · rw [lttb_eq (by omega) (by omega)]
    intro r mem
    obtain ⟨j, _, rfl⟩ := List.mem_map.mp mem
    rw [rowAt, List.getD_eq_getElem?_getD]
    cases found : rows[j]? with
    | none => decide
    | some row => exact together row (List.mem_of_getElem? found)

theorem queryBucketed_nullsTogether (fromisoformat : String → Datetime)
    (bucketSizeSeconds : PyFloat) (maxPoints : ℕ) {rows : List BucketRow}
    (together : ∀ r ∈ rows, r.NullsTogether) :
    ∀ r ∈ queryBucketed fromisoformat rows bucketSizeSeconds maxPoints, r.NullsTogether := by
  have marked := insertGapMarkers_nullsTogether fromisoformat bucketSizeSeconds together
  rw [queryBucketed]
  split_ifs
  · exact lttb_nullsTogether _ _ _ marked
  · exact marked

/-! ## Both kinds -/

/-- **Bucketed and raw rows survive the hop exactly when the four values of every bucketed
row are null together, no raw row lacks its filtered value, and no coordinate is 0.0.** -/
theorem nulls_survive_iff (bucketStr : Bucket → String) (str : Datetime → String)
    (rows : List BucketRow) (dataSource : String) (raw : List RawRow) :
    BucketedSurvives bucketStr rows dataSource ∧ RawSurvives str raw ↔
      (∀ r ∈ rows, r.NullsTogether) ∧
        ∀ r ∈ raw, r.filteredValue ≠ none ∧ r.latitude ≠ some 0 ∧ r.longitude ≠ some 0 :=
  and_congr (bucketed_survives_iff bucketStr rows dataSource) (raw_survives_iff str raw)

/-- A locomotive on the equator. -/
def onEquator : RawRow where
  time := some 0
  timestamp := none
  locomotiveId := 7
  locomotiveType := "KZ8A"
  sensorType := "speed_actual"
  value := 60
  filteredValue := some 60
  unit := "km/h"
  latitude := some 0
  longitude := some 37

/-- Its latitude is 0.0 in the database and null at the client. -/
theorem equator_is_null :
    (rawPointToDict (rowToRawProto (fun _ => "t") onEquator)).latitude = none ∧
      onEquator.latitude = some 0 ∧ ¬RawSurvives (fun _ => "t") [onEquator] := by
  decide

end LocoTwin.Analytics
