/-
# Analytics.BucketQuery -- the chart of a window

`queryBucketed` chooses a table and a bucket width for a window, lets the database aggregate,
and cuts the answer at a limit.  The coarse tables are views, of all readings ever stored, by
the bucket they fall into; the raw table has lost what its retention policy has dropped.

`plan` is the choice.  It is one width for the aggregation and for the gap detection
(`queryBucketed_eq`).

* **`chart_complete`**: where the window is less than `limit` buckets wide, and with the
  automatic choice and the default limit up to 499 hours, the chart of one sensor of one
  locomotive has one row for each bucket with readings, of all of them, in order.  The limit
  cuts nothing, and retention takes nothing unless the window is short and old.

The views are taken as refreshed (in real time they are but for late readings); `CAST`s of
ill-formed ids, which raise, are left out.  The order that ORDER BY leaves open is a
parameter.
-/
import LocoTwin.Analytics.GapMarkers
import LocoTwin.Analytics.GrpcHop
import LocoTwin.Lib.GroupBy
import Mathlib.Data.Int.Interval

namespace LocoTwin.Analytics.BucketQuery

open LocoTwin.Lib LocoTwin.Shared

set_option autoImplicit false

/-! ## The database -/

/-- A row of `raw_telemetry`, in the columns that are read here. -/
structure TelemetryRecord where
  time : Datetime
  locomotiveId : UUID
  locomotiveType : String
  sensorType : String
  value : PyFloat
  unit : String
  deriving DecidableEq

structure Database where
  /-- Every row that was stored. -/
  readings : List TelemetryRecord
  /-- The retention policy has left the row. -/
  retained : TelemetryRecord → Bool

/-- `timedelta(seconds=…)`, in microseconds -/
def seconds (n : Int) : Int := n * 1000000

/-- Where the grid of `time_bucket` starts: 2000-01-03. -/
def bucketOrigin : Datetime := 946857600000000

/-- `time_bucket(width, time)` -/
def timeBucket (width : Int) (time : Datetime) : Datetime :=
  bucketOrigin + (time - bucketOrigin) / width * width

/-- `max` of texts, by code points. -/
def maxText (texts : List String) : String :=
  texts.foldl (fun greatest text => if greatest < text then text else greatest) ""

/-- The row of `last(…, time)`. -/
def lastReading : List TelemetryRecord → Option TelemetryRecord
  | [] => none
  | r :: rest =>
      match lastReading rest with
      | some latest => if r.time ≤ latest.time then some latest else some r
      | none => some r

/-- The aggregates of one group. -/
def aggregate (bucket : Datetime) (locomotiveId : UUID) (sensorType : String)
    (rows : List TelemetryRecord) : BucketRow where
  bucket := .datetime bucket
  locomotiveId
  sensorType
  avgValue := if rows = [] then none else some (avg (rows.map TelemetryRecord.value))
  minValue := (rows.map TelemetryRecord.value).min?
  maxValue := (rows.map TelemetryRecord.value).max?
  lastValue := (lastReading rows).map TelemetryRecord.value
  unit := maxText (rows.map TelemetryRecord.unit)

/-- `GROUP BY bucket, locomotive_id, sensor_type` -/
def rawGroups (width : Int) (rows : List TelemetryRecord) : List BucketRow :=
  (groupBy (fun r => (timeBucket width r.time, r.locomotiveId, r.sensorType)) rows).map fun e =>
    aggregate e.1.1 e.1.2.1 e.1.2.2 e.2

/-- `GROUP BY bucket, locomotive_id, locomotive_type, sensor_type`, of the views -/
def viewGroups (width : Int) (rows : List TelemetryRecord) : List BucketRow :=
  (groupBy (fun r => (timeBucket width r.time, r.locomotiveId, r.locomotiveType, r.sensorType))
    rows).map fun e => aggregate e.1.1 e.1.2.1 e.1.2.2.2 e.2

def bucketTime (row : BucketRow) : Datetime :=
  match row.bucket with
  | .datetime time => time
  | _ => 0

/-! ## The choice -/

structure AggregateLevel where
  sourceTable : String
  bucketColumn : String
  label : String
  deriving DecidableEq

def rawLevel : AggregateLevel := ⟨"raw_telemetry", "time", "raw (bucketed)"⟩

def hourLevel : AggregateLevel := ⟨"telemetry_1hour", "bucket", "1hour aggregate"⟩

/-- `_LEVELS` -/
def levels : List (Int × AggregateLevel) :=
  [(seconds (15 * 60), rawLevel),
    (seconds (2 * 3600), ⟨"telemetry_1min", "bucket", "1min aggregate"⟩),
    (seconds (24 * 3600), ⟨"telemetry_15min", "bucket", "15min aggregate"⟩),
    (seconds (999 * 3600), hourLevel)]

/-- `_RAW_RETENTION` -/
def rawRetention : Int := seconds (72 * 3600)

/-- `_ALLOWED_BUCKETS` -/
def allowedBuckets : List (String × Int) :=
  [("2 seconds", seconds 2), ("5 seconds", seconds 5), ("10 seconds", seconds 10),
    ("15 seconds", seconds 15), ("20 seconds", seconds 20), ("30 seconds", seconds 30),
    ("40 seconds", seconds 40), ("1 minute", seconds 60), ("5 minutes", seconds (5 * 60)),
    ("10 minutes", seconds (10 * 60)), ("15 minutes", seconds (15 * 60)),
    ("30 minutes", seconds (30 * 60)), ("1 hour", seconds 3600)]

/-- The buckets of the views, from the migration that makes them. -/
def viewWidths : List (String × Int) :=
  [("telemetry_1min", seconds 60), ("telemetry_15min", seconds (15 * 60)),
    ("telemetry_1hour", seconds 3600)]

def pickLevel (start end_ : Option Datetime) : AggregateLevel :=
  match start, end_ with
  | some start, some end_ =>
      match levels.find? fun level => end_ - start ≤ level.1 with
      | some level => level.2
      | none => hourLevel
  | _, _ => rawLevel

def rawBucketSize (span : Int) : String :=
  let minutes : PyFloat := span / 10 ^ 6 / 60
  if minutes ≤ 2 then "2 seconds"
  else if minutes ≤ 5 then "5 seconds"
  else if minutes ≤ 10 then "10 seconds"
  else "15 seconds"

/-- What `str.strip` strips. -/
def isSpace (c : Char) : Bool :=
  let n := c.toNat
  (9 ≤ n && n ≤ 13) || (28 ≤ n && n ≤ 32) || n == 0x85 || n == 0xa0 || n == 0x1680 ||
    (0x2000 ≤ n && n ≤ 0x200a) || n == 0x2028 || n == 0x2029 || n == 0x202f || n == 0x205f ||
    n == 0x3000

def strip (s : String) : String :=
  String.ofList ((s.toList.dropWhile isSpace).reverse.dropWhile isSpace).reverse

def validateBucketInterval (value : Option String) : Option String :=
  match value with
  | none => none
  | some value =>
      if value = "" then none
      else if (allowedBuckets.lookup (strip value)).isSome then some (strip value)
      else none

/-- `_CAGG_BUCKET_SECONDS` -/
def caggBucketSeconds : List (String × PyFloat) :=
  [("telemetry_1min", 60), ("telemetry_15min", 15 * 60), ("telemetry_1hour", 60 * 60)]

def effectiveBucketSeconds (sourceTable : String) (bucketSize : Option String) : PyFloat :=
  match bucketSize.bind fun size => allowedBuckets.lookup size with
  | some width =>
      if sourceTable = "raw_telemetry" then width / 10 ^ 6
      else (caggBucketSeconds.lookup sourceTable).getD 60
  | none => (caggBucketSeconds.lookup sourceTable).getD 60

/-! ## The query -/

/-- `_build_where`, of a row with the given columns; an empty sensor type is none. -/
def buildWhere (locomotiveId : Option UUID) (sensorType : Option String)
    (start end_ : Option Datetime) (loco : UUID) (sensor : String) (time : Datetime) : Bool :=
  locomotiveId.all (fun id => id == loco) &&
    sensorType.all (fun type => type == "" || type == sensor) &&
      start.all (fun start => start ≤ time) && end_.all (fun end_ => time ≤ end_)

/-- The arguments of a query, but for the page. -/
structure Window where
  locomotiveId : Option UUID
  sensorType : Option String
  start : Option Datetime
  end_ : Option Datetime
  bucketInterval : Option String

/-- `span`, of which an open window has 15 minutes. -/
def spanOf (w : Window) : Int :=
  match w.start, w.end_ with
  | some start, some end_ => end_ - start
  | _, _ => seconds (15 * 60)

section

variable (order : OrderBy bucketTime) (fromisoformat : String → Datetime) (db : Database)

/-- The rows of the query on the raw table. -/
def rawRows (w : Window) (width : Int) : List BucketRow :=
  rawGroups width ((db.readings.filter db.retained).filter fun r =>
    buildWhere w.locomotiveId w.sensorType w.start w.end_ r.locomotiveId r.sensorType r.time)

/-- The rows of the query on a view. -/
def viewRows (w : Window) (width : Int) : List BucketRow :=
  (viewGroups width db.readings).filter fun row =>
    buildWhere w.locomotiveId w.sensorType w.start w.end_ row.locomotiveId row.sensorType
      (bucketTime row)

def queryBucketed (now : Datetime) (w : Window) (offset limit maxPoints : Nat) :
    List BucketRow × String :=
  let requested := validateBucketInterval w.bucketInterval
  let withinRetention := w.start.all fun start => now - start ≤ rawRetention
  let bucketSize := if withinRetention then requested else none
  let level : AggregateLevel :=
    match bucketSize with
    | some size => ⟨"raw_telemetry", "time", "raw (" ++ size ++ ")"⟩
    | none => pickLevel w.start w.end_
  let (rows, bucketSize) :=
    if level.sourceTable = "raw_telemetry" then
      let size := bucketSize.getD (rawBucketSize (spanOf w))
      (rawRows db w ((allowedBuckets.lookup size).getD 0), some size)
    else (viewRows db w ((viewWidths.lookup level.sourceTable).getD 0), none)
  let rows := ((order.sort rows).drop offset).take limit
  let width := effectiveBucketSeconds level.sourceTable bucketSize
  (Analytics.queryBucketed fromisoformat rows width maxPoints, level.label)

end

/-! ## What is chosen -/

/-- The table that is asked, and the width of its buckets. -/
structure Plan where
  raw : Bool
  width : Int

/-- What `queryBucketed` chooses. -/
def plan (now : Datetime) (w : Window) : Plan :=
  let requested := validateBucketInterval w.bucketInterval
  let withinRetention := w.start.all fun start => now - start ≤ rawRetention
  match if withinRetention then requested else none with
  | some size => ⟨true, (allowedBuckets.lookup size).getD 0⟩
  | none =>
      let level := pickLevel w.start w.end_
      if level.sourceTable = "raw_telemetry" then
        ⟨true, (allowedBuckets.lookup (rawBucketSize (spanOf w))).getD 0⟩
      else ⟨false, (viewWidths.lookup level.sourceTable).getD 0⟩

def planRows (db : Database) (w : Window) (p : Plan) : List BucketRow :=
  if p.raw then rawRows db w p.width else viewRows db w p.width

theorem validate_allowed {value : Option String} {size : String}
    (valid : validateBucketInterval value = some size) :
    ∃ width, allowedBuckets.lookup size = some width := by
  unfold validateBucketInterval at valid
  split at valid
  · cases valid
  · split at valid
    · cases valid
    · split at valid
      case isTrue allowed =>
        cases valid
        exact Option.isSome_iff_exists.mp allowed
      case isFalse => cases valid

theorem rawBucketSize_allowed (span : Int) :
    ∃ width, allowedBuckets.lookup (rawBucketSize span) = some width := by
  unfold rawBucketSize
  dsimp only
  split
  · exact ⟨seconds 2, by decide⟩
  · split
    · exact ⟨seconds 5, by decide⟩
    · split
      · exact ⟨seconds 10, by decide⟩
      · exact ⟨seconds 15, by decide⟩

theorem effective_raw {size : String} {width : Int}
    (allowed : allowedBuckets.lookup size = some width) :
    effectiveBucketSeconds "raw_telemetry" (some size) = width / 10 ^ 6 := by
  simp [effectiveBucketSeconds, allowed]

theorem allowed_wide {size : String} {width : Int}
    (allowed : allowedBuckets.lookup size = some width) : seconds 2 ≤ width := by
  obtain ⟨before, after, split, -⟩ := List.lookup_eq_some_iff.mp allowed
  have mem : (size, width) ∈ allowedBuckets := by
    rw [split]
    exact List.mem_append_right _ List.mem_cons_self
  have all : ∀ e ∈ allowedBuckets, seconds 2 ≤ e.2 := by decide
  exact all _ mem

/-- The tables that are picked are known, with one width for both uses. -/
theorem pickLevel_known (start end_ : Option Datetime) :
    pickLevel start end_ = rawLevel ∨
      (pickLevel start end_).sourceTable ≠ "raw_telemetry" ∧
        ∃ width, viewWidths.lookup (pickLevel start end_).sourceTable = some width ∧
          seconds 2 ≤ width ∧ caggBucketSeconds.lookup (pickLevel start end_).sourceTable =
            some ((width : PyFloat) / 10 ^ 6) := by
  have known : ∀ level ∈ hourLevel :: levels.map Prod.snd, level = rawLevel ∨
      level.sourceTable ≠ "raw_telemetry" ∧
        ∃ width, viewWidths.lookup level.sourceTable = some width ∧ seconds 2 ≤ width ∧
          caggBucketSeconds.lookup level.sourceTable = some ((width : PyFloat) / 10 ^ 6) := by
    intro level mem
    simp only [levels, hourLevel, List.map_cons, List.map_nil, List.mem_cons, List.not_mem_nil,
      or_false] at mem
    rcases mem with rfl | rfl | rfl | rfl | rfl
    · exact .inr ⟨by decide, seconds 3600, by decide, by decide, by decide +kernel⟩
    · exact .inl rfl
    · exact .inr ⟨by decide, seconds 60, by decide, by decide, by decide +kernel⟩
    · exact .inr ⟨by decide, seconds (15 * 60), by decide, by decide, by decide +kernel⟩
    · exact .inr ⟨by decide, seconds 3600, by decide, by decide, by decide +kernel⟩
  refine known _ ?_
  unfold pickLevel
  split
  · split
    case h_1 level found =>
      exact List.mem_cons_of_mem _ (List.mem_map_of_mem (List.mem_of_find?_eq_some found))
    case h_2 => exact List.mem_cons_self
  · exact List.mem_cons_of_mem _ (by simp [levels])

theorem effective_view {table : String} {seconds' : PyFloat}
    (known : caggBucketSeconds.lookup table = some seconds') :
    effectiveBucketSeconds table none = seconds' := by
  simp [effectiveBucketSeconds, known]

/-- **One width, for the aggregation and for the gaps**, whatever is chosen. -/
theorem queryBucketed_eq (order : OrderBy bucketTime) (fromisoformat : String → Datetime)
    (db : Database) (now : Datetime) (w : Window) (offset limit maxPoints : Nat) :
    (queryBucketed order fromisoformat db now w offset limit maxPoints).1 =
      Analytics.queryBucketed fromisoformat
        (((order.sort (planRows db w (plan now w))).drop offset).take limit)
        ((plan now w).width / 10 ^ 6) maxPoints := by
  unfold queryBucketed plan
  dsimp only
  generalize explicit : (if (w.start.all fun start => now - start ≤ rawRetention) = true then
    validateBucketInterval w.bucketInterval else none) = size
  cases size with
  | some size =>
      have valid : validateBucketInterval w.bucketInterval = some size := by
        split at explicit
        · exact explicit
        · cases explicit
      obtain ⟨width, allowed⟩ := validate_allowed valid
      simp [planRows, allowed, effective_raw allowed]
  | none =>
      obtain ⟨width, allowed⟩ := rawBucketSize_allowed (spanOf w)
      rcases pickLevel_known w.start w.end_ with raw | ⟨view, width', widths, -, gaps⟩
      · simp [raw, rawLevel, planRows, allowed, effective_raw allowed]
      · simp [view, planRows, widths, effective_view gaps]

theorem plan_wide (now : Datetime) (w : Window) : seconds 2 ≤ (plan now w).width := by
  unfold plan
  dsimp only
  split
  case h_1 size explicit =>
    have valid : validateBucketInterval w.bucketInterval = some size := by
      split at explicit
      · exact explicit
      · cases explicit
    obtain ⟨width, allowed⟩ := validate_allowed valid
    rw [allowed]
    exact allowed_wide allowed
  case h_2 =>
    obtain ⟨width, allowed⟩ := rawBucketSize_allowed (spanOf w)
    rcases pickLevel_known w.start w.end_ with raw | ⟨view, width', widths, wide, -⟩
    · have table : rawLevel.sourceTable = "raw_telemetry" := rfl
      rw [raw, if_pos table, allowed]
      exact allowed_wide allowed
    · rw [if_neg view, widths]
      exact wide

/-- The raw table is picked for a quarter of an hour. -/
theorem pickLevel_raw {start end_ : Datetime}
    (raw : (pickLevel (some start) (some end_)).sourceTable = "raw_telemetry") :
    end_ - start ≤ seconds (15 * 60) := by
  by_contra long
  have coarse : ∀ level ∈ levels.tail, level.2.sourceTable ≠ "raw_telemetry" := by decide
  have skipped : levels.find? (fun level => end_ - start ≤ level.1) =
      levels.tail.find? fun level => end_ - start ≤ level.1 := by
    simp only [levels, List.find?_cons, long, decide_false, List.tail_cons]
  unfold pickLevel at raw
  dsimp only at raw
  rw [skipped] at raw
  split at raw
  case h_1 level found => exact coarse level (List.mem_of_find?_eq_some found) raw
  case h_2 => exact absurd raw (by decide)

/-- A window is at most 499 widths of the view that is picked for it. -/
theorem pickLevel_fits {start end_ : Datetime} (short : end_ - start ≤ seconds (499 * 3600)) :
    pickLevel (some start) (some end_) = rawLevel ∧ end_ - start ≤ seconds (15 * 60) ∨
      (pickLevel (some start) (some end_)).sourceTable ≠ "raw_telemetry" ∧
        ∃ width, viewWidths.lookup (pickLevel (some start) (some end_)).sourceTable = some width ∧
          end_ - start ≤ 499 * width := by
  unfold pickLevel
  dsimp only
  generalize end_ - start = span at short ⊢
  by_cases quarter : span ≤ seconds (15 * 60)
  · refine .inl ⟨?_, quarter⟩
    simp only [levels, List.find?_cons, quarter, decide_true]
  · refine .inr ?_
    by_cases two : span ≤ seconds (2 * 3600)
    · simp only [levels, List.find?_cons, quarter, two, decide_true, decide_false]
      refine ⟨by decide, seconds 60, by decide, ?_⟩
      simp only [seconds] at two ⊢
      linarith
    · by_cases day : span ≤ seconds (24 * 3600)
      · simp only [levels, List.find?_cons, quarter, two, day, decide_true, decide_false]
        refine ⟨by decide, seconds (15 * 60), by decide, ?_⟩
        simp only [seconds] at day ⊢
        linarith
      · have known : span ≤ seconds (999 * 3600) := by
          simp only [seconds] at short ⊢
          linarith
        simp only [levels, List.find?_cons, quarter, two, day, known, decide_true,
          decide_false]
        refine ⟨by decide, seconds 3600, by decide, ?_⟩
        simp only [seconds] at short ⊢
        linarith

/-- Without a width of its own, a window of 499 hours is at most 499 buckets wide. -/
theorem plan_fits (now : Datetime) {w : Window} {start end_ : Datetime}
    (automatic : validateBucketInterval w.bucketInterval = none) (since : w.start = some start)
    (until' : w.end_ = some end_) (short : end_ - start ≤ seconds (499 * 3600)) :
    end_ - start ≤ 499 * (plan now w).width := by
  have none' : (if (w.start.all fun start => now - start ≤ rawRetention) = true then
      validateBucketInterval w.bucketInterval else none) = none := by
    rw [automatic, ite_self]
  unfold plan
  dsimp only
  rw [none']
  dsimp only
  rw [since, until']
  rcases pickLevel_fits short with ⟨raw, quarter⟩ | ⟨view, width, widths, fits⟩
  · obtain ⟨width, allowed⟩ := rawBucketSize_allowed (spanOf w)
    have table : rawLevel.sourceTable = "raw_telemetry" := rfl
    have wide := allowed_wide allowed
    rw [raw, if_pos table, allowed]
    simp only [seconds, Option.getD_some] at quarter wide ⊢
    linarith
  · rw [if_neg view, widths]
    exact fits

/-- The raw table is asked for windows within its retention, or of a quarter of an hour. -/
theorem plan_raw {now : Datetime} {w : Window} {start end_ : Datetime}
    (since : w.start = some start) (until' : w.end_ = some end_)
    (raw : (plan now w).raw = true) :
    now - start ≤ rawRetention ∨ end_ - start ≤ seconds (15 * 60) := by
  unfold plan at raw
  dsimp only at raw
  rw [since, until', Option.all_some] at raw
  split at raw
  case h_1 size explicit =>
    split at explicit
    case isTrue recent => exact .inl (of_decide_eq_true recent)
    case isFalse => cases explicit
  case h_2 =>
    split at raw
    case isTrue table => exact .inr (pickLevel_raw table)
    case isFalse => cases raw

/-! ## One series -/

/-- The window of one sensor of one locomotive. -/
structure Series (w : Window) (loco : UUID) (sensor : String) (start end_ : Datetime) : Prop where
  locomotiveId : w.locomotiveId = some loco
  sensorType : w.sensorType = some sensor
  named : sensor ≠ ""
  start : w.start = some start
  end_ : w.end_ = some end_

/-- The readings a query on the raw table aggregates, or one on a view. -/
def answered (db : Database) (w : Window) (p : Plan) : List TelemetryRecord :=
  if p.raw then
    (db.readings.filter db.retained).filter fun r =>
      buildWhere w.locomotiveId w.sensorType w.start w.end_ r.locomotiveId r.sensorType r.time
  else
    db.readings.filter fun r =>
      buildWhere w.locomotiveId w.sensorType w.start w.end_ r.locomotiveId r.sensorType
        (timeBucket p.width r.time)

/-- The readings of the window, of a view by their buckets. -/
def asked (db : Database) (w : Window) (p : Plan) : List TelemetryRecord :=
  db.readings.filter fun r =>
    buildWhere w.locomotiveId w.sensorType w.start w.end_ r.locomotiveId r.sensorType
      (if p.raw then r.time else timeBucket p.width r.time)

/-- The readings of one bucket. -/
def inBucket (width : Int) (rows : List TelemetryRecord) (bucket : Datetime) :
    List TelemetryRecord :=
  rows.filter fun r => decide (timeBucket width r.time = bucket)

/-- One row for each bucket with readings, of exactly these. -/
structure OneEach (width : Int) (loco : UUID) (sensor : String) (readings : List TelemetryRecord)
    (rows : List BucketRow) : Prop where
  distinct : (rows.map bucketTime).Nodup
  sound : ∀ row ∈ rows, inBucket width readings (bucketTime row) ≠ [] ∧
    row = aggregate (bucketTime row) loco sensor (inBucket width readings (bucketTime row))
  complete : ∀ r ∈ readings, ∃ row ∈ rows, bucketTime row = timeBucket width r.time

variable {db : Database} {w : Window} {loco : UUID} {sensor : String} {start end_ : Datetime}

theorem Series.where_iff (series : Series w loco sensor start end_) (loco' : UUID)
    (sensor' : String) (time : Datetime) :
    buildWhere w.locomotiveId w.sensorType w.start w.end_ loco' sensor' time = true ↔
      loco' = loco ∧ sensor' = sensor ∧ start ≤ time ∧ time ≤ end_ := by
  rw [series.locomotiveId, series.sensorType, series.start, series.end_]
  simp only [buildWhere, Option.all_some, Bool.and_eq_true, beq_iff_eq, Bool.or_eq_true,
    decide_eq_true_eq, series.named, false_or]
  constructor
  · rintro ⟨⟨⟨rfl, rfl⟩, low⟩, high⟩
    exact ⟨rfl, rfl, low, high⟩
  · rintro ⟨rfl, rfl, low, high⟩
    exact ⟨⟨⟨rfl, rfl⟩, low⟩, high⟩

/-- Retention takes nothing from a window that starts within it or is long. -/
theorem Series.answered_eq (series : Series w loco sensor start end_) {now : Datetime}
    (kept : ∀ r ∈ db.readings, now - r.time ≤ rawRetention → db.retained r = true)
    (recent : now - start ≤ rawRetention ∨ seconds (15 * 60) < end_ - start) :
    answered db w (plan now w) = asked db w (plan now w) := by
  unfold answered asked
  split
  case isTrue raw =>
    have young : now - start ≤ rawRetention := by
      rcases plan_raw series.start series.end_ raw with young | short
      · exact young
      · exact recent.resolve_right short.not_gt
    rw [List.filter_filter]
    refine List.filter_congr fun r mem => ?_
    rw [Bool.and_eq_left_iff_imp]
    intro passes
    obtain ⟨-, -, low, -⟩ := (series.where_iff _ _ _).mp passes
    exact kept r mem ((sub_le_sub_left low now).trans young)
  case isFalse => rfl

theorem Series.raw_rows (series : Series w loco sensor start end_) (width : Int) :
    OneEach width loco sensor (answered db w ⟨true, width⟩) (rawRows db w width) := by
  have same : rawRows db w width = rawGroups width (answered db w ⟨true, width⟩) := rfl
  have own : ∀ r ∈ answered db w ⟨true, width⟩, r.locomotiveId = loco ∧ r.sensorType = sensor := by
    intro r mem
    obtain ⟨rfl, rfl, -⟩ := (series.where_iff _ _ _).mp (List.mem_filter.mp mem).2
    exact ⟨rfl, rfl⟩
  rw [same]
  generalize answered db w ⟨true, width⟩ = readings at own
  have groups : ∀ e ∈ groupBy (fun r => (timeBucket width r.time, r.locomotiveId, r.sensorType))
      readings, e.1.2 = (loco, sensor) ∧ e.2 = inBucket width readings e.1.1 := by
    rintro ⟨⟨bucket, loco', sensor'⟩, g⟩ mem
    obtain ⟨occurs, rfl⟩ := (mem_groupBy _).mp mem
    obtain ⟨r, r_mem, key⟩ := List.mem_map.mp occurs
    obtain ⟨rfl, rfl⟩ := own r r_mem
    obtain ⟨rfl, rfl, rfl⟩ : _ ∧ _ ∧ _ := by simpa using key
    refine ⟨rfl, List.filter_congr fun r' mem' => ?_⟩
    obtain ⟨loco'', sensor''⟩ := own r' mem'
    simp [loco'', sensor'']
  refine ⟨?_, ?_, ?_⟩
  · have keys := nodup_groupBy
      (fun r : TelemetryRecord => (timeBucket width r.time, r.locomotiveId, r.sensorType)) readings
    rw [rawGroups, List.map_map]
    refine List.Nodup.of_map (fun bucket => (bucket, loco, sensor)) ?_
    rw [List.map_map]
    convert keys using 1
    refine List.map_congr_left fun e mem => ?_
    exact Prod.ext rfl (groups e mem).1.symm
  · intro row mem
    obtain ⟨e, e_mem, rfl⟩ := List.mem_map.mp mem
    obtain ⟨key, members⟩ := groups e e_mem
    have nonempty := ne_nil_of_mem_groupBy _ e_mem
    rw [members] at nonempty
    refine ⟨nonempty, ?_⟩
    show aggregate e.1.1 e.1.2.1 e.1.2.2 e.2 = _
    rw [key, members]
    rfl
  · intro r mem
    have listed : ((timeBucket width r.time, r.locomotiveId, r.sensorType),
        group (fun r => (timeBucket width r.time, r.locomotiveId, r.sensorType)) readings
          (timeBucket width r.time, r.locomotiveId, r.sensorType)) ∈
        groupBy (fun r => (timeBucket width r.time, r.locomotiveId, r.sensorType)) readings :=
      (mem_groupBy _).mpr ⟨List.mem_map_of_mem mem, rfl⟩
    exact ⟨_, List.mem_map_of_mem listed, rfl⟩

/-- A locomotive is of one type. -/
def OneType (db : Database) : Prop :=
  ∀ r ∈ db.readings, ∀ r' ∈ db.readings, r.locomotiveId = r'.locomotiveId →
    r.locomotiveType = r'.locomotiveType

/-- `GROUP BY` of the views. -/
def viewKey (width : Int) (r : TelemetryRecord) : Datetime × UUID × String × String :=
  (timeBucket width r.time, r.locomotiveId, r.locomotiveType, r.sensorType)

/-- The group of a key that passes the filter is all readings of its bucket. -/
theorem Series.view_group (series : Series w loco sensor start end_) (types : OneType db)
    {width : Int} {k : Datetime × UUID × String × String} {g : List TelemetryRecord}
    (mem : (k, g) ∈ groupBy (viewKey width) db.readings)
    (passes : buildWhere w.locomotiveId w.sensorType w.start w.end_ k.2.1 k.2.2.2 k.1 = true) :
    k.2.1 = loco ∧ k.2.2.2 = sensor ∧ g = inBucket width (answered db w ⟨false, width⟩) k.1 ∧
      ∃ r ∈ db.readings, r.locomotiveId = loco ∧ r.locomotiveType = k.2.2.1 := by
  obtain ⟨occurs, rfl⟩ := (mem_groupBy _).mp mem
  obtain ⟨r, r_mem, rfl⟩ := List.mem_map.mp occurs
  obtain ⟨own, type, low, high⟩ := (series.where_iff _ _ _).mp passes
  refine ⟨own, type, ?_, r, r_mem, own, rfl⟩
  rw [inBucket, answered, if_neg Bool.false_ne_true, List.filter_filter]
  refine List.filter_congr fun r' mem' => ?_
  rw [Bool.eq_iff_iff, Bool.and_eq_true, decide_eq_true_iff, decide_eq_true_iff,
    series.where_iff]
  constructor
  · intro same
    obtain ⟨bucket, loco', -, sensor'⟩ : timeBucket width r'.time = timeBucket width r.time ∧
        r'.locomotiveId = r.locomotiveId ∧ r'.locomotiveType = r.locomotiveType ∧
          r'.sensorType = r.sensorType := by
      simpa [viewKey] using same
    refine ⟨bucket, loco'.trans own, sensor'.trans type, ?_, ?_⟩
    · exact low.trans_eq bucket.symm
    · exact bucket.trans_le high
  · rintro ⟨bucket, loco', sensor', -, -⟩
    have sameLoco : r'.locomotiveId = r.locomotiveId := loco'.trans own.symm
    have sameSensor : r'.sensorType = r.sensorType := sensor'.trans type.symm
    have sameType := types r' mem' r r_mem sameLoco
    simp only [viewKey, sameLoco, sameType, sameSensor]
    exact Prod.ext bucket rfl

theorem Series.view_rows (series : Series w loco sensor start end_) (types : OneType db)
    (width : Int) :
    OneEach width loco sensor (answered db w ⟨false, width⟩) (viewRows db w width) := by
  have same : viewRows db w width = ((groupBy (viewKey width) db.readings).filter fun e =>
      buildWhere w.locomotiveId w.sensorType w.start w.end_ e.1.2.1 e.1.2.2.2 e.1.1).map
        fun e => aggregate e.1.1 e.1.2.1 e.1.2.2.2 e.2 := List.filter_map
  rw [same]
  refine ⟨?_, ?_, ?_⟩
  · have keys : (groupBy (viewKey width) db.readings).Pairwise fun e e' => e.1 ≠ e'.1 :=
      List.pairwise_map.mp (nodup_groupBy (viewKey width) db.readings)
    rw [List.map_map]
    refine List.pairwise_map.mpr ((keys.filter _).imp_of_mem ?_)
    rintro ⟨⟨b, l, τ, s⟩, g⟩ ⟨⟨b', l', τ', s'⟩, g'⟩ mem mem' apart bucket
    obtain ⟨here, passes⟩ := List.mem_filter.mp mem
    obtain ⟨here', passes'⟩ := List.mem_filter.mp mem'
    obtain ⟨rfl, rfl, -, r, r_mem, own, rfl⟩ := series.view_group types here passes
    obtain ⟨loco', sensor', -, r', r_mem', own', rfl⟩ := series.view_group types here' passes'
    refine apart ?_
    have type := types r r_mem r' r_mem' (own.trans own'.symm)
    have bucket' : b = b' := bucket
    simp only at loco' sensor' ⊢
    rw [bucket', loco', sensor', type]
  · intro row mem
    obtain ⟨e, e_mem, rfl⟩ := List.mem_map.mp mem
    obtain ⟨here, passes⟩ := List.mem_filter.mp e_mem
    obtain ⟨own, type, members, -⟩ := series.view_group types here passes
    have nonempty := ne_nil_of_mem_groupBy _ here
    rw [members] at nonempty
    refine ⟨nonempty, ?_⟩
    rw [own, type, members]
    rfl
  · intro r mem
    rw [answered, if_neg Bool.false_ne_true] at mem
    obtain ⟨stored, passes⟩ := List.mem_filter.mp mem
    have listed : (viewKey width r, group (viewKey width) db.readings (viewKey width r)) ∈
        groupBy (viewKey width) db.readings :=
      (mem_groupBy _).mpr ⟨List.mem_map_of_mem stored, rfl⟩
    exact ⟨_, List.mem_map_of_mem (List.mem_filter.mpr ⟨listed, passes⟩), rfl⟩

/-! ## The page -/

/-- The number of the bucket of a time. -/
def bucketIndex (width : Int) (time : Datetime) : Int := (time - bucketOrigin) / width

theorem bucketIndex_timeBucket {width : Int} (pos : 0 < width) (time : Datetime) :
    bucketIndex width (timeBucket width time) = bucketIndex width time := by
  unfold bucketIndex timeBucket
  rw [add_sub_cancel_left, Int.mul_ediv_cancel _ pos.ne']

theorem bucketIndex_mono {width : Int} (pos : 0 < width) {a b : Datetime} (le : a ≤ b) :
    bucketIndex width a ≤ bucketIndex width b :=
  Int.ediv_le_ediv pos (sub_le_sub_right le _)

/-- A window of `n` widths has at most `n + 1` buckets. -/
theorem bucketIndex_window {width : Int} (pos : 0 < width) {start end_ : Datetime} {n : Int}
    (fits : end_ - start ≤ n * width) :
    bucketIndex width end_ ≤ bucketIndex width start + n := by
  unfold bucketIndex
  have shifted : end_ - bucketOrigin ≤ start - bucketOrigin + n * width := by linarith
  calc (end_ - bucketOrigin) / width ≤ (start - bucketOrigin + n * width) / width :=
        Int.ediv_le_ediv pos shifted
    _ = (start - bucketOrigin) / width + n := Int.add_mul_ediv_right _ _ pos.ne'

/-- The readings that are answered are in buckets of the window. -/
theorem Series.index_answered (series : Series w loco sensor start end_) {p : Plan}
    (pos : 0 < p.width) {r : TelemetryRecord} (mem : r ∈ answered db w p) :
    bucketIndex p.width start ≤ bucketIndex p.width r.time ∧
      bucketIndex p.width r.time ≤ bucketIndex p.width end_ := by
  unfold answered at mem
  split at mem
  · obtain ⟨-, -, low, high⟩ := (series.where_iff _ _ _).mp (List.mem_filter.mp mem).2
    exact ⟨bucketIndex_mono pos low, bucketIndex_mono pos high⟩
  · obtain ⟨-, -, low, high⟩ := (series.where_iff _ _ _).mp (List.mem_filter.mp mem).2
    rw [← bucketIndex_timeBucket pos r.time]
    exact ⟨bucketIndex_mono pos low, bucketIndex_mono pos high⟩

theorem OneEach.bucket_mem {width : Int} {readings : List TelemetryRecord} {rows : List BucketRow}
    (each : OneEach width loco sensor readings rows) {row : BucketRow} (mem : row ∈ rows) :
    ∃ r ∈ readings, timeBucket width r.time = bucketTime row := by
  obtain ⟨r, r_mem⟩ := List.exists_mem_of_ne_nil _ (each.sound row mem).1
  obtain ⟨stored, here⟩ := List.mem_filter.mp r_mem
  exact ⟨r, stored, of_decide_eq_true here⟩

theorem Series.length_le (series : Series w loco sensor start end_) {p : Plan}
    (pos : 0 < p.width) {rows : List BucketRow}
    (each : OneEach p.width loco sensor (answered db w p) rows) {limit : Nat} (some' : 0 < limit)
    (fits : end_ - start ≤ (limit - 1) * p.width) : rows.length ≤ limit := by
  have indices : ((rows.map bucketTime).map (bucketIndex p.width)).Nodup := by
    refine List.Nodup.map_on ?_ each.distinct
    intro t t_mem t' t_mem' same
    obtain ⟨row, row_mem, rfl⟩ := List.mem_map.mp t_mem
    obtain ⟨row', row_mem', rfl⟩ := List.mem_map.mp t_mem'
    obtain ⟨r, -, here⟩ := each.bucket_mem row_mem
    obtain ⟨r', -, here'⟩ := each.bucket_mem row_mem'
    rw [← here, ← here', bucketIndex_timeBucket pos, bucketIndex_timeBucket pos] at same
    rw [← here, ← here', timeBucket, timeBucket]
    exact congrArg (fun q => bucketOrigin + q * p.width) same
  have within : ∀ q ∈ (rows.map bucketTime).map (bucketIndex p.width),
      q ∈ Finset.Icc (bucketIndex p.width start) (bucketIndex p.width start + (limit - 1)) := by
    intro q mem
    obtain ⟨t, t_mem, rfl⟩ := List.mem_map.mp mem
    obtain ⟨row, row_mem, rfl⟩ := List.mem_map.mp t_mem
    obtain ⟨r, stored, here⟩ := each.bucket_mem row_mem
    obtain ⟨low, high⟩ := series.index_answered pos stored
    rw [← here, bucketIndex_timeBucket pos, Finset.mem_Icc]
    exact ⟨low, high.trans (bucketIndex_window pos fits)⟩
  have card := Finset.card_le_card
    (fun q mem => within q (List.mem_toFinset.mp mem) :
      ((rows.map bucketTime).map (bucketIndex p.width)).toFinset ⊆ _)
  rw [List.toFinset_card_of_nodup indices, Int.card_Icc, List.length_map, List.length_map] at card
  omega

theorem OneEach.perm {width : Int} {readings : List TelemetryRecord} {rows rows' : List BucketRow}
    (each : OneEach width loco sensor readings rows) (perm : rows'.Perm rows) :
    OneEach width loco sensor readings rows' where
  distinct := (perm.map bucketTime).nodup_iff.mpr each.distinct
  sound row mem := each.sound row (perm.mem_iff.mp mem)
  complete r mem := by
    obtain ⟨row, row_mem, here⟩ := each.complete r mem
    exact ⟨row, perm.mem_iff.mpr row_mem, here⟩

/-! ## The rows of the chart -/

/-- What the values of a row say of the readings of its bucket. -/
structure Summarises (rows : List TelemetryRecord) (row : BucketRow) : Prop where
  avg : row.avgValue = some (Lib.avg (rows.map TelemetryRecord.value))
  total : Lib.avg (rows.map TelemetryRecord.value) * rows.length =
    (rows.map TelemetryRecord.value).sum
  extremes : ∃ lo hi, row.minValue = some lo ∧ row.maxValue = some hi ∧
    lo ≤ Lib.avg (rows.map TelemetryRecord.value) ∧ Lib.avg (rows.map TelemetryRecord.value) ≤ hi ∧
    (∀ r ∈ rows, lo ≤ r.value ∧ r.value ≤ hi) ∧ lo ∈ rows.map TelemetryRecord.value ∧
    hi ∈ rows.map TelemetryRecord.value
  last : ∃ r ∈ rows, row.lastValue = some r.value ∧ ∀ r' ∈ rows, r'.time ≤ r.time

theorem lastReading_latest {rows : List TelemetryRecord} (nonempty : rows ≠ []) :
    ∃ r ∈ rows, lastReading rows = some r ∧ ∀ r' ∈ rows, r'.time ≤ r.time := by
  induction rows with
  | nil => exact absurd rfl nonempty
  | cons r rest ih =>
      rw [lastReading]
      by_cases alone : rest = []
      · subst alone
        exact ⟨r, List.mem_cons_self, rfl, by simp⟩
      · obtain ⟨latest, mem, found, le⟩ := ih alone
        rw [found]
        dsimp only
        split
        case isTrue before =>
          refine ⟨latest, List.mem_cons_of_mem r mem, rfl, ?_⟩
          exact List.forall_mem_cons.mpr ⟨before, le⟩
        case isFalse after =>
          have earlier : latest.time ≤ r.time := (not_le.mp after).le
          refine ⟨r, List.mem_cons_self, rfl, List.forall_mem_cons.mpr ⟨le_refl _, ?_⟩⟩
          exact fun r' mem' => (le r' mem').trans earlier

theorem aggregate_summarises (bucket : Datetime) (loco : UUID) (sensor : String)
    {rows : List TelemetryRecord} (nonempty : rows ≠ []) :
    Summarises rows (aggregate bucket loco sensor rows) := by
  have values : rows.map TelemetryRecord.value ≠ [] := by simpa using nonempty
  obtain ⟨lo, least⟩ := Option.ne_none_iff_exists'.mp (mt List.min?_eq_none_iff.mp values)
  obtain ⟨hi, greatest⟩ := Option.ne_none_iff_exists'.mp (mt List.max?_eq_none_iff.mp values)
  obtain ⟨lo_mem, le⟩ := List.min?_eq_some_iff.mp least
  obtain ⟨hi_mem, ge⟩ := List.max?_eq_some_iff.mp greatest
  obtain ⟨r, mem, latest, later⟩ := lastReading_latest nonempty
  constructor
  case avg => exact if_neg nonempty
  case total =>
    have total := avg_mul_length values
    rwa [List.length_map] at total
  case extremes =>
    refine ⟨lo, hi, least, greatest, min?_le_avg least, avg_le_max? greatest, ?_, lo_mem,
      hi_mem⟩
    intro r mem
    exact ⟨le _ (List.mem_map_of_mem mem), ge _ (List.mem_map_of_mem mem)⟩
  case last =>
    refine ⟨r, mem, ?_, later⟩
    exact congrArg (Option.map TelemetryRecord.value) latest

/-- The rows of one series are in order, and valued. -/
theorem OneEach.ordered {width : Int} {readings : List TelemetryRecord} {rows : List BucketRow}
    (each : OneEach width loco sensor readings rows) (fromisoformat : String → Datetime)
    (sorted : rows.Pairwise fun r s => bucketTime r ≤ bucketTime s) :
    TimeOrdered fromisoformat rows := by
  have distinct : rows.Pairwise fun r s => bucketTime r ≠ bucketTime s :=
    List.pairwise_map.mp each.distinct
  refine (sorted.and distinct).imp_of_mem ?_
  rintro r s r_mem s_mem ⟨le, ne⟩
  have lt : bucketTime r < bucketTime s := lt_of_le_of_ne le ne
  rw [(each.sound r r_mem).2, (each.sound s s_mem).2]
  show timestamp (bucketTime r) < timestamp (bucketTime s)
  unfold timestamp
  have cast : (bucketTime r : PyFloat) < bucketTime s := by exact_mod_cast lt
  exact div_lt_div_of_pos_right cast (by norm_num)

theorem OneEach.valued {width : Int} {readings : List TelemetryRecord} {rows : List BucketRow}
    (each : OneEach width loco sensor readings rows) :
    ∀ row ∈ rows, row.avgValue.isSome = true := by
  intro row mem
  obtain ⟨nonempty, same⟩ := each.sound row mem
  rw [same, (aggregate_summarises _ _ _ nonempty).avg]
  rfl

/-- The chart of a series. -/
structure Charted (fromisoformat : String → Datetime) (width : Int) (loco : UUID)
    (sensor : String) (readings : List TelemetryRecord) (out : List BucketRow) : Prop where
  ordered : TimeOrdered fromisoformat out
  each : OneEach width loco sensor readings (out.filter fun row => row.avgValue.isSome)
  values : ∀ row ∈ out, row.avgValue.isSome = true →
    Summarises (inBucket width readings (bucketTime row)) row
  /-- A line that is drawn spans three buckets at most. -/
  joined : out.IsChain fun r s => r.avgValue.isSome = true → s.avgValue.isSome = true →
    bucketTime s - bucketTime r ≤ 3 * width

theorem isChain_markersOf {fromisoformat : String → Datetime} {width : Int}
    {readings : List TelemetryRecord} {rows : List BucketRow}
    (each : OneEach width loco sensor readings rows) {prev cur : BucketRow}
    (prev_mem : prev ∈ rows) (cur_mem : cur ∈ rows) :
    (prev :: markersOf fromisoformat (width / 10 ^ 6) prev cur ++ [cur]).IsChain fun r s =>
      r.avgValue.isSome = true → s.avgValue.isSome = true →
        bucketTime s - bucketTime r ≤ 3 * width := by
  unfold markersOf
  split
  case isTrue gap =>
    have unvalued : (gapMarker fromisoformat prev cur).avgValue.isSome = false := rfl
    refine .cons_cons ?_ (.cons_cons ?_ (.singleton cur))
    · intro _ valued
      exact absurd (unvalued.symm.trans valued) Bool.false_ne_true
    · intro valued
      exact absurd (unvalued.symm.trans valued) Bool.false_ne_true
  case isFalse near =>
    refine .cons_cons (fun _ _ => ?_) (.singleton cur)
    have epoch (row : BucketRow) (mem : row ∈ rows) :
        tsToEpoch fromisoformat row.bucket = (bucketTime row : PyFloat) / 10 ^ 6 := by
      rw [(each.sound row mem).2]
      rfl
    rw [Gap, epoch prev prev_mem, epoch cur cur_mem, not_lt, ← sub_div, div_mul_eq_mul_div,
      div_le_div_iff_of_pos_right (by norm_num)] at near
    have near' : ((bucketTime cur - bucketTime prev : Int) : PyFloat) ≤ (3 * width : Int) := by
      push_cast
      linarith
    exact_mod_cast near'

/-- Markers leave a series charted. -/
theorem OneEach.charted {width : Int} (wide : seconds 2 ≤ width) {readings : List TelemetryRecord}
    {rows : List BucketRow} (each : OneEach width loco sensor readings rows)
    (fromisoformat : String → Datetime) (ordered : TimeOrdered fromisoformat rows) :
    Charted fromisoformat width loco sensor readings
      (insertGapMarkers fromisoformat rows (width / 10 ^ 6)) := by
  have cast : (2000000 : PyFloat) ≤ width := by exact_mod_cast wide
  have pos : (0 : PyFloat) < width / 10 ^ 6 := by
    have : (0 : PyFloat) < width := by linarith
    positivity
  have apart : (1 : PyFloat) / 10 ^ 6 ≤ width / 10 ^ 6 * 3 := by
    rw [div_mul_eq_mul_div, div_le_div_iff_of_pos_right (by norm_num)]
    linarith
  cases rows with
  | nil =>
      exact
        { ordered := .nil
          each := each
          values := by simp [insertGapMarkers]
          joined := .nil }
  | cons first rest =>
      have valued := each.valued
      have erased : (first :: between (markersOf fromisoformat (width / 10 ^ 6)) first rest).filter
          (fun row => row.avgValue.isSome) = first :: rest := by
        have kept : (first :: between (markersOf fromisoformat (width / 10 ^ 6)) first rest).filter
            (fun row => row.avgValue.isSome) =
            first :: (between (markersOf fromisoformat (width / 10 ^ 6)) first rest).filter
              (fun row => row.avgValue.isSome) :=
          List.filter_cons_of_pos (valued first List.mem_cons_self)
        rw [kept, filter_between]
        · intro prev cur row mem
          rw [markersOf_none prev cur row mem]
          rfl
        · exact fun row mem => valued row (List.mem_cons_of_mem first mem)
      rw [insertGapMarkers_cons fromisoformat pos]
      constructor
      case ordered =>
        refine timeOrdered_iff_isChain.mpr (isChain_between ?_)
        intro i prev cur at_i next
        obtain ⟨_, eq⟩ := List.getElem?_eq_some_iff.mp at_i
        obtain ⟨_, eq'⟩ := List.getElem?_eq_some_iff.mp next
        have lt := (timeOrdered_iff_isChain.mp ordered).getElem i (by omega)
        rw [eq, eq'] at lt
        exact markersOf_ordered pos lt fun _ => .inl apart
      case each =>
        rw [erased]
        exact each
      case values =>
        intro row mem isSome
        have original : row ∈ first :: rest := erased ▸ List.mem_filter.mpr ⟨mem, isSome⟩
        obtain ⟨nonempty, same⟩ := each.sound row original
        have summarises := aggregate_summarises (bucketTime row) loco sensor nonempty
        rwa [← same] at summarises
      case joined =>
        refine isChain_between ?_
        intro i prev cur at_i next
        exact isChain_markersOf each (List.mem_of_getElem? at_i) (List.mem_of_getElem? next)

/-- **The chart of a window is complete**: one row for each bucket with readings, of all of
them. -/
theorem chart_complete (order : OrderBy bucketTime) (fromisoformat : String → Datetime)
    (now : Datetime) (series : Series w loco sensor start end_) (types : OneType db)
    (kept : ∀ r ∈ db.readings, now - r.time ≤ rawRetention → db.retained r = true)
    (recent : now - start ≤ rawRetention ∨ seconds (15 * 60) < end_ - start)
    {limit : Nat} (page : 0 < limit)
    (fits : end_ - start ≤ (limit - 1) * (plan now w).width ∨
      validateBucketInterval w.bucketInterval = none ∧ 500 ≤ limit ∧
        end_ - start ≤ seconds (499 * 3600)) :
    Charted fromisoformat (plan now w).width loco sensor (asked db w (plan now w))
      (queryBucketed order fromisoformat db now w 0 limit 0).1 := by
  have wide := plan_wide now w
  have pos : 0 < (plan now w).width := lt_of_lt_of_le (by decide) wide
  have rows : OneEach (plan now w).width loco sensor (answered db w (plan now w))
      (planRows db w (plan now w)) := by
    unfold planRows
    split
    case isTrue raw =>
      have same : plan now w = ⟨true, (plan now w).width⟩ := by rw [← raw]
      rw [same]
      exact series.raw_rows _
    case isFalse view =>
      have same : plan now w = ⟨false, (plan now w).width⟩ := by
        rw [← Bool.eq_false_iff.mpr view]
      rw [same]
      exact series.view_rows types _
  have sorted := rows.perm (order.perm (planRows db w (plan now w)))
  have ordered := sorted.ordered fromisoformat (order.sorted (planRows db w (plan now w)))
  have within : end_ - start ≤ (limit - 1) * (plan now w).width := by
    rcases fits with fits | ⟨automatic, default, short⟩
    · exact fits
    · have limit' : (499 : Int) ≤ limit - 1 := by omega
      calc end_ - start ≤ 499 * (plan now w).width :=
            plan_fits now automatic series.start series.end_ short
        _ ≤ (limit - 1) * (plan now w).width := Int.mul_le_mul_of_nonneg_right limit' pos.le
  have whole : (order.sort (planRows db w (plan now w))).take limit =
      order.sort (planRows db w (plan now w)) :=
    List.take_of_length_le (series.length_le pos sorted page within)
  rw [queryBucketed_eq, List.drop_zero, whole, ← series.answered_eq kept recent]
  exact sorted.charted wide fromisoformat ordered

def speedAt (minute : Int) (value : PyFloat) : TelemetryRecord where
  time := bucketOrigin + seconds (60 * minute)
  locomotiveId := 7
  locomotiveType := "KZ8A"
  sensorType := "speed_actual"
  value
  unit := "km/h"

/-- An hour of which two minutes were recorded. -/
def stopOver : Database where
  readings := [speedAt 3 82, speedAt 50 74]
  retained _ := true

def firstHour : Window where
  locomotiveId := some 7
  sensorType := some "speed_actual"
  start := some bucketOrigin
  end_ := some (bucketOrigin + seconds 3600)
  bucketInterval := none

theorem chart_complete_stopOver :
    Charted (fun _ => 0) (plan bucketOrigin firstHour).width 7 "speed_actual"
      (asked stopOver firstHour (plan bucketOrigin firstHour))
      (queryBucketed (.stable bucketTime) (fun _ => 0) stopOver bucketOrigin firstHour 0 500 0).1 :=
  chart_complete (.stable bucketTime) (fun _ => 0) bucketOrigin ⟨rfl, rfl, by decide, rfl, rfl⟩
    (by unfold OneType; decide +kernel) (fun _ _ _ => rfl) (.inl (by decide)) (by decide)
    (.inr ⟨rfl, by decide, by decide⟩)

end LocoTwin.Analytics.BucketQuery
