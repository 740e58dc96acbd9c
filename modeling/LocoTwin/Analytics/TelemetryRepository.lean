/-
# Analytics.TelemetryRepository -- bucketed rows for the charts

A query returns one row per time bucket.  `insertGapMarkers` puts a row without
values (a gap marker) where two buckets are far apart, so that a chart breaks its
line there; `lttb` then thins the rows to a number of points.

`lttb` keeps the first and the last row and takes one row per step.  Step `i` looks
at two parts of the rows between, `edge i .. edge (i + 1)` and the one after it, and
`nextPoint` says which row it takes:

* `nextPoint_gap`: the middle of the next part, when that part holds gap markers only;
* `nextPoint_first_gap`, `nextPoint_value`: else the first marker of its own part, or a
  row of that part when it has no marker.
-/
import LocoTwin.Lib.Buckets
import LocoTwin.Lib.Rounding
import LocoTwin.Shared.Python

namespace LocoTwin.Analytics

open LocoTwin.Lib LocoTwin.Shared

set_option autoImplicit false

/-- What the `bucket` of a row may hold; a text is an ISO time. -/
inductive Bucket where
  | datetime (t : Datetime)
  | number (x : PyFloat)
  | text (s : String)
  deriving DecidableEq, Inhabited

structure BucketRow where
  bucket : Bucket
  locomotiveId : UUID
  sensorType : String
  avgValue : Option PyFloat
  minValue : Option PyFloat
  maxValue : Option PyFloat
  lastValue : Option PyFloat
  unit : String
  deriving DecidableEq, Inhabited

section

variable (F : FloatArith) (fromisoformat : String → Datetime)

/-- `datetime.timestamp()`, in seconds -/
def timestamp (t : Datetime) : PyFloat := t / 10 ^ 6

/-- `datetime.fromtimestamp(x)`, to the nearest microsecond -/
def fromtimestamp (x : PyFloat) : Datetime := roundHalfEven (x * 10 ^ 6)

def tsToEpoch : Bucket → PyFloat
  | .datetime t => timestamp t
  | .number x => x
  | .text s => timestamp (fromisoformat s)

/-! ## Gap markers -/

/-- The marker between two rows: at their midpoint, a datetime where the earlier
bucket is one. -/
def gapMarker (prev cur : BucketRow) : BucketRow :=
  let mid := (tsToEpoch fromisoformat prev.bucket + tsToEpoch fromisoformat cur.bucket) / 2
  { bucket := match prev.bucket with
      | .datetime _ => .datetime (fromtimestamp mid)
      | _ => .number mid
    locomotiveId := cur.locomotiveId
    sensorType := cur.sensorType
    avgValue := none
    minValue := none
    maxValue := none
    lastValue := none
    unit := cur.unit }

/-- The rows after `prev`, with a marker in each gap wider than `threshold`. -/
def withMarkers (threshold : PyFloat) : BucketRow → List BucketRow → List BucketRow
  | _, [] => []
  | prev, cur :: rest =>
      if threshold < tsToEpoch fromisoformat cur.bucket - tsToEpoch fromisoformat prev.bucket then
        gapMarker fromisoformat prev cur :: cur :: withMarkers threshold cur rest
      else cur :: withMarkers threshold cur rest

/-- `_insert_gap_markers`, with `gap_factor` 3 -/
def insertGapMarkers (rows : List BucketRow) (bucketSizeSeconds : PyFloat) : List BucketRow :=
  match rows with
  | [] => []
  | first :: rest =>
      if bucketSizeSeconds ≤ 0 then rows
      else first :: withMarkers fromisoformat (bucketSizeSeconds * 3) first rest

/-! ## Largest-Triangle-Three-Buckets

In the arithmetic `F`; a value of a row is a float already.
-/

/-- `rows[j]`; the indices below never leave the list. -/
def rowAt (rows : List BucketRow) (j : ℕ) : BucketRow := rows.getD j default

/-- `avg_value` of row `j`; `none` marks a gap. -/
def avgAt (rows : List BucketRow) (j : ℕ) : Option PyFloat := (rowAt rows j).avgValue

/-- `_ts_to_epoch(rows[j]["bucket"])` -/
def epochAt (rows : List BucketRow) (j : ℕ) : PyFloat :=
  F.round (tsToEpoch fromisoformat (rowAt rows j).bucket)

/-- `range(lo, hi)` -/
def indices (lo hi : ℕ) : List ℕ := List.range' lo (hi - lo)

/-- `avg_x`, `avg_y` and `avg_count` after the indices given. -/
def centroidSums (rows : List BucketRow) : List ℕ → PyFloat × PyFloat × ℕ → PyFloat × PyFloat × ℕ
  | [], sums => sums
  | j :: js, (sumX, sumY, count) =>
      match avgAt rows j with
      | none => centroidSums rows js (sumX, sumY, count)
      | some v =>
          centroidSums rows js
            (F.add sumX (epochAt F fromisoformat rows j), F.add sumY v, count + 1)

/-- The index of the largest triangle with `(aX, aY)` and the centroid; the first gap
marker ends the search. -/
def largestTriangle (rows : List BucketRow) (aX aY avgX avgY : PyFloat) :
    List ℕ → PyFloat → ℕ → ℕ
  | [], _, maxIdx => maxIdx
  | j :: js, maxArea, maxIdx =>
      match avgAt rows j with
      | none => j
      | some v =>
          let x := epochAt F fromisoformat rows j
          let rise := F.mul (F.sub aX avgX) (F.sub v aY)
          let run := F.mul (F.sub aX x) (F.sub avgY aY)
          let area := F.mul |F.sub rise run| 0.5
          if maxArea < area then largestTriangle rows aX aY avgX avgY js area j
          else largestTriangle rows aX aY avgX avgY js maxArea maxIdx

/-- One step of the loop: the index of the row it appends, which is the new `a`. -/
def nextPoint (rows : List BucketRow) (bucketSize : PyFloat) (a i : ℕ) : ℕ :=
  let nextStart := edge F bucketSize (i + 1)
  let nextEnd := min (edge F bucketSize (i + 2)) rows.length
  let (sumX, sumY, count) :=
    centroidSums F fromisoformat rows (indices nextStart nextEnd) (0, 0, 0)
  if count = 0 then (nextStart + nextEnd - 1) / 2
  else
    let avgX := F.div sumX count
    let avgY := F.div sumY count
    let curStart := edge F bucketSize i
    let curEnd := edge F bucketSize (i + 1)
    let aX := epochAt F fromisoformat rows a
    let aY := (avgAt rows a).getD avgY
    largestTriangle F fromisoformat rows aX aY avgX avgY (indices curStart curEnd) (-1) curStart

/-- The rows appended for the steps given, from the last appended index `a`. -/
def lttbLoop (rows : List BucketRow) (bucketSize : PyFloat) : List ℕ → ℕ → List BucketRow
  | [], _ => []
  | i :: is, a =>
      let j := nextPoint F fromisoformat rows bucketSize a i
      rowAt rows j :: lttbLoop rows bucketSize is j

/-- `(n - 2) / (threshold - 2)` -/
def bucketSizeOf (rows : List BucketRow) (threshold : ℕ) : PyFloat :=
  F.div (rows.length - 2 : ℕ) (threshold - 2 : ℕ)

def lttb (rows : List BucketRow) (threshold : ℕ) : List BucketRow :=
  if threshold ≤ 2 ∨ rows.length ≤ threshold then rows
  else
    rowAt rows 0 ::
      lttbLoop F fromisoformat rows (bucketSizeOf F rows threshold) (List.range (threshold - 2))
          0 ++
        [rowAt rows (rows.length - 1)]

/-! ## What a step takes -/

variable {F fromisoformat}

theorem mem_indices {lo hi j : ℕ} : j ∈ indices lo hi ↔ lo ≤ j ∧ j < hi := by
  rw [indices, List.mem_range'_1]
  omega

/-- The index holds a gap marker. -/
def IsGap (rows : List BucketRow) (j : ℕ) : Prop := avgAt rows j = none

instance (rows : List BucketRow) (j : ℕ) : Decidable (IsGap rows j) :=
  inferInstanceAs (Decidable (avgAt rows j = none))

/-- Index `j` of the rows lies in part `k` of the cut `c`. -/
def InPart (rows : List BucketRow) (c : ℕ → ℕ) (k j : ℕ) : Prop :=
  c k ≤ j ∧ j < min (c (k + 1)) rows.length

/-- The rows of part `k` are gap markers only. -/
def GapPart (rows : List BucketRow) (c : ℕ → ℕ) (k : ℕ) : Prop :=
  ∀ j, InPart rows c k j → IsGap rows j

/-- The middle index of part `k`. -/
def middle (rows : List BucketRow) (c : ℕ → ℕ) (k : ℕ) : ℕ :=
  (c k + min (c (k + 1)) rows.length - 1) / 2

theorem centroidSums_count (rows : List BucketRow) (js : List ℕ) (sums : PyFloat × PyFloat × ℕ) :
    (centroidSums F fromisoformat rows js sums).2.2 =
      sums.2.2 + js.countP fun j => !decide (IsGap rows j) := by
  induction js generalizing sums with
  | nil => rfl
  | cons j js ih =>
      obtain ⟨sumX, sumY, count⟩ := sums
      cases avg : avgAt rows j with
      | none => simp [centroidSums, IsGap, avg, ih]
      | some v =>
          simp only [centroidSums, avg, ih, List.countP_cons, IsGap]
          simp
          omega

theorem centroidSums_count_eq_zero (F : FloatArith) (fromisoformat : String → Datetime)
    (rows : List BucketRow) (c : ℕ → ℕ) (k : ℕ) :
    (centroidSums F fromisoformat rows (indices (c k) (min (c (k + 1)) rows.length))
      (0, 0, 0)).2.2 = 0 ↔ GapPart rows c k := by
  rw [centroidSums_count, zero_add, List.countP_eq_zero]
  simp [GapPart, InPart, mem_indices]

theorem largestTriangle_of_gap (rows : List BucketRow) (aX aY avgX avgY : PyFloat) {js : List ℕ}
    {g : ℕ} (first : js.find? (fun j => decide (IsGap rows j)) = some g) (maxArea : PyFloat)
    (maxIdx : ℕ) :
    largestTriangle F fromisoformat rows aX aY avgX avgY js maxArea maxIdx = g := by
  induction js generalizing maxArea maxIdx with
  | nil => simp at first
  | cons j js ih =>
      cases avg : avgAt rows j with
      | none =>
          have same : j = g := by simpa [IsGap, avg] using first
          simp only [largestTriangle, avg]
          exact same
      | some v =>
          have later : js.find? (fun j => decide (IsGap rows j)) = some g := by
            simpa [IsGap, avg] using first
          simp only [largestTriangle, avg]
          split
          · exact ih later _ _
          · exact ih later _ _

theorem largestTriangle_mem (F : FloatArith) (fromisoformat : String → Datetime)
    (rows : List BucketRow) (aX aY avgX avgY : PyFloat) (js : List ℕ) (maxArea : PyFloat)
    (maxIdx : ℕ) :
    largestTriangle F fromisoformat rows aX aY avgX avgY js maxArea maxIdx ∈ maxIdx :: js := by
  induction js generalizing maxArea maxIdx with
  | nil => simp [largestTriangle]
  | cons j js ih =>
      simp only [largestTriangle]
      split
      · simp
      · split
        · exact List.mem_cons_of_mem _ (ih _ _)
        · rcases List.mem_cons.mp (ih maxArea maxIdx) with same | later
          · rw [same]
            exact List.mem_cons_self
          · exact List.mem_cons_of_mem _ (List.mem_cons_of_mem _ later)

section

variable {rows : List BucketRow} {bucketSize : PyFloat} {a i : ℕ}

theorem nextPoint_gap (gaps : GapPart rows (edge F bucketSize) (i + 1)) :
    nextPoint F fromisoformat rows bucketSize a i = middle rows (edge F bucketSize) (i + 1) := by
  have zero := (centroidSums_count_eq_zero F fromisoformat rows _ _).mpr gaps
  simp only [nextPoint]
  rw [if_pos zero]
  rfl

variable (valued : ¬GapPart rows (edge F bucketSize) (i + 1))

include valued

theorem nextPoint_eq (fromisoformat : String → Datetime) (a : ℕ) :
    ∃ aX aY avgX avgY, nextPoint F fromisoformat rows bucketSize a i =
      largestTriangle F fromisoformat rows aX aY avgX avgY
        (indices (edge F bucketSize i) (edge F bucketSize (i + 1))) (-1) (edge F bucketSize i) := by
  have counted := mt (centroidSums_count_eq_zero F fromisoformat rows _ _).mp valued
  simp only [nextPoint, if_neg counted]
  exact ⟨_, _, _, _, rfl⟩

theorem nextPoint_first_gap {g : ℕ}
    (first : (indices (edge F bucketSize i) (edge F bucketSize (i + 1))).find?
      (fun j => decide (IsGap rows j)) = some g) :
    nextPoint F fromisoformat rows bucketSize a i = g := by
  obtain ⟨aX, aY, avgX, avgY, eq⟩ := nextPoint_eq valued fromisoformat a
  rw [eq]
  exact largestTriangle_of_gap rows aX aY avgX avgY first _ _

theorem nextPoint_value (lt : edge F bucketSize i < edge F bucketSize (i + 1)) :
    edge F bucketSize i ≤ nextPoint F fromisoformat rows bucketSize a i ∧
      nextPoint F fromisoformat rows bucketSize a i < edge F bucketSize (i + 1) := by
  obtain ⟨aX, aY, avgX, avgY, eq⟩ := nextPoint_eq valued fromisoformat a
  rw [eq]
  rcases List.mem_cons.mp (largestTriangle_mem F fromisoformat rows aX aY avgX avgY
    (indices (edge F bucketSize i) (edge F bucketSize (i + 1))) (-1) (edge F bucketSize i))
    with same | within
  · rw [same]
    exact ⟨le_rfl, lt⟩
  · exact mem_indices.mp within

end

end

end LocoTwin.Analytics
