/-
# Report.FleetReport -- the numbers of a fleet report

A fleet report is put together from four statements of the analytics service, each of which
groups one table for itself: mean scores by locomotive, the ten worst by locomotive and type,
alerts by severity, readings by sensor.

* **`fleet_report_consistent`**: the numbers agree with each other.  The three counts are
  counts of one fleet, mean and extremes are in order, the list of the worst starts with the
  minimum and has every critical locomotive while these are ten at most, alerts and samples
  add up, and the category of the report contradicts none of this.

The category is that of the rounded mean: a mean of 79.996 is "Норма" with no locomotive
counted healthy.  `STDDEV` and the collation of the texts are parameters; fields of the
report that are constant are left out.
-/
import LocoTwin.Lib.Dict
import LocoTwin.Lib.GroupBy
import LocoTwin.Lib.Rounding
import LocoTwin.Shared.Python

namespace LocoTwin.Report.Fleet

open LocoTwin.Lib LocoTwin.Shared

set_option autoImplicit false

/-! ## The tables -/

/-- A row of `health_snapshots`, in the columns that are read here. -/
structure HealthSnapshot where
  locomotiveId : UUID
  locomotiveType : String
  score : PyFloat
  calculatedAt : Datetime
  deriving DecidableEq

/-- A row of `alert_events`. -/
structure AlertRow where
  severity : String
  timestamp : Datetime
  deriving DecidableEq

/-- A row of `raw_telemetry`. -/
structure TelemetryRow where
  sensorType : String
  unit : String
  filteredValue : PyFloat
  time : Datetime
  deriving DecidableEq

structure Tables where
  healthSnapshots : List HealthSnapshot
  alertEvents : List AlertRow
  rawTelemetry : List TelemetryRow

structure DateRange where
  start : Datetime
  end_ : Datetime

/-- `BETWEEN :start AND :end` -/
def DateRange.covers (range : DateRange) (time : Datetime) : Bool :=
  decide (range.start ≤ time) && decide (time ≤ range.end_)

/-! ## The statements -/

section

variable (t : Tables) (range : DateRange)

def snapshots : List HealthSnapshot :=
  t.healthSnapshots.filter fun s => range.covers s.calculatedAt

def alerts : List AlertRow := t.alertEvents.filter fun a => range.covers a.timestamp

def telemetry : List TelemetryRow := t.rawTelemetry.filter fun r => range.covers r.time

/-- `loco_scores` -/
def locoScores : List PyFloat :=
  (groupBy HealthSnapshot.locomotiveId (snapshots t range)).map fun e =>
    avg (e.2.map HealthSnapshot.score)

structure FleetHealth where
  totalLocomotives : Nat
  avgScore : PyFloat
  minScore : PyFloat
  maxScore : PyFloat
  healthyCount : Nat
  warningCount : Nat
  criticalCount : Nat
  deriving DecidableEq

def queryFleetHealth : FleetHealth :=
  let scores := locoScores t range
  if scores.length = 0 then ⟨0, 0, 0, 0, 0, 0, 0⟩
  else
    { totalLocomotives := scores.length
      avgScore := roundTo 2 (avg scores)
      minScore := roundTo 2 (scores.min?.getD 0)
      maxScore := roundTo 2 (scores.max?.getD 0)
      healthyCount := scores.countP fun score => decide (80 ≤ score)
      warningCount := scores.countP fun score => decide (50 ≤ score) && decide (score < 80)
      criticalCount := scores.countP fun score => decide (score < 50) }

/-- A group of `query_worst_locomotives`. -/
structure WorstRow where
  locomotiveId : UUID
  locomotiveType : String
  avgScore : PyFloat
  minScore : PyFloat
  maxScore : PyFloat
  deriving DecidableEq

def worstRows : List WorstRow :=
  (groupBy (fun s => (s.locomotiveId, s.locomotiveType)) (snapshots t range)).map fun e =>
    let scores := e.2.map HealthSnapshot.score
    ⟨e.1.1, e.1.2, avg scores, scores.min?.getD 0, scores.max?.getD 0⟩

structure WorstLocomotive where
  locomotiveId : String
  locomotiveType : String
  serialNumber : String
  avgScore : PyFloat
  minScore : PyFloat
  maxScore : PyFloat
  deriving DecidableEq

def worstLocomotive (row : WorstRow) : WorstLocomotive where
  locomotiveId := row.locomotiveId.str
  locomotiveType := row.locomotiveType
  serialNumber := String.ofList (row.locomotiveId.str.toList.take 12)
  avgScore := roundTo 2 row.avgScore
  minScore := roundTo 2 row.minScore
  maxScore := roundTo 2 row.maxScore

def queryWorstLocomotives (order : OrderBy WorstRow.avgScore) (limit : Nat) :
    List WorstLocomotive :=
  ((order.sort (worstRows t range)).take limit).map worstLocomotive

structure AlertSummary where
  total : Nat
  bySeverity : Dict String Nat

def queryFleetAlertSummary : AlertSummary :=
  (groupBy AlertRow.severity (alerts t range)).foldl
    (fun summary e =>
      ⟨summary.total + e.2.length, summary.bySeverity.set e.1 e.2.length⟩) ⟨0, Dict.empty⟩

structure SensorStat where
  sensorType : String
  unit : String
  avg : PyFloat
  min : PyFloat
  max : PyFloat
  stddev : PyFloat
  samples : Nat
  deriving DecidableEq

/-- `round(float(x), 4) if x else 0.0` -/
def roundOrZero (x : Option PyFloat) : PyFloat :=
  match x with
  | some x => if x = 0 then 0 else roundTo 4 x
  | none => 0

def sensorStat (stddev : List PyFloat → Option PyFloat)
    (e : (String × String) × List TelemetryRow) : SensorStat :=
  let values := e.2.map TelemetryRow.filteredValue
  { sensorType := e.1.1
    unit := e.1.2
    avg := roundOrZero (some (Lib.avg values))
    min := roundOrZero values.min?
    max := roundOrZero values.max?
    stddev := roundOrZero (stddev values)
    samples := e.2.length }

/-- `query_sensor_stats`, of the whole fleet. -/
def querySensorStats (stddev : List PyFloat → Option PyFloat) {K : Type} [LE K]
    {collate : String → K} (order : OrderBy fun stat : SensorStat => collate stat.sensorType) :
    List SensorStat :=
  order.sort ((groupBy (fun r => (r.sensorType, r.unit)) (telemetry t range)).map
    (sensorStat stddev))

end

/-! ## The report -/

/-- What the client makes of a `FleetHealthStats` message, in the fields that are read. -/
structure FleetHealthStats where
  avgScore : PyFloat
  minScore : PyFloat
  maxScore : PyFloat
  locomotiveCount : Nat
  healthyCount : Nat
  warningCount : Nat
  criticalCount : Nat
  deriving DecidableEq

/-- `get_fleet_health`, of the response of `GetFleetHealth`. -/
def getFleetHealth (data : FleetHealth) : List FleetHealthStats :=
  [{ avgScore := data.avgScore
     minScore := data.minScore
     maxScore := data.maxScore
     locomotiveCount := data.totalLocomotives
     healthyCount := data.healthyCount
     warningCount := data.warningCount
     criticalCount := data.criticalCount }]

structure FleetStats where
  totalLocomotives : Nat
  healthyCount : Nat
  warningCount : Nat
  criticalCount : Nat
  deriving DecidableEq

structure HealthOverview where
  calculatedScore : PyFloat
  avgScore : PyFloat
  minScore : PyFloat
  maxScore : PyFloat
  category : String
  fleetStats : FleetStats
  worstLocomotives : List WorstLocomotive
  deriving DecidableEq

structure FleetReport where
  dateRange : String × String
  healthOverview : HealthOverview
  sensorStats : List SensorStat
  alertSummary : AlertSummary
  generatedAt : String

def categoryOf (avgScore : PyFloat) : String :=
  if 80 ≤ avgScore then "Норма"
  else if 50 ≤ avgScore then "Внимание"
  else "Критично"

section

variable (isoformat : Datetime → String) (stddev : List PyFloat → Option PyFloat) {K : Type}
  [LE K] {collate : String → K} (byScore : OrderBy WorstRow.avgScore)
  (bySensor : OrderBy fun stat : SensorStat => collate stat.sensorType)

/-- `_generate_fleet_report` -/
def generateFleetReport (t : Tables) (range : DateRange) (now : Datetime) : FleetReport :=
  let fleetHealth := (getFleetHealth (queryFleetHealth t range)).head?.getD ⟨0, 0, 0, 0, 0, 0, 0⟩
  { dateRange := (isoformat range.start, isoformat range.end_)
    healthOverview :=
      { calculatedScore := roundTo 2 fleetHealth.avgScore
        avgScore := roundTo 2 fleetHealth.avgScore
        minScore := fleetHealth.minScore
        maxScore := fleetHealth.maxScore
        category := categoryOf fleetHealth.avgScore
        fleetStats :=
          { totalLocomotives := fleetHealth.locomotiveCount
            healthyCount := fleetHealth.healthyCount
            warningCount := fleetHealth.warningCount
            criticalCount := fleetHealth.criticalCount }
        worstLocomotives := queryWorstLocomotives t range byScore 10 }
    sensorStats := querySensorStats t range stddev bySensor
    alertSummary := queryFleetAlertSummary t range
    generatedAt := isoformat now }

end

/-! ## One fleet -/

/-- The locomotives that were scored in the period. -/
def locomotives (t : Tables) (range : DateRange) : List UUID :=
  ((snapshots t range).map HealthSnapshot.locomotiveId).dedup

def scoresOf (t : Tables) (range : DateRange) (loco : UUID) : List PyFloat :=
  (group HealthSnapshot.locomotiveId (snapshots t range) loco).map HealthSnapshot.score

/-- The mean score of a locomotive. -/
def scoreOf (t : Tables) (range : DateRange) (loco : UUID) : PyFloat := avg (scoresOf t range loco)

/-- A locomotive is of one type. -/
def OneType (t : Tables) : Prop :=
  ∀ s ∈ t.healthSnapshots, ∀ s' ∈ t.healthSnapshots, s.locomotiveId = s'.locomotiveId →
    s.locomotiveType = s'.locomotiveType

variable {t : Tables} {range : DateRange}

theorem locoScores_eq (t : Tables) (range : DateRange) :
    locoScores t range = (locomotives t range).map (scoreOf t range) := List.map_map

theorem scoresOf_ne_nil {loco : UUID} (mem : loco ∈ locomotives t range) :
    scoresOf t range loco ≠ [] := by
  obtain ⟨s, s_mem, own⟩ := List.mem_map.mp (List.mem_dedup.mp mem)
  have grouped := (mem_group HealthSnapshot.locomotiveId).mpr ⟨s_mem, own⟩
  exact List.ne_nil_of_mem (List.mem_map_of_mem grouped)

/-- What a row of the worst says of its locomotive. -/
structure Scored (t : Tables) (range : DateRange) (row : WorstRow) : Prop where
  known : row.locomotiveId ∈ locomotives t range
  mean : row.avgScore = scoreOf t range row.locomotiveId
  least : (scoresOf t range row.locomotiveId).min? = some row.minScore
  greatest : (scoresOf t range row.locomotiveId).max? = some row.maxScore

theorem Scored.bounds {row : WorstRow} (scored : Scored t range row) :
    row.minScore ≤ row.avgScore ∧ row.avgScore ≤ row.maxScore := by
  rw [scored.mean]
  exact ⟨min?_le_avg scored.least, avg_le_max? scored.greatest⟩

/-- With one type for each locomotive, its group is all its snapshots. -/
theorem worstRows_scored (types : OneType t) : ∀ row ∈ worstRows t range, Scored t range row := by
  intro row mem
  obtain ⟨⟨⟨loco, type⟩, g⟩, listed, rfl⟩ := List.mem_map.mp mem
  obtain ⟨occurs, rfl⟩ := (mem_groupBy _).mp listed
  obtain ⟨s, s_mem, key⟩ := List.mem_map.mp occurs
  obtain ⟨rfl, rfl⟩ := Prod.mk.inj key
  have known : s.locomotiveId ∈ locomotives t range :=
    List.mem_dedup.mpr (List.mem_map_of_mem s_mem)
  have same : group (fun s => (s.locomotiveId, s.locomotiveType)) (snapshots t range)
      (s.locomotiveId, s.locomotiveType) =
      group HealthSnapshot.locomotiveId (snapshots t range) s.locomotiveId := by
    refine List.filter_congr fun s' s'_mem => ?_
    have type (own : s'.locomotiveId = s.locomotiveId) : s'.locomotiveType = s.locomotiveType :=
      types s' (List.mem_filter.mp s'_mem).1 s (List.mem_filter.mp s_mem).1 own
    rw [decide_eq_decide, Prod.mk.injEq]
    exact ⟨And.left, fun own => ⟨own, type own⟩⟩
  have nonempty := scoresOf_ne_nil known
  obtain ⟨lo, least⟩ := Option.ne_none_iff_exists'.mp (mt List.min?_eq_none_iff.mp nonempty)
  obtain ⟨hi, greatest⟩ := Option.ne_none_iff_exists'.mp (mt List.max?_eq_none_iff.mp nonempty)
  unfold scoresOf at least greatest
  rw [same]
  dsimp only
  rw [least, greatest]
  exact ⟨known, rfl, least, greatest⟩

/-- The groups by locomotive and type are the locomotives. -/
theorem worstRows_perm (types : OneType t) :
    ((worstRows t range).map WorstRow.locomotiveId).Perm (locomotives t range) := by
  have keys : (worstRows t range).map WorstRow.locomotiveId =
      ((snapshots t range).map fun s => (s.locomotiveId, s.locomotiveType)).dedup.map
        Prod.fst := by
    rw [worstRows, List.map_map, ← keys_groupBy, List.map_map]
    rfl
  refine (List.perm_ext_iff_of_nodup ?_ (List.nodup_dedup _)).mpr fun loco => ?_
  · rw [keys]
    refine List.Nodup.map_on ?_ (List.nodup_dedup _)
    rintro ⟨loco, type⟩ mem ⟨loco', type'⟩ mem' same
    obtain ⟨s, s_mem, key⟩ := List.mem_map.mp (List.mem_dedup.mp mem)
    obtain ⟨s', s'_mem, key'⟩ := List.mem_map.mp (List.mem_dedup.mp mem')
    obtain ⟨rfl, rfl⟩ := Prod.mk.inj key
    obtain ⟨rfl, rfl⟩ := Prod.mk.inj key'
    have same' : s.locomotiveId = s'.locomotiveId := same
    have type := types s (List.mem_filter.mp s_mem).1 s' (List.mem_filter.mp s'_mem).1 same'
    rw [same', type]
  · rw [keys, List.mem_dedup]
    constructor
    · intro mem
      obtain ⟨key, key_mem, rfl⟩ := List.mem_map.mp mem
      obtain ⟨s, s_mem, rfl⟩ := List.mem_map.mp (List.mem_dedup.mp key_mem)
      exact List.mem_map_of_mem s_mem
    · intro mem
      obtain ⟨s, s_mem, rfl⟩ := List.mem_map.mp mem
      exact List.mem_map.mpr
        ⟨_, List.mem_dedup.mpr (List.mem_map_of_mem s_mem), rfl⟩

/-- The scores that the two statements group are the same. -/
theorem worstRows_scores (types : OneType t) :
    ((worstRows t range).map WorstRow.avgScore).Perm (locoScores t range) := by
  have scored : (worstRows t range).map WorstRow.avgScore =
      ((worstRows t range).map WorstRow.locomotiveId).map (scoreOf t range) := by
    rw [List.map_map]
    exact List.map_congr_left fun row mem => (worstRows_scored types row mem).mean
  rw [scored, locoScores_eq]
  exact (worstRows_perm types).map _

/-! ## Health -/

theorem counts_partition (scores : List PyFloat) :
    (scores.countP fun score => decide (80 ≤ score)) +
      (scores.countP fun score => decide (50 ≤ score) && decide (score < 80)) +
        (scores.countP fun score => decide (score < 50)) = scores.length := by
  induction scores with
  | nil => rfl
  | cons x scores ih =>
      simp only [List.countP_cons, List.length_cons, Bool.and_eq_true, decide_eq_true_eq]
      rcases lt_or_ge x 50 with critical | fair
      · have below : ¬ 80 ≤ x := by linarith
        have below' : ¬ (50 ≤ x ∧ x < 80) := fun h => by linarith [h.1]
        rw [if_neg below, if_neg below', if_pos critical]
        omega
      · rcases lt_or_ge x 80 with warning | healthy
        · rw [if_neg warning.not_ge, if_pos ⟨fair, warning⟩, if_neg fair.not_gt]
          omega
        · have above : ¬ (50 ≤ x ∧ x < 80) := fun h => by linarith [h.2]
          rw [if_pos healthy, if_neg above, if_neg fair.not_gt]
          omega

/-- A mean that rounds below a whole bound is of a value below the bound. -/
theorem exists_below {scores : List PyFloat} (nonempty : scores ≠ []) {bound : PyFloat}
    (whole : roundTo 2 bound = bound) (below : roundTo 2 (avg scores) < bound) :
    ∃ score ∈ scores, score < bound := by
  obtain ⟨lo, least⟩ := Option.ne_none_iff_exists'.mp (mt List.min?_eq_none_iff.mp nonempty)
  obtain ⟨mem, -⟩ := List.min?_eq_some_iff.mp least
  have mean : avg scores < bound := by
    by_contra above
    have rounded := roundTo_mono 2 (not_lt.mp above)
    rw [whole] at rounded
    exact below.not_ge rounded
  exact ⟨lo, mem, (min?_le_avg least).trans_lt mean⟩

/-- The health of a fleet, in agreement with itself. -/
structure HealthConsistent (t : Tables) (range : DateRange) (health : FleetHealth) : Prop where
  total : health.totalLocomotives = (locomotives t range).length
  partition : health.healthyCount + health.warningCount + health.criticalCount =
    health.totalLocomotives
  ordered : health.minScore ≤ health.avgScore ∧ health.avgScore ≤ health.maxScore
  norma : 0 < health.totalLocomotives → health.healthyCount = health.totalLocomotives →
    categoryOf health.avgScore = "Норма"
  vnimanie : categoryOf health.avgScore = "Внимание" →
    health.healthyCount < health.totalLocomotives
  kritichno : 0 < health.totalLocomotives → categoryOf health.avgScore = "Критично" →
    0 < health.criticalCount

theorem categoryOf_vnimanie {x : PyFloat} (same : categoryOf x = "Внимание") : x < 80 := by
  by_contra above
  rw [categoryOf, if_pos (not_lt.mp above)] at same
  exact absurd same (by decide)

theorem categoryOf_kritichno {x : PyFloat} (same : categoryOf x = "Критично") : x < 50 := by
  unfold categoryOf at same
  split at same
  · exact absurd same (by decide)
  · split at same
    case isTrue => exact absurd same (by decide)
    case isFalse below => exact not_le.mp below

theorem queryFleetHealth_none (none' : (locoScores t range).length = 0) :
    queryFleetHealth t range = ⟨0, 0, 0, 0, 0, 0, 0⟩ := if_pos none'

theorem queryFleetHealth_some (some' : (locoScores t range).length ≠ 0) :
    queryFleetHealth t range =
      { totalLocomotives := (locoScores t range).length
        avgScore := roundTo 2 (avg (locoScores t range))
        minScore := roundTo 2 ((locoScores t range).min?.getD 0)
        maxScore := roundTo 2 ((locoScores t range).max?.getD 0)
        healthyCount := (locoScores t range).countP fun score => decide (80 ≤ score)
        warningCount := (locoScores t range).countP fun score =>
          decide (50 ≤ score) && decide (score < 80)
        criticalCount := (locoScores t range).countP fun score => decide (score < 50) } :=
  if_neg some'

theorem health_consistent (t : Tables) (range : DateRange) :
    HealthConsistent t range (queryFleetHealth t range) := by
  have length : (locoScores t range).length = (locomotives t range).length := by
    rw [locoScores_eq, List.length_map]
  by_cases none' : (locoScores t range).length = 0
  · rw [queryFleetHealth_none none']
    exact
      { total := none'.symm.trans length
        partition := rfl
        ordered := ⟨le_refl 0, le_refl 0⟩
        norma := fun some => absurd some (lt_irrefl 0)
        vnimanie := fun same => absurd same (by decide +kernel)
        kritichno := fun some => absurd some (lt_irrefl 0) }
  · rw [queryFleetHealth_some none']
    have nonempty : locoScores t range ≠ [] := fun nil => none' (by rw [nil]; rfl)
    generalize locoScores t range = scores at *
    obtain ⟨lo, least⟩ := Option.ne_none_iff_exists'.mp (mt List.min?_eq_none_iff.mp nonempty)
    obtain ⟨hi, greatest⟩ := Option.ne_none_iff_exists'.mp (mt List.max?_eq_none_iff.mp nonempty)
    rw [least, greatest]
    exact
      { total := length
        partition := counts_partition scores
        ordered := ⟨roundTo_mono 2 (min?_le_avg least), roundTo_mono 2 (avg_le_max? greatest)⟩
        norma := by
          intro _ all
          have healthy := List.countP_eq_length.mp all
          have above : (80 : PyFloat) ≤ lo :=
            of_decide_eq_true (healthy lo (List.min?_eq_some_iff.mp least).1)
          have rounded := roundTo_mono 2 (above.trans (min?_le_avg least))
          rw [show roundTo 2 (80 : PyFloat) = 80 by decide +kernel] at rounded
          exact if_pos rounded
        vnimanie := by
          intro same
          obtain ⟨score, mem, below⟩ := exists_below nonempty (by decide +kernel)
            (categoryOf_vnimanie same)
          refine lt_of_le_of_ne List.countP_le_length fun all => ?_
          exact below.not_ge (of_decide_eq_true (List.countP_eq_length.mp all score mem))
        kritichno := by
          intro _ same
          obtain ⟨score, mem, below⟩ := exists_below nonempty (by decide +kernel)
            (categoryOf_kritichno same)
          exact List.countP_pos_iff.mpr ⟨score, mem, decide_eq_true below⟩ }

/-! ## The worst -/

/-- What the list of the worst says of a fleet. -/
structure WorstConsistent (t : Tables) (range : DateRange) (health : FleetHealth)
    (worst : List WorstLocomotive) : Prop where
  length : worst.length = min 10 health.totalLocomotives
  distinct : (worst.map WorstLocomotive.locomotiveId).Nodup
  ascending : worst.Pairwise fun v w => v.avgScore ≤ w.avgScore
  scored : ∀ w ∈ worst, ∃ loco ∈ locomotives t range, w.locomotiveId = loco.str ∧
    w.avgScore = roundTo 2 (scoreOf t range loco) ∧ w.minScore ≤ w.avgScore ∧
      w.avgScore ≤ w.maxScore
  first : ∀ w ∈ worst.head?, w.avgScore = health.minScore
  others : ∀ loco ∈ locomotives t range, loco.str ∉ worst.map WorstLocomotive.locomotiveId →
    ∀ w ∈ worst, w.avgScore ≤ roundTo 2 (scoreOf t range loco)
  /-- While there is room, a critical locomotive is listed. -/
  critical : health.criticalCount ≤ 10 → ∀ loco ∈ locomotives t range,
    scoreOf t range loco < 50 → loco.str ∈ worst.map WorstLocomotive.locomotiveId

theorem worst_consistent (byScore : OrderBy WorstRow.avgScore) (types : OneType t)
    (range : DateRange) :
    WorstConsistent t range (queryFleetHealth t range)
      (queryWorstLocomotives t range byScore 10) := by
  have perm := byScore.perm (worstRows t range)
  have sorted := byScore.sorted (worstRows t range)
  have scores := (perm.map WorstRow.avgScore).trans (worstRows_scores types)
  have ids := (perm.map WorstRow.locomotiveId).trans (worstRows_perm types)
  have scored (row : WorstRow) (mem : row ∈ byScore.sort (worstRows t range)) :
      Scored t range row := worstRows_scored types row (perm.mem_iff.mp mem)
  unfold queryWorstLocomotives
  generalize byScore.sort (worstRows t range) = rows at *
  have length : rows.length = (locomotives t range).length := by
    rw [← List.length_map WorstRow.locomotiveId, ids.length_eq]
  have listedIds : ((rows.take 10).map worstLocomotive).map WorstLocomotive.locomotiveId =
      ((rows.take 10).map WorstRow.locomotiveId).map UUID.str := by
    rw [List.map_map, List.map_map]
    rfl
  have ahead : ∀ row ∈ rows.take 10, ∀ row' ∈ rows.drop 10, row.avgScore ≤ row'.avgScore := by
    rw [← List.take_append_drop 10 rows] at sorted
    exact (List.pairwise_append.mp sorted).2.2
  -- a locomotive that is not listed comes behind
  have behind (loco : UUID) (known : loco ∈ locomotives t range)
      (unlisted : loco.str ∉ ((rows.take 10).map worstLocomotive).map
        WorstLocomotive.locomotiveId) :
      ∃ row ∈ rows.drop 10, row.avgScore = scoreOf t range loco := by
    obtain ⟨row, mem, rfl⟩ := List.mem_map.mp (ids.mem_iff.mpr known)
    rw [← List.take_append_drop 10 rows, List.mem_append] at mem
    rcases mem with listed | later
    · rw [listedIds] at unlisted
      exact absurd (List.mem_map_of_mem (List.mem_map_of_mem listed)) unlisted
    · exact ⟨row, later, (scored row (List.mem_of_mem_drop later)).mean⟩
  constructor
  case length =>
    rw [(health_consistent t range).total, List.length_map, List.length_take, length]
  case distinct =>
    rw [listedIds]
    have once : (rows.map WorstRow.locomotiveId).Nodup := ids.nodup_iff.mpr (List.nodup_dedup _)
    refine List.Nodup.map UUID.str_injective (once.sublist ?_)
    exact (List.take_sublist 10 rows).map _
  case ascending =>
    refine List.pairwise_map.mpr ?_
    exact (sorted.sublist (List.take_sublist 10 rows)).imp fun le => roundTo_mono 2 le
  case scored =>
    intro w mem
    obtain ⟨row, row_mem, rfl⟩ := List.mem_map.mp mem
    have own := scored row (List.mem_of_mem_take row_mem)
    refine ⟨row.locomotiveId, own.known, rfl, congrArg (roundTo 2) own.mean, ?_, ?_⟩
    · exact roundTo_mono 2 own.bounds.1
    · exact roundTo_mono 2 own.bounds.2
  case first =>
    intro w mem
    cases rows with
    | nil => cases mem
    | cons row rows =>
        rw [List.take_succ_cons, List.map_cons, List.head?_cons, Option.mem_some_iff] at mem
        subst mem
        have some' : (locoScores t range).length ≠ 0 := by
          rw [← scores.length_eq]
          exact Nat.succ_ne_zero _
        have least : (locoScores t range).min? = some row.avgScore := by
          refine List.min?_eq_some_iff.mpr ⟨?_, ?_⟩
          · exact scores.mem_iff.mp List.mem_cons_self
          · intro score score_mem
            rcases List.mem_cons.mp (scores.mem_iff.mpr score_mem) with rfl | later
            · exact le_refl _
            · obtain ⟨row', row'_mem, rfl⟩ := List.mem_map.mp later
              exact List.rel_of_pairwise_cons sorted row'_mem
        have minimum : (queryFleetHealth t range).minScore = roundTo 2 row.avgScore := by
          rw [queryFleetHealth_some some', least, Option.getD_some]
        rw [minimum]
        rfl
  case others =>
    intro loco known unlisted w mem
    obtain ⟨row', later, mean⟩ := behind loco known unlisted
    obtain ⟨row, row_mem, rfl⟩ := List.mem_map.mp mem
    rw [← mean]
    exact roundTo_mono 2 (ahead row row_mem row' later)
  case critical =>
    intro room loco known low
    by_contra unlisted
    obtain ⟨row', later, mean⟩ := behind loco known unlisted
    rw [← mean] at low
    have some' : (locoScores t range).length ≠ 0 := by
      rw [← scores.length_eq, List.length_map]
      exact (List.length_pos_of_mem (List.mem_of_mem_drop later)).ne'
    have counted : (rows.countP fun row => decide (row.avgScore < 50)) ≤ 10 := by
      have same := scores.countP_eq fun score => decide (score < 50)
      rw [List.countP_map] at same
      rw [queryFleetHealth_some some'] at room
      exact same.trans_le room
    rw [← List.take_append_drop 10 rows, List.countP_append] at counted
    have full : (rows.take 10).countP (fun row => decide (row.avgScore < 50)) = 10 := by
      have all : (rows.take 10).countP (fun row => decide (row.avgScore < 50)) =
          (rows.take 10).length :=
        List.countP_eq_length.mpr fun row row_mem =>
          decide_eq_true ((ahead row row_mem row' later).trans_lt low)
      have long := List.length_pos_of_mem later
      rw [List.length_drop] at long
      rw [all, List.length_take]
      omega
    have one : 0 < (rows.drop 10).countP fun row => decide (row.avgScore < 50) :=
      List.countP_pos_iff.mpr ⟨row', later, decide_eq_true low⟩
    omega

/-! ## Alerts and sensors -/

/-- The summary of the alerts of a period. -/
structure AlertsConsistent (t : Tables) (range : DateRange) (summary : AlertSummary) : Prop where
  total : summary.total = (alerts t range).length
  bySeverity : ∀ severity n, summary.bySeverity.get? severity = some n ↔
    0 < n ∧ n = (alerts t range).countP fun a => decide (a.severity = severity)
  sum : (summary.bySeverity.entries.map Prod.snd).sum = summary.total

/-- Groups of keys that are new go into the summary as they are. -/
theorem summarise_groups (l : List (String × List AlertRow)) (summary : AlertSummary)
    (distinct : (summary.bySeverity.keys ++ l.map Prod.fst).Nodup) :
    (l.foldl (fun summary e => AlertSummary.mk (summary.total + e.2.length)
      (summary.bySeverity.set e.1 e.2.length)) summary).total =
        summary.total + (l.map fun e => e.2.length).sum ∧
    (l.foldl (fun summary e => AlertSummary.mk (summary.total + e.2.length)
      (summary.bySeverity.set e.1 e.2.length)) summary).bySeverity.entries =
        summary.bySeverity.entries ++ l.map fun e => (e.1, e.2.length) := by
  induction l generalizing summary with
  | nil => simp
  | cons e l ih =>
      have new : e.1 ∉ summary.bySeverity.keys := by
        intro mem
        exact (List.nodup_append.mp distinct).2.2 _ mem _ List.mem_cons_self rfl
      have entries := Dict.entries_set_new new e.2.length
      have distinct' : ((summary.bySeverity.set e.1 e.2.length).keys ++ l.map Prod.fst).Nodup := by
        rw [Dict.keys, entries, List.map_append, List.append_assoc]
        exact distinct
      obtain ⟨total, groups⟩ := ih
        ⟨summary.total + e.2.length, summary.bySeverity.set e.1 e.2.length⟩ distinct'
      rw [List.foldl_cons, total, groups, entries, List.map_cons, List.sum_cons, List.map_cons,
        List.append_assoc]
      exact ⟨Nat.add_assoc .., rfl⟩

theorem alerts_consistent (t : Tables) (range : DateRange) :
    AlertsConsistent t range (queryFleetAlertSummary t range) := by
  unfold queryFleetAlertSummary
  obtain ⟨total, entries⟩ := summarise_groups (groupBy AlertRow.severity (alerts t range))
    ⟨0, Dict.empty⟩ (nodup_groupBy _ _)
  constructor
  case total => rw [total, sum_length_groupBy, Nat.zero_add]
  case bySeverity =>
    intro severity n
    rw [Dict.get?_eq_some, entries, Dict.empty, List.nil_append, List.mem_map]
    constructor
    · rintro ⟨⟨severity', g⟩, mem, same⟩
      obtain ⟨rfl, rfl⟩ := Prod.mk.inj same
      refine ⟨List.length_pos_iff.mpr (ne_nil_of_mem_groupBy _ mem), ?_⟩
      obtain ⟨-, rfl⟩ := (mem_groupBy _).mp mem
      exact List.countP_eq_length_filter.symm
    · rintro ⟨pos, rfl⟩
      obtain ⟨a, mem, own⟩ := List.countP_pos_iff.mp pos
      have occurs : severity ∈ (alerts t range).map AlertRow.severity :=
        List.mem_map.mpr ⟨a, mem, of_decide_eq_true own⟩
      refine ⟨_, (mem_groupBy _).mpr ⟨occurs, rfl⟩, ?_⟩
      exact Prod.ext rfl List.countP_eq_length_filter.symm
  case sum =>
    rw [total, entries, Dict.empty, List.nil_append, List.map_map, Nat.zero_add]
    rfl

/-- The statistics of the sensors of a period. -/
structure StatsConsistent (t : Tables) (range : DateRange) (stats : List SensorStat) : Prop where
  samples : (stats.map SensorStat.samples).sum = (telemetry t range).length
  distinct : (stats.map fun stat => (stat.sensorType, stat.unit)).Nodup
  complete : ∀ r ∈ telemetry t range, ∃ stat ∈ stats,
    stat.sensorType = r.sensorType ∧ stat.unit = r.unit
  ordered : ∀ stat ∈ stats, 0 < stat.samples ∧ stat.min ≤ stat.avg ∧ stat.avg ≤ stat.max

theorem roundOrZero_some (x : PyFloat) : roundOrZero (some x) = roundTo 4 x := by
  unfold roundOrZero
  dsimp only
  split
  case isTrue zero =>
    rw [zero]
    decide +kernel
  case isFalse => rfl

theorem stats_consistent (stddev : List PyFloat → Option PyFloat) {K : Type} [LE K]
    {collate : String → K} (order : OrderBy fun stat : SensorStat => collate stat.sensorType)
    (t : Tables) (range : DateRange) :
    StatsConsistent t range (querySensorStats t range stddev order) := by
  have perm := order.perm ((groupBy (fun r => (r.sensorType, r.unit)) (telemetry t range)).map
    (sensorStat stddev))
  unfold querySensorStats
  constructor
  case samples =>
    rw [(perm.map SensorStat.samples).sum_eq, List.map_map]
    exact sum_length_groupBy _ (telemetry t range)
  case distinct =>
    refine ((perm.map _).nodup_iff).mpr ?_
    rw [List.map_map]
    exact nodup_groupBy _ (telemetry t range)
  case complete =>
    intro r mem
    have listed := (mem_groupBy (fun r : TelemetryRow => (r.sensorType, r.unit))).mpr
      ⟨List.mem_map_of_mem mem, rfl⟩
    exact ⟨sensorStat stddev _, perm.mem_iff.mpr (List.mem_map_of_mem listed), rfl, rfl⟩
  case ordered =>
    intro stat mem
    obtain ⟨e, e_mem, rfl⟩ := List.mem_map.mp (perm.mem_iff.mp mem)
    have nonempty := ne_nil_of_mem_groupBy _ e_mem
    have values : e.2.map TelemetryRow.filteredValue ≠ [] := by simpa using nonempty
    obtain ⟨lo, least⟩ := Option.ne_none_iff_exists'.mp (mt List.min?_eq_none_iff.mp values)
    obtain ⟨hi, greatest⟩ := Option.ne_none_iff_exists'.mp (mt List.max?_eq_none_iff.mp values)
    refine ⟨List.length_pos_iff.mpr nonempty, ?_⟩
    unfold sensorStat
    dsimp only
    rw [least, greatest, roundOrZero_some, roundOrZero_some, roundOrZero_some]
    exact ⟨roundTo_mono 4 (min?_le_avg least), roundTo_mono 4 (avg_le_max? greatest)⟩

/-! ## The report -/

/-- The health of the fleet, as the report has it. -/
def HealthOverview.health (o : HealthOverview) : FleetHealth where
  totalLocomotives := o.fleetStats.totalLocomotives
  avgScore := o.avgScore
  minScore := o.minScore
  maxScore := o.maxScore
  healthyCount := o.fleetStats.healthyCount
  warningCount := o.fleetStats.warningCount
  criticalCount := o.fleetStats.criticalCount

/-- The numbers of a report, in agreement with each other. -/
structure ReportConsistent (t : Tables) (range : DateRange) (report : FleetReport) : Prop where
  health : HealthConsistent t range report.healthOverview.health
  category : report.healthOverview.category = categoryOf report.healthOverview.avgScore
  calculated : report.healthOverview.calculatedScore = report.healthOverview.avgScore
  worst : WorstConsistent t range report.healthOverview.health
    report.healthOverview.worstLocomotives
  stats : StatsConsistent t range report.sensorStats
  alerts : AlertsConsistent t range report.alertSummary

section

variable (isoformat : Datetime → String) (stddev : List PyFloat → Option PyFloat) {K : Type}
  [LE K] {collate : String → K} (byScore : OrderBy WorstRow.avgScore)
  (bySensor : OrderBy fun stat : SensorStat => collate stat.sensorType)

/-- The mean is rounded already. -/
theorem rounded_avgScore (t : Tables) (range : DateRange) :
    roundTo 2 (queryFleetHealth t range).avgScore = (queryFleetHealth t range).avgScore := by
  by_cases none' : (locoScores t range).length = 0
  · rw [queryFleetHealth_none none']
    decide +kernel
  · rw [queryFleetHealth_some none', roundTo_roundTo]

theorem generateFleetReport_health (t : Tables) (range : DateRange) (now : Datetime) :
    (generateFleetReport isoformat stddev byScore bySensor t range now).healthOverview.health =
      queryFleetHealth t range := by
  have rounded := rounded_avgScore t range
  unfold generateFleetReport HealthOverview.health getFleetHealth
  dsimp only [List.head?_cons, Option.getD_some]
  rw [rounded]

/-- **The numbers of a fleet report agree.** -/
theorem fleet_report_consistent (types : OneType t) (range : DateRange) (now : Datetime) :
    ReportConsistent t range
      (generateFleetReport isoformat stddev byScore bySensor t range now) := by
  have health := generateFleetReport_health isoformat stddev byScore bySensor t range now
  constructor
  case health =>
    rw [health]
    exact health_consistent t range
  case category => exact congrArg categoryOf (rounded_avgScore t range).symm
  case calculated => rfl
  case worst =>
    rw [health]
    exact worst_consistent byScore types range
  case stats => exact stats_consistent stddev bySensor t range
  case alerts => exact alerts_consistent t range

end

/-- Two locomotives, one of them critical. -/
def smallFleet : Tables where
  healthSnapshots :=
    [⟨1, "KZ8A", 92, 0⟩, ⟨2, "TE33A", 41, 1⟩, ⟨2, "TE33A", 49, 2⟩, ⟨1, "KZ8A", 88, 3⟩]
  alertEvents := [⟨"critical", 1⟩, ⟨"warning", 2⟩, ⟨"critical", 2⟩]
  rawTelemetry := [⟨"oil_pressure", "bar", 2, 1⟩, ⟨"oil_pressure", "bar", 3, 2⟩]

theorem fleet_report_consistent_smallFleet :
    ReportConsistent smallFleet ⟨0, 10⟩
      (generateFleetReport (fun _ => "") (fun _ => none) (.stable WorstRow.avgScore)
        (.stable fun stat : SensorStat => stat.sensorType.length) smallFleet ⟨0, 10⟩ 10) :=
  fleet_report_consistent (fun _ => "") (fun _ => none) (.stable WorstRow.avgScore)
    (.stable fun stat : SensorStat => stat.sensorType.length)
    (by unfold OneType; decide +kernel) ⟨0, 10⟩ 10

end LocoTwin.Report.Fleet
