/-
# Dashboard.LiveSlices -- the state behind the page of a locomotive

Frames become actions, and the reducers keep a bounded piece of what has arrived:

* the history of a sensor is the last 300 of its samples (`get?_receive`);
* the list of alerts is the front of the log of all alerts, with the flags as they were set
  (`alertReceived_ofLog`, `alertAcknowledged_ofLog`), and the counter counts what is in the list.

`new Date(text).getTime()`, of the text of a time, is the parameter `getTime`.  Frames carry
every field of their models, so that what is `undefined` nowhere is no case here.
-/
import LocoTwin.Lib.Dict
import LocoTwin.Shared.Schemas
import Mathlib.Data.List.DropRight

namespace LocoTwin.Dashboard

open LocoTwin.Lib LocoTwin.Shared

set_option autoImplicit false

/-! ## Telemetry -/

/-- `MAX_HISTORY` -/
def maxHistory : Nat := 300

structure SensorData where
  current : PyFloat
  unit : String
  history : List (Int × PyFloat)
  deriving DecidableEq

structure TelemetryState where
  sensors : Dict SensorType SensorData
  gps : Option GPSCoordinate
  locomotiveType : Option LocomotiveType
  routeName : Option String
  lastUpdated : Option Int
  deriving DecidableEq

namespace TelemetryState

/-- `initialState` -/
def initial : TelemetryState := ⟨Dict.empty, none, none, none, none⟩

def sensorUpdated (state : TelemetryState) (sensor : SensorPayload) (time : Int)
    (locomotiveType : LocomotiveType) : TelemetryState :=
  let data :=
    match state.sensors.get? sensor.sensorType with
    | some existing =>
        let history := existing.history ++ [(time, sensor.value)]
        { current := sensor.value
          unit := sensor.unit
          history :=
            if maxHistory < history.length then history.drop (history.length - maxHistory)
            else history }
    | none =>
        { current := sensor.value, unit := sensor.unit, history := [(time, sensor.value)] }
  { state with
    sensors := state.sensors.set sensor.sensorType data
    lastUpdated := some time
    locomotiveType := some locomotiveType }

def gpsUpdated (state : TelemetryState) (gps : GPSCoordinate) : TelemetryState :=
  { state with gps := some gps }

def routeNameUpdated (state : TelemetryState) (routeName : Option String) : TelemetryState :=
  { state with routeName }

/-- The loop over `reading.sensors`. -/
def sensorsUpdated (state : TelemetryState) (sensors : List SensorPayload) (time : Int)
    (locomotiveType : LocomotiveType) : TelemetryState :=
  sensors.foldl (fun state sensor => state.sensorUpdated sensor time locomotiveType) state

/-- The case `telemetry` of `useWsDispatch`. -/
def receive (getTime : Datetime → Int) (state : TelemetryState) (reading : TelemetryReading) :
    TelemetryState :=
  let state := state.sensorsUpdated reading.sensors (getTime reading.timestamp)
    reading.locomotiveType
  let state :=
    match reading.gps with
    | some gps => state.gpsUpdated gps
    | none => state
  state.routeNameUpdated reading.routeName

/-! ## What the telemetry is of -/

/-- The samples of one sensor in a reading. -/
def samples (getTime : Datetime → Int) (type : SensorType) (reading : TelemetryReading) :
    List (Int × SensorPayload) :=
  (reading.sensors.filter fun s => s.sensorType == type).map fun s => (getTime reading.timestamp, s)

/-- What is kept of the samples of a sensor. -/
def dataOf (samples : List (Int × SensorPayload)) : Option SensorData :=
  samples.getLast?.map fun last =>
    { current := last.2.value
      unit := last.2.unit
      history := (samples.map fun s => (s.1, s.2.value)).rtake maxHistory }

theorem rtake_rtake_concat {α : Type} (n : Nat) (l : List α) (x : α) :
    (l.rtake n ++ [x]).rtake n = (l ++ [x]).rtake n := by
  cases n with
  | zero => simp
  | succ n =>
      rw [List.rtake_concat_succ, List.rtake_concat_succ, List.rtake, List.rtake, List.rtake,
        List.drop_drop, List.length_drop]
      have drops : l.length - (n + 1) + (l.length - (l.length - (n + 1)) - n) = l.length - n := by
        omega
      rw [drops]

/-- Cutting a list that is longer keeps its end. -/
theorem cut_eq_rtake {α : Type} (n : Nat) (l : List α) :
    (if n < l.length then l.drop (l.length - n) else l) = l.rtake n := by
  split
  case isTrue => rfl
  case isFalse short => rw [List.rtake, Nat.sub_eq_zero_of_le (not_lt.mp short), List.drop_zero]

/-- One more sample of a sensor. -/
theorem dataOf_concat (samples : List (Int × SensorPayload)) (time : Int)
    (sensor : SensorPayload) :
    dataOf (samples ++ [(time, sensor)]) = some
      (match dataOf samples with
      | some existing =>
          { current := sensor.value
            unit := sensor.unit
            history := (existing.history ++ [(time, sensor.value)]).rtake maxHistory }
      | none =>
          { current := sensor.value, unit := sensor.unit, history := [(time, sensor.value)] }) := by
  cases last : samples.getLast? with
  | none =>
      obtain rfl := List.getLast?_eq_none_iff.mp last
      simp [dataOf, List.rtake, maxHistory]
  | some before =>
      have bounded := rtake_rtake_concat maxHistory (samples.map fun s => (s.1, s.2.value))
        (time, sensor.value)
      simp [dataOf, last, bounded]

theorem get?_sensorUpdated {state : TelemetryState}
    {samples : SensorType → List (Int × SensorPayload)}
    (shows : ∀ type, state.sensors.get? type = dataOf (samples type)) (sensor : SensorPayload)
    (time : Int) (locomotiveType : LocomotiveType) (type : SensorType) :
    (state.sensorUpdated sensor time locomotiveType).sensors.get? type =
      dataOf (samples type ++ if sensor.sensorType = type then [(time, sensor)] else []) := by
  unfold sensorUpdated
  dsimp only
  rw [Dict.get?_set]
  by_cases same : type = sensor.sensorType
  · subst same
    rw [if_pos rfl, if_pos rfl, dataOf_concat, shows]
    cases dataOf (samples sensor.sensorType) with
    | none => rfl
    | some existing => simp only [cut_eq_rtake]
  · rw [if_neg same, if_neg (Ne.symm same), List.append_nil, shows]

theorem get?_sensorsUpdated {state : TelemetryState}
    {samples : SensorType → List (Int × SensorPayload)}
    (shows : ∀ type, state.sensors.get? type = dataOf (samples type))
    (sensors : List SensorPayload) (time : Int) (locomotiveType : LocomotiveType)
    (type : SensorType) :
    (state.sensorsUpdated sensors time locomotiveType).sensors.get? type =
      dataOf (samples type ++
        (sensors.filter fun s => s.sensorType == type).map fun s => (time, s)) := by
  induction sensors generalizing state samples with
  | nil => rw [List.filter_nil, List.map_nil, List.append_nil, ← shows]; rfl
  | cons sensor sensors ih =>
      have first := get?_sensorUpdated shows sensor time locomotiveType
      rw [sensorsUpdated, List.foldl_cons, ← sensorsUpdated, ih first]
      by_cases same : sensor.sensorType = type
      · simp [same]
      · simp [same]

/-- **The history of a sensor is the end of its samples**, and its value is the last of them. -/
theorem get?_receive (getTime : Datetime → Int) {state : TelemetryState}
    {arrived : List TelemetryReading}
    (shows : ∀ type, state.sensors.get? type = dataOf (arrived.flatMap (samples getTime type)))
    (reading : TelemetryReading) (type : SensorType) :
    (state.receive getTime reading).sensors.get? type =
      dataOf ((arrived ++ [reading]).flatMap (samples getTime type)) := by
  have updated := get?_sensorsUpdated shows reading.sensors (getTime reading.timestamp)
    reading.locomotiveType type
  rw [List.flatMap_append, List.flatMap_singleton]
  unfold receive
  cases reading.gps <;> exact updated

end TelemetryState

/-! ## Alerts -/

/-- `MAX_ALERTS` -/
def maxAlerts : Nat := 100

structure AlertsState where
  items : List AlertEvent
  unacknowledgedCount : Nat
  deriving DecidableEq

namespace AlertsState

/-- `initialState` -/
def initial : AlertsState := ⟨[], 0⟩

def countUnacknowledged (items : List AlertEvent) : Nat :=
  items.countP fun item => !item.acknowledged

def alertReceived (state : AlertsState) (alert : AlertEvent) : AlertsState :=
  let items := (alert :: state.items).take maxAlerts
  { items, unacknowledgedCount := countUnacknowledged items }

/-- The first alert with the id, flagged. -/
def flagFirst (id : UUID) : List AlertEvent → List AlertEvent
  | [] => []
  | item :: items =>
      if item.id = id then { item with acknowledged := true } :: items
      else item :: flagFirst id items

def alertAcknowledged (state : AlertsState) (id : UUID) : AlertsState :=
  if state.items.any fun item => item.id == id then
    let items := flagFirst id state.items
    { items, unacknowledgedCount := countUnacknowledged items }
  else state

def alertsReset : AlertsState := initial

theorem flagFirst_of_absent {id : UUID} {items : List AlertEvent}
    (absent : (items.any fun item => item.id == id) = false) : flagFirst id items = items := by
  induction items with
  | nil => rfl
  | cons item items ih =>
      rw [List.any_cons, Bool.or_eq_false_iff] at absent
      rw [flagFirst, if_neg (by simpa using absent.1), ih absent.2]

/-- A flag that is set beyond the list is not seen in it. -/
theorem take_flagFirst (n : Nat) (id : UUID) (log : List AlertEvent) :
    (flagFirst id log).take n = flagFirst id (log.take n) := by
  induction log generalizing n with
  | nil => simp [flagFirst]
  | cons item log ih =>
      cases n with
      | zero => rfl
      | succ n =>
          rw [List.take_succ_cons, flagFirst, flagFirst]
          split
          · rfl
          · rw [List.take_succ_cons, ih]

/-- The state after a log of alerts, newest first. -/
def ofLog (log : List AlertEvent) : AlertsState :=
  ⟨log.take maxAlerts, countUnacknowledged (log.take maxAlerts)⟩

theorem alertReceived_ofLog (log : List AlertEvent) (alert : AlertEvent) :
    (ofLog log).alertReceived alert = ofLog (alert :: log) := by
  have front : (alert :: log.take maxAlerts).take maxAlerts = (alert :: log).take maxAlerts := by
    show alert :: (log.take maxAlerts).take (maxAlerts - 1) = alert :: log.take (maxAlerts - 1)
    rw [List.take_take]
    rfl
  simp only [alertReceived, ofLog, front]

theorem alertAcknowledged_ofLog (log : List AlertEvent) (id : UUID) :
    (ofLog log).alertAcknowledged id = ofLog (flagFirst id log) := by
  unfold alertAcknowledged
  split
  case isTrue => simp only [ofLog, take_flagFirst]
  case isFalse absent =>
    have same := flagFirst_of_absent (Bool.not_eq_true _ ▸ absent)
    simp only [ofLog] at same ⊢
    rw [take_flagFirst, same]

end AlertsState

/-! ## Health -/

structure HealthState where
  overallScore : Option PyFloat
  category : Option String
  locomotiveType : Option LocomotiveType
  topFactors : List HealthFactor
  damagePenalty : PyFloat
  calculatedAt : Option Datetime
  deriving DecidableEq

namespace HealthState

/-- `initialState` -/
def initial : HealthState := ⟨none, none, none, [], 0, none⟩

/-- Every field is overwritten. -/
def healthUpdated (_ : HealthState) (index : HealthIndex) : HealthState where
  overallScore := some index.overallScore
  category := some index.category
  locomotiveType := some index.locomotiveType
  topFactors := index.topFactors
  damagePenalty := index.damagePenalty
  calculatedAt := some index.calculatedAt

end HealthState

end LocoTwin.Dashboard
