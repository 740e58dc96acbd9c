/-
# Processor.AlertEvaluator -- thresholds, severities and the AESS mask

`evaluateAlerts` walks the specifications of the reading's locomotive type in
their order and raises one event for each sensor that has left its safe zone,
except where the AESS mask or the oil-pressure rule skips it.  The generated ids
and the clock are inputs (`AlertStamps`): the n-th event of a call gets the n-th
id, and one clock reading stamps them all.

`alertFor` is the body of the loop.  `mem_evaluateAlerts_iff` says which sensors
the loop alerts, `evaluateAlerts_event` what each event says about its sensor, and
`evaluateAlerts_unstamped` that ids and clock change nothing else.
-/
import LocoTwin.Lib.Rounding
import LocoTwin.Shared.Constants
import LocoTwin.Shared.Schemas

namespace LocoTwin.Processor

open LocoTwin.Lib LocoTwin.Shared

set_option autoImplicit false

/-! ## Operator recommendations -/

/-- `RECOMMENDATIONS`, by sensor and by `severity.value`. -/
def recommendations : Dict SensorType (List (String × String)) where
  entries :=
    [ (.dieselRpm,
        [("warning", "Проверить регулятор оборотов, снизить нагрузку на 1-2 позиции"),
         ("critical", "Немедленно снизить позицию контроллера, подготовить аварийное торможение"),
         ("emergency", "СТОП! Заглушить дизель, активировать аварийный протокол")]),
      (.oilPressure,
        [("warning", "Проверить уровень масла, контролировать давление каждые 5 минут"),
         ("critical", "Снизить обороты дизеля, подготовиться к остановке для осмотра"),
         ("emergency", "СТОП! Немедленно заглушить дизель — риск заклинивания")]),
      (.coolantTemp,
        [("warning", "Проверить работу вентиляторов охлаждения, снизить нагрузку"),
         ("critical", "Снизить позицию до 3-4, открыть жалюзи радиатора вручную"),
         ("emergency", "СТОП! Остановить локомотив, заглушить дизель — перегрев")]),
      (.fuelLevel,
        [("warning", "Запланировать дозаправку на ближайшей станции"),
         ("critical", "Связаться с диспетчером, запросить экстренную дозаправку"),
         ("emergency", "Остановить поезд на ближайшей станции, топливо на исходе")]),
      (.fuelRate,
        [("warning", "Проверить форсунки, контролировать расход"),
         ("critical", "Снизить нагрузку, проверить топливную систему на утечки"),
         ("emergency", "Остановить локомотив, возможна утечка топлива")]),
      (.tractionMotorTemp,
        [("warning", "Снизить тяговое усилие, проверить вентиляцию ТЭД"),
         ("critical", "Переключить на пониженный режим тяги, проверить подшипники"),
         ("emergency", "СТОП! Отключить тяговые двигатели — риск возгорания обмоток")]),
      (.crankcasePressure,
        [("warning", "Контролировать давление, проверить состояние поршневых колец"),
         ("critical", "Снизить обороты, подготовить аварийную остановку"),
         ("emergency", "СТОП! Заглушить дизель — риск взрыва картерных газов")]),
      (.catenaryVoltage,
        [("warning", "Контролировать напряжение, снизить потребление тока"),
         ("critical", "Опустить токоприёмник, связаться с энергодиспетчером"),
         ("emergency", "СТОП! Немедленно опустить токоприёмник, обесточить ВВК")]),
      (.pantographCurrent,
        [("warning", "Снизить тяговое усилие, проверить контакт токоприёмника"),
         ("critical", "Снизить скорость, подготовить опускание токоприёмника"),
         ("emergency", "Опустить токоприёмник, активировать аварийный протокол")]),
      (.transformerTemp,
        [("warning", "Проверить вентиляцию трансформатора, снизить ток тяги"),
         ("critical", "Ограничить мощность до 50%, контролировать каждые 2 минуты"),
         ("emergency", "СТОП! Отключить тяговый трансформатор — риск пробоя изоляции")]),
      (.igbtTemp,
        [("warning", "Проверить систему охлаждения преобразователя"),
         ("critical", "Ограничить мощность, снизить ток тяги"),
         ("emergency", "Отключить тяговый преобразователь — перегрев IGBT-модулей")]),
      (.brakePipePressure,
        [("warning", "Проверить утечки в тормозной магистрали"),
         ("critical", "Снизить скорость, подготовить экстренное торможение"),
         ("emergency", "СТОП! Применить экстренное торможение — утечка давления")]),
      (.wheelSlipRatio,
        [("warning", "Активировать песочницу, снизить тяговое усилие"),
         ("critical", "Снизить тягу до минимума, контролировать сцепление"),
         ("emergency", "Отключить тягу, применить песок на рельсы")]),
      (.speedActual,
        [("warning", "Снизить скорость до установленного ограничения"),
         ("critical", "Немедленно применить служебное торможение"),
         ("emergency", "Применить экстренное торможение — превышение скорости")]),
      (.dcLinkVoltage,
        [("warning", "Контролировать напряжение звена постоянного тока"),
         ("critical", "Снизить мощность рекуперации, проверить конденсаторы"),
         ("emergency", "Отключить тяговый инвертор — опасное напряжение")]),
      (.recuperationCurrent,
        [("warning", "Снизить ток рекуперации, проверить нагрузку"),
         ("critical", "Переключить на реостатное торможение"),
         ("emergency", "Отключить рекуперацию — перегрузка цепи")]) ]
  nodup := by decide

/-- `_DEFAULT_RECOMMENDATION` -/
def defaultRecommendation : List (String × String) :=
  [("info", "Параметр отклонился от нормы — продолжайте мониторинг"),
   ("warning", "Проверить параметр, подготовить план действий"),
   ("critical", "Требуется немедленное вмешательство оператора"),
   ("emergency", "АВАРИЙНАЯ СИТУАЦИЯ — следуйте аварийному протоколу")]

def getRecommendation (sensorType : SensorType) (severity : AlertSeverity) : String :=
  let sensorRecs := recommendations.getD sensorType []
  (sensorRecs.lookup severity.value).getD ((defaultRecommendation.lookup severity.value).getD "")

/-! ## One sensor -/

/-- `{s.sensor_type.value: s.value for s in reading.sensors}` -/
def sensorMap (reading : TelemetryReading) : Dict SensorType PyFloat :=
  Dict.ofPairs (reading.sensors.map fun s => (s.sensorType, s.value))

def sensorUnits (reading : TelemetryReading) : Dict SensorType String :=
  Dict.ofPairs (reading.sensors.map fun s => (s.sensorType, s.unit))

def isAessActive (sensors : Dict SensorType PyFloat) : Bool :=
  match sensors.get? .dieselRpm with
  | none => false
  | some rpm => decide (rpm ≤ aessRpmThreshold)

/-- True if the value has left the safe zone. -/
def thresholdViolated (value : PyFloat) (spec : SensorSpec) : Bool :=
  match spec.thresholdType with
  | .bidirectional => decide (spec.deltaSafe < |value - spec.pNom|)
  | .upperBound => decide (spec.pNom + spec.deltaSafe < value)
  | .lowerBound => decide (value < spec.pNom - spec.deltaSafe)
  | .exactMatch => !decide (|value - spec.pNom| < 1 / 10 ^ 6)

def severityFromSpec (value : PyFloat) (spec : SensorSpec) : AlertSeverity :=
  let dev := match spec.thresholdType with
    | .bidirectional => |value - spec.pNom|
    | .upperBound => max 0 (value - spec.pNom)
    | .lowerBound => max 0 (spec.pNom - value)
    | .exactMatch => |spec.critRange|
  let exceedance := max 0 (dev - spec.deltaSafe)
  let normalized := if 0 < spec.critRange then min 1 (exceedance / spec.critRange) else 1
  if 0.9 ≤ normalized ∨ 35 ≤ spec.weight then .emergency
  else if 0.6 ≤ normalized then .critical
  else if 0.3 ≤ normalized then .warning
  else .info

/-- `1.5 + (rpm / 1050.0) * 1.5`, the oil pressure the engine speed calls for. -/
def minExpected (sensors : Dict SensorType PyFloat) : PyFloat :=
  1.5 + sensors.getD .dieselRpm 0 / 1050 * 1.5

/-- The permitted range an event carries. -/
def permittedRange (spec : SensorSpec) : PyFloat × PyFloat :=
  match spec.thresholdType with
  | .upperBound => (spec.pNom - spec.deltaSafe, spec.pCrit)
  | .lowerBound => (spec.pCrit, spec.pNom + spec.deltaSafe)
  | _ =>
      let half := |spec.pCrit - spec.pNom|
      (spec.pNom - half, spec.pNom + half)

def alertMessage (reading : TelemetryReading) (key : SensorType) (value thrMin thrMax : PyFloat)
    (unit : String) : String :=
  "[" ++ reading.locomotiveType.value ++ "] " ++ key.value ++ " = " ++ fixed 2 value ++ " " ++
    unit ++ " (допустимо: " ++ fixed 2 thrMin ++ "–" ++ fixed 2 thrMax ++ " " ++ unit ++ ")"

/-- The mask is on: an AESS-capable locomotive reports an engine speed in sleep range. -/
def aessActive (reading : TelemetryReading) : Bool :=
  reading.locomotiveType == .te33a && isAessActive (sensorMap reading)

/-- The event raised for a sensor that is out of its safe zone. -/
def alertEvent (id : UUID) (now : Datetime) (reading : TelemetryReading) (key : SensorType)
    (spec : SensorSpec) (value : PyFloat) : AlertEvent :=
  let severity := severityFromSpec value spec
  let (thrMin, thrMax) := permittedRange spec
  let unit := (sensorUnits reading).getD key ""
  { id := id
    locomotiveId := reading.locomotiveId
    sensorType := key
    severity := severity
    value := value
    thresholdMin := thrMin
    thresholdMax := thrMax
    message := alertMessage reading key value thrMin thrMax unit
    recommendation := getRecommendation key severity
    timestamp := now
    acknowledged := false }

/-- The body of the loop: the sensor is absent, masked, contextually accepted,
inside its safe zone, or alerted. -/
def alertFor (id : UUID) (now : Datetime) (reading : TelemetryReading) (key : SensorType)
    (spec : SensorSpec) : Option AlertEvent :=
  let sensors := sensorMap reading
  match sensors.get? key with
  | none => none
  | some value =>
      if aessActive reading && aessMaskedSensors.contains key then none
      else if key == .oilPressure && decide (minExpected sensors ≤ value) then none
      else if !thresholdViolated value spec then none
      else some (alertEvent id now reading key spec value)

/-! ## The loop over the specifications -/

/-- What one call of the evaluator draws: ids in order, and the clock once. -/
structure AlertStamps where
  id : Nat → UUID
  now : Datetime

def alertLoop (stamps : AlertStamps) (reading : TelemetryReading) :
    Nat → List (SensorType × SensorSpec) → List AlertEvent
  | _, [] => []
  | drawn, (key, spec) :: rest =>
      match alertFor (stamps.id drawn) stamps.now reading key spec with
      | none => alertLoop stamps reading drawn rest
      | some event => event :: alertLoop stamps reading (drawn + 1) rest

def evaluateAlerts (stamps : AlertStamps) (reading : TelemetryReading) : List AlertEvent :=
  alertLoop stamps reading 0 (locoSpecs reading.locomotiveType).entries

/-- An event without the id and the clock reading that were drawn for it. -/
def unstamped (event : AlertEvent) : AlertEvent := { event with id := 0, timestamp := 0 }

/-- The AESS mask covers the sensor. -/
def AessMasked (reading : TelemetryReading) (key : SensorType) : Prop :=
  aessActive reading = true ∧ key ∈ aessMaskedSensors

/-- Oil pressure that the engine speed explains. -/
def ContextuallyAccepted (reading : TelemetryReading) (key : SensorType) (value : PyFloat) :
    Prop :=
  key = .oilPressure ∧ minExpected (sensorMap reading) ≤ value

/-- The sensor is present, not masked, not contextually accepted, and outside its
safe zone. -/
def Alerted (reading : TelemetryReading) (key : SensorType) (spec : SensorSpec)
    (value : PyFloat) : Prop :=
  (sensorMap reading).get? key = some value ∧
    ¬ AessMasked reading key ∧ ¬ ContextuallyAccepted reading key value ∧
    thresholdViolated value spec = true

/-- The body of the loop emits exactly for an alerted sensor. -/
theorem alertFor_eq_some {id : UUID} {now : Datetime} {reading : TelemetryReading}
    {key : SensorType} {spec : SensorSpec} {event : AlertEvent} :
    alertFor id now reading key spec = some event ↔
      ∃ value, Alerted reading key spec value ∧
        alertEvent id now reading key spec value = event := by
  cases found : (sensorMap reading).get? key with
  | none => simp [alertFor, Alerted, found]
  | some value =>
      simp only [alertFor, Alerted, AessMasked, ContextuallyAccepted, found, Bool.and_eq_true,
        List.contains_iff_mem, beq_iff_eq, decide_eq_true_eq, Bool.not_eq_true',
        Option.ite_none_left_eq_some, Option.some.injEq, Bool.not_eq_false]
      constructor
      · rintro ⟨masked, accepted, violated, rfl⟩
        exact ⟨value, ⟨rfl, masked, accepted, violated⟩, rfl⟩
      · rintro ⟨value', ⟨rfl, masked, accepted, violated⟩, rfl⟩
        exact ⟨masked, accepted, violated, rfl⟩

theorem alertFor_isSome {id : UUID} {now : Datetime} {reading : TelemetryReading}
    {key : SensorType} {spec : SensorSpec} :
    (alertFor id now reading key spec).isSome ↔ ∃ value, Alerted reading key spec value := by
  rw [Option.isSome_iff_exists]
  simp only [alertFor_eq_some]
  constructor
  · rintro ⟨_, value, alerted, -⟩
    exact ⟨value, alerted⟩
  · rintro ⟨value, alerted⟩
    exact ⟨_, value, alerted, rfl⟩

/-- The event up to its stamps does not depend on them. -/
theorem alertFor_unstamped (id id' : UUID) (now now' : Datetime) (reading : TelemetryReading)
    (key : SensorType) (spec : SensorSpec) :
    (alertFor id now reading key spec).map unstamped =
      (alertFor id' now' reading key spec).map unstamped := by
  cases found : (sensorMap reading).get? key with
  | none => simp [alertFor, found]
  | some value =>
      simp only [alertFor, found]
      split_ifs <;> rfl

theorem alertLoop_unstamped (stamps stamps' : AlertStamps) (reading : TelemetryReading)
    (specs : List (SensorType × SensorSpec)) (drawn drawn' : Nat) :
    (alertLoop stamps reading drawn specs).map unstamped =
      (alertLoop stamps' reading drawn' specs).map unstamped := by
  induction specs generalizing drawn drawn' with
  | nil => rfl
  | cons e rest ih =>
      obtain ⟨key, spec⟩ := e
      have same := alertFor_unstamped (stamps.id drawn) (stamps'.id drawn') stamps.now stamps'.now
        reading key spec
      simp only [alertLoop]
      cases left : alertFor (stamps.id drawn) stamps.now reading key spec with
      | none =>
          have right : alertFor (stamps'.id drawn') stamps'.now reading key spec = none := by
            simpa [left, eq_comm] using same
          simpa only [right] using ih drawn drawn'
      | some event =>
          rw [left, Option.map_some, eq_comm, Option.map_eq_some_iff] at same
          obtain ⟨event', right, agree⟩ := same
          simp only [right, List.map_cons, agree, ih (drawn + 1) (drawn' + 1)]

/-- Two evaluations of one reading differ at most in ids and clock readings. -/
theorem evaluateAlerts_unstamped (stamps stamps' : AlertStamps) (reading : TelemetryReading) :
    (evaluateAlerts stamps reading).map unstamped =
      (evaluateAlerts stamps' reading).map unstamped :=
  alertLoop_unstamped stamps stamps' reading _ 0 0

/-- The sensors a walk over `specs` alerts, in the order of the walk. -/
theorem alertLoop_sensorTypes (stamps : AlertStamps) (reading : TelemetryReading)
    (specs : List (SensorType × SensorSpec)) (drawn : Nat) (id : UUID) (now : Datetime) :
    (alertLoop stamps reading drawn specs).map (·.sensorType) =
      (specs.filter fun e => (alertFor id now reading e.1 e.2).isSome).map Prod.fst := by
  induction specs generalizing drawn with
  | nil => rfl
  | cons e rest ih =>
      obtain ⟨key, spec⟩ := e
      have same : (alertFor id now reading key spec).isSome =
          (alertFor (stamps.id drawn) stamps.now reading key spec).isSome := by
        rw [Bool.eq_iff_iff, alertFor_isSome, alertFor_isSome]
      simp only [alertLoop]
      cases left : alertFor (stamps.id drawn) stamps.now reading key spec with
      | none => simp [same, left, ih]
      | some event =>
          obtain ⟨value, -, rfl⟩ := alertFor_eq_some.mp left
          simp [same, left, ih, alertEvent]

/-- Every event of a walk is the event of one of the specifications walked over. -/
theorem mem_alertLoop_event {stamps : AlertStamps} {reading : TelemetryReading}
    {specs : List (SensorType × SensorSpec)} {drawn : Nat} {event : AlertEvent}
    (mem : event ∈ alertLoop stamps reading drawn specs) :
    ∃ spec id, (event.sensorType, spec) ∈ specs ∧
      Alerted reading event.sensorType spec event.value ∧
      event = alertEvent id stamps.now reading event.sensorType spec event.value := by
  induction specs generalizing drawn with
  | nil => simp [alertLoop] at mem
  | cons e rest ih =>
      obtain ⟨key, spec⟩ := e
      simp only [alertLoop] at mem
      cases found : alertFor (stamps.id drawn) stamps.now reading key spec with
      | none =>
          obtain ⟨spec', id, mem', facts⟩ := ih (by simpa [found] using mem)
          exact ⟨spec', id, List.mem_cons_of_mem _ mem', facts⟩
      | some event' =>
          rcases List.mem_cons.mp (by simpa [found] using mem) with rfl | later
          · obtain ⟨value, alerted, rfl⟩ := alertFor_eq_some.mp found
            exact ⟨spec, stamps.id drawn, List.mem_cons_self, alerted, rfl⟩
          · obtain ⟨spec', id, mem', facts⟩ := ih later
            exact ⟨spec', id, List.mem_cons_of_mem _ mem', facts⟩

theorem mem_alertLoop {stamps : AlertStamps} {reading : TelemetryReading}
    {specs : List (SensorType × SensorSpec)} {drawn : Nat} {event : AlertEvent}
    (mem : event ∈ alertLoop stamps reading drawn specs) :
    ∃ spec, (event.sensorType, spec) ∈ specs ∧
      Alerted reading event.sensorType spec event.value ∧
      event.severity = severityFromSpec event.value spec := by
  obtain ⟨spec, id, mem', alerted, eq⟩ := mem_alertLoop_event mem
  exact ⟨spec, mem', alerted, congrArg AlertEvent.severity eq⟩

/-- The evaluator alerts a sensor at most once. -/
theorem evaluateAlerts_nodup (stamps : AlertStamps) (reading : TelemetryReading) :
    ((evaluateAlerts stamps reading).map (·.sensorType)).Nodup := by
  rw [evaluateAlerts, alertLoop_sensorTypes stamps reading _ 0 (stamps.id 0) stamps.now]
  exact (List.filter_sublist.map Prod.fst).nodup (locoSpecs reading.locomotiveType).nodup

/-- A sensor is alerted exactly when its specification and its value say so. -/
theorem mem_evaluateAlerts_iff (stamps : AlertStamps) (reading : TelemetryReading)
    (key : SensorType) :
    key ∈ (evaluateAlerts stamps reading).map (·.sensorType) ↔
      ∃ spec value, (locoSpecs reading.locomotiveType).get? key = some spec ∧
        Alerted reading key spec value := by
  rw [evaluateAlerts, alertLoop_sensorTypes stamps reading _ 0 (stamps.id 0) stamps.now]
  simp only [List.mem_map, List.mem_filter, Prod.exists, exists_and_right, exists_eq_right,
    alertFor_isSome, ← Dict.get?_eq_some, exists_and_left]

/-- What an emitted event says about its sensor. -/
theorem evaluateAlerts_event {stamps : AlertStamps} {reading : TelemetryReading}
    {event : AlertEvent} (mem : event ∈ evaluateAlerts stamps reading) :
    ∃ spec, (locoSpecs reading.locomotiveType).get? event.sensorType = some spec ∧
      Alerted reading event.sensorType spec event.value ∧
      event.severity = severityFromSpec event.value spec := by
  obtain ⟨spec, mem', facts⟩ := mem_alertLoop mem
  exact ⟨spec, Dict.get?_eq_some.mpr mem', facts⟩

end LocoTwin.Processor
