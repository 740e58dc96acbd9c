/-
# Simulator.Generators -- the sensors of a tick

After a locomotive has moved, the generator of its type makes its readings from the state, a
few slow quantities of its own (`Internals`), and noise.  The random numbers behind the noise
of a sensor are a `Noise`.

* `generateSensors_nodup`, `generateSensors_complete`: a reading has every sensor of its
  type's specification, and none twice;
* `generateSensors_brake`, `generateSensors_igbt`: the two sensors whose value a scenario
  sets.
-/
import LocoTwin.Processor.IngestionService
import LocoTwin.Simulator.LocomotiveState

namespace LocoTwin.Simulator

open LocoTwin.Lib LocoTwin.Shared LocoTwin.Processor

set_option autoImplicit false

/-! ## Noise -/

/-- The random numbers of one call of `add_noise`. -/
structure Noise where
  /-- `random.gauss(mu, sigma)`, the first call and the one of a spike. -/
  gauss : PyFloat → PyFloat → PyFloat
  spike : PyFloat → PyFloat → PyFloat
  /-- `random.random()` -/
  random : PyFloat

def addNoise (noise : Noise) (value nominal : PyFloat) : PyFloat :=
  let value := value + if nominal ≠ 0 then noise.gauss 0 (nominal * 0.005) else noise.gauss 0 0.01
  if noise.random < 0.001 then
    value + if nominal ≠ 0 then noise.spike 0 (nominal * 0.05) else noise.spike 0 0.1
  else value

/-- Noise is added to the value, whatever the value is. -/
theorem addNoise_eq (noise : Noise) (value nominal : PyFloat) :
    addNoise noise value nominal = value + addNoise noise 0 nominal := by
  unfold addNoise
  dsimp only
  split <;> ring

/-! ## The generators -/

/-- The fields of a locomotive that only the generators touch. -/
structure Internals where
  fuelLevel : PyFloat := 90
  coolantTemp : PyFloat := 72
  tractionMotorTemp : PyFloat := 40
  igbtTemp : PyFloat := 35
  transformerTemp : PyFloat := 45

section

variable (M : PyMath) (noise : SensorType → Noise) (s : LocomotiveState) (t : Internals)

/-- A payload whose value is read with noise. -/
def sense (sensorType : SensorType) (value nominal : PyFloat) (unit : String) : SensorPayload :=
  ⟨sensorType, addNoise (noise sensorType) value nominal, unit⟩

def brake : PyFloat := s.brakeOverride.getD 5.1

def commonSensors : List SensorPayload :=
  [ sense noise .speedActual s.speed 60 "km/h",
    sense noise .speedTarget (s.speed + 5) 60 "km/h",
    sense noise .brakePipePressure (brake s) 5.1 "bar",
    sense noise .wheelSlipRatio 0 0 "ratio" ]

/-- The branch of `generate_te33a` for an engine that AESS has shut down. -/
def sleepingTe33a : List SensorPayload × Internals :=
  let t := { t with
    coolantTemp := t.coolantTemp + (35 - t.coolantTemp) * 0.01
    tractionMotorTemp := t.tractionMotorTemp + (30 - t.tractionMotorTemp) * 0.01 }
  ([ sense noise .dieselRpm 0 300 "RPM",
      sense noise .oilPressure 0 3.5 "bar",
      ⟨.fuelRate, 0, "L/h"⟩,
      sense noise .coolantTemp t.coolantTemp 82 "C",
      sense noise .tractionMotorTemp t.tractionMotorTemp 85 "C" ], t)

/-- The other branch. -/
def runningTe33a : List SensorPayload × Internals :=
  let n : PyFloat := s.notch
  let dieselRpm := 300 + n * 93.75
  let fuelRate := 15 + M.pow (n / 8) 1.5 * 165
  let oilPressure := 1.5 + dieselRpm / 1050 * 3
  let coolantTarget := 72 + n * 2.5
  let motorTarget := 40 + n / 8 * 70
  let t := { t with
    coolantTemp := t.coolantTemp + (coolantTarget - t.coolantTemp) * 0.05
    tractionMotorTemp := t.tractionMotorTemp + (motorTarget - t.tractionMotorTemp) * 0.03
    fuelLevel := max 0 (t.fuelLevel - fuelRate / 3600) }
  ([ sense noise .dieselRpm dieselRpm 700 "RPM",
      sense noise .oilPressure oilPressure 3.5 "bar",
      sense noise .coolantTemp t.coolantTemp 82 "C",
      sense noise .fuelRate fuelRate 80 "L/h",
      sense noise .tractionMotorTemp t.tractionMotorTemp 85 "C" ], t)

def generateTe33a : List SensorPayload × Internals :=
  let (sensors, t) :=
    if s.mode = .aessSleep then sleepingTe33a noise t else runningTe33a M noise s t
  (sensors ++
    [ sense noise .fuelLevel t.fuelLevel 50 "%",
      sense noise .crankcasePressure 2 0 "mbar" ] ++ commonSensors noise s, t)

def pantographCurrent : PyFloat := 50 + s.speed / 120 * 300

/-- `state.igbt_temp` after the generator: the override, or a step towards the target. -/
def nextIgbtTemp : PyFloat :=
  match s.igbtOverride with
  | some temp => temp
  | none => t.igbtTemp + (35 + pantographCurrent s / 400 * 40 - t.igbtTemp) * 0.05

def generateKz8a : List SensorPayload × Internals :=
  let catenaryVoltage := 25000 - pantographCurrent s * 8
  let transformerTarget := 45 + pantographCurrent s / 400 * 35
  let t := { t with
    igbtTemp := nextIgbtTemp s t
    transformerTemp := t.transformerTemp + (transformerTarget - t.transformerTemp) * 0.03 }
  let dcLink := 2800
  let recuperation :=
    if s.mode = .arrival ∧ 20 < s.speed then (120 - s.speed) / 120 * 200 else 0
  ([ sense noise .catenaryVoltage catenaryVoltage 25000 "V",
      sense noise .pantographCurrent (pantographCurrent s) 200 "A",
      sense noise .igbtTemp t.igbtTemp 57 "C",
      sense noise .transformerTemp t.transformerTemp 65 "C",
      sense noise .dcLinkVoltage dcLink 2800 "V",
      sense noise .recuperationCurrent recuperation 100 "A" ] ++ commonSensors noise s, t)

/-- `_generate_sensors` -/
def generateSensors : List SensorPayload × Internals :=
  match s.locoType with
  | .te33a => generateTe33a M noise s t
  | .kz8a => generateKz8a noise s t

end

/-! ## What a reading consists of -/

section

variable (M : PyMath) (noise : SensorType → Noise) {s : LocomotiveState} (t : Internals)

theorem sensorTypes_te33a (type : s.locoType = .te33a) :
    (generateSensors M noise s t).1.map (·.sensorType) =
      (if s.mode = .aessSleep then
        [.dieselRpm, .oilPressure, .fuelRate, .coolantTemp, .tractionMotorTemp]
      else [.dieselRpm, .oilPressure, .coolantTemp, .fuelRate, .tractionMotorTemp]) ++
        [.fuelLevel, .crankcasePressure, .speedActual, .speedTarget, .brakePipePressure,
          .wheelSlipRatio] := by
  by_cases asleep : s.mode = .aessSleep
  · simp [generateSensors, type, generateTe33a, asleep, sleepingTe33a, commonSensors, sense]
  · simp [generateSensors, type, generateTe33a, asleep, runningTe33a, commonSensors, sense]

theorem sensorTypes_kz8a (type : s.locoType = .kz8a) :
    (generateSensors M noise s t).1.map (·.sensorType) =
      [.catenaryVoltage, .pantographCurrent, .igbtTemp, .transformerTemp, .dcLinkVoltage,
        .recuperationCurrent, .speedActual, .speedTarget, .brakePipePressure,
        .wheelSlipRatio] := by
  simp [generateSensors, type, generateKz8a, commonSensors, sense]

variable (s)

/-- No sensor is reported twice. -/
theorem generateSensors_nodup :
    ((generateSensors M noise s t).1.map (·.sensorType)).Nodup := by
  cases type : s.locoType with
  | te33a =>
      rw [sensorTypes_te33a M noise t type]
      split <;> decide
  | kz8a =>
      rw [sensorTypes_kz8a M noise t type]
      decide

/-- Every sensor that counts for the health index of the type is reported. -/
theorem generateSensors_complete :
    ∀ key ∈ (locoSpecs s.locoType).keys,
      key ∈ (generateSensors M noise s t).1.map (·.sensorType) := by
  cases type : s.locoType with
  | te33a =>
      rw [sensorTypes_te33a M noise t type]
      split <;> decide
  | kz8a =>
      rw [sensorTypes_kz8a M noise t type]
      decide

theorem brake_mem :
    sense noise .brakePipePressure (brake s) 5.1 "bar" ∈ (generateSensors M noise s t).1 := by
  unfold generateSensors
  cases s.locoType with
  | te33a =>
      apply List.mem_append_right
      simp [commonSensors]
  | kz8a =>
      apply List.mem_append_right
      simp [commonSensors]

/-- A sensor that is reported once has one raw value. -/
theorem rawValues_of_mem {sensors : List SensorPayload} {payload : SensorPayload}
    (once : (sensors.map (·.sensorType)).Nodup) (mem : payload ∈ sensors) :
    rawValues payload.sensorType sensors = [payload.value] := by
  obtain ⟨before, after, rfl⟩ := List.append_of_mem mem
  rw [List.map_append, List.map_cons, List.nodup_append, List.nodup_cons] at once
  obtain ⟨-, ⟨absentAfter, -⟩, apart⟩ := once
  have none (l : List SensorPayload) (absent : payload.sensorType ∉ l.map (·.sensorType)) :
      l.filter (fun s => s.sensorType == payload.sensorType) = [] := by
    rw [List.filter_eq_nil_iff]
    intro other mem own
    apply absent
    rw [← beq_iff_eq.mp own]
    exact List.mem_map_of_mem mem
  have absentBefore : payload.sensorType ∉ before.map (·.sensorType) := by
    intro mem
    exact apart _ mem _ List.mem_cons_self rfl
  unfold rawValues
  rw [List.filter_append, none before absentBefore, List.filter_cons_of_pos (by simp),
    none after absentAfter]
  rfl

/-- The brake pipe pressure of a reading. -/
theorem generateSensors_brake :
    rawValues .brakePipePressure (generateSensors M noise s t).1 =
      [addNoise (noise .brakePipePressure) (brake s) 5.1] :=
  rawValues_of_mem (generateSensors_nodup M noise s t) (brake_mem M noise s t)

variable {s}

/-- The IGBT temperature of a reading, which is the one the generator leaves. -/
theorem generateSensors_igbt (type : s.locoType = .kz8a) :
    rawValues .igbtTemp (generateSensors M noise s t).1 =
        [addNoise (noise .igbtTemp) (nextIgbtTemp s t) 57] ∧
      (generateSensors M noise s t).2.igbtTemp = nextIgbtTemp s t := by
  have mem : sense noise .igbtTemp (nextIgbtTemp s t) 57 "C" ∈
      (generateSensors M noise s t).1 := by
    simp [generateSensors, type, generateKz8a]
  refine ⟨rawValues_of_mem (generateSensors_nodup M noise s t) mem, ?_⟩
  simp [generateSensors, type, generateKz8a]

/-- A diesel locomotive has no IGBT modules. -/
theorem generateSensors_noIgbt (type : s.locoType = .te33a) :
    rawValues .igbtTemp (generateSensors M noise s t).1 = [] ∧
      (generateSensors M noise s t).2.igbtTemp = t.igbtTemp := by
  have absent : SensorType.igbtTemp ∉ (generateSensors M noise s t).1.map (·.sensorType) := by
    rw [sensorTypes_te33a M noise t type]
    split <;> decide
  constructor
  · rw [rawValues, List.map_eq_nil_iff, List.filter_eq_nil_iff]
    intro payload mem own
    apply absent
    rw [← beq_iff_eq.mp own]
    exact List.mem_map_of_mem mem
  · by_cases asleep : s.mode = .aessSleep
    · simp [generateSensors, type, generateTe33a, asleep, sleepingTe33a]
    · simp [generateSensors, type, generateTe33a, asleep, runningTe33a]

end

/-- The modules are never colder than the room, whatever the load. -/
theorem nextIgbtTemp_ge {s : LocomotiveState} {t : Internals} (speed : 0 ≤ s.speed)
    (warm : 35 ≤ t.igbtTemp) (override : ∀ temp, s.igbtOverride = some temp → 35 ≤ temp) :
    35 ≤ nextIgbtTemp s t := by
  unfold nextIgbtTemp
  split
  case h_1 temp found => exact override temp found
  case h_2 =>
    have current : 0 ≤ pantographCurrent s := by
      unfold pantographCurrent
      positivity
    -- a step of a twentieth of the way towards something at least as warm
    have target : 0 ≤ pantographCurrent s / 400 * 40 := by positivity
    linarith

end LocoTwin.Simulator
