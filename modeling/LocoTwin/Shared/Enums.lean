/-
# Shared.Enums -- the closed vocabularies of the services

Each `StrEnum` of `shared/enums.py` that the modelled code reads is an inductive
type.  A member of a `StrEnum` is its own string, so `value` is what the code
writes into rows, channels and messages, and comparing members is comparing
those strings (`SensorType.value_injective`).
-/

namespace LocoTwin.Shared

set_option autoImplicit false

inductive LocomotiveType where
  | te33a
  | kz8a
  deriving DecidableEq, Repr

def LocomotiveType.value : LocomotiveType → String
  | .te33a => "TE33A"
  | .kz8a => "KZ8A"

inductive SensorType where
  -- TE33A, diesel
  | dieselRpm
  | oilPressure
  | coolantTemp
  | fuelLevel
  | fuelRate
  | tractionMotorTemp
  | crankcasePressure
  -- KZ8A, electric
  | catenaryVoltage
  | pantographCurrent
  | transformerTemp
  | igbtTemp
  | recuperationCurrent
  | dcLinkVoltage
  -- common
  | speedActual
  | speedTarget
  | brakePipePressure
  | wheelSlipRatio
  deriving DecidableEq, Repr

def SensorType.value : SensorType → String
  | .dieselRpm => "diesel_rpm"
  | .oilPressure => "oil_pressure"
  | .coolantTemp => "coolant_temp"
  | .fuelLevel => "fuel_level"
  | .fuelRate => "fuel_rate"
  | .tractionMotorTemp => "traction_motor_temp"
  | .crankcasePressure => "crankcase_pressure"
  | .catenaryVoltage => "catenary_voltage"
  | .pantographCurrent => "pantograph_current"
  | .transformerTemp => "transformer_temp"
  | .igbtTemp => "igbt_temp"
  | .recuperationCurrent => "recuperation_current"
  | .dcLinkVoltage => "dc_link_voltage"
  | .speedActual => "speed_actual"
  | .speedTarget => "speed_target"
  | .brakePipePressure => "brake_pipe_pressure"
  | .wheelSlipRatio => "wheel_slip_ratio"

theorem SensorType.value_injective : Function.Injective SensorType.value := by
  intro a b h
  cases a <;> cases b <;> first | rfl | (revert h; decide)

/-- How a sensor's limits are read. -/
inductive ThresholdType where
  | bidirectional
  | upperBound
  | lowerBound
  | exactMatch
  deriving DecidableEq, Repr

inductive AlertSeverity where
  | info
  | warning
  | critical
  | emergency
  deriving DecidableEq, Repr

namespace AlertSeverity

def value : AlertSeverity → String
  | .info => "info"
  | .warning => "warning"
  | .critical => "critical"
  | .emergency => "emergency"

/-- The order in which severities escalate. -/
def rank : AlertSeverity → Nat
  | .info => 0
  | .warning => 1
  | .critical => 2
  | .emergency => 3

end AlertSeverity

end LocoTwin.Shared
