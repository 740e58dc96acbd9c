/-
# Shared.Constants -- sensor specifications, gains and thresholds

The tables of `shared/constants.py`.  `locoSpecs` holds, for each locomotive
type, the sensors of its health index in the order of the source; every table is
a dictionary literal, so the order is the iteration order.

What the results below use of the specifications is collected in
`SensorSpec.Wellformed` and checked once against both tables
(`locoSpecs_wellformed`).
-/
import LocoTwin.Lib.Dict
import LocoTwin.Shared.Enums
import LocoTwin.Shared.Python

namespace LocoTwin.Shared

open LocoTwin.Lib

set_option autoImplicit false

/-- Per-sensor configuration of the health index. -/
structure SensorSpec where
  weight : PyFloat
  pNom : PyFloat
  deltaSafe : PyFloat
  pCrit : PyFloat
  thresholdType : ThresholdType := .bidirectional
  k : PyFloat := 2
  isAgingParam : Bool := false
  montsingerRefTemp : PyFloat := 0
  deriving DecidableEq

/-- Distance from the edge of the safe zone to the critical value. -/
def SensorSpec.critRange (spec : SensorSpec) : PyFloat :=
  max (1 / 10 ^ 6) (|spec.pCrit - spec.pNom| - spec.deltaSafe)

/-! ## Specifications of the two locomotive types -/

def brakePipeSpec : SensorSpec :=
  { weight := 40, pNom := 5.1, deltaSafe := 0.2, pCrit := 2, thresholdType := .lowerBound, k := 3 }

def wheelSlipSpec : SensorSpec :=
  { weight := 20, pNom := 0, deltaSafe := 0.05, pCrit := 0.5, thresholdType := .upperBound }

def speedActualSpec : SensorSpec :=
  { weight := 15, pNom := 60, deltaSafe := 60, pCrit := 120, thresholdType := .upperBound }

def dieselRpmSpec : SensorSpec :=
  { weight := 15, pNom := 700, deltaSafe := 200, pCrit := 1050, thresholdType := .upperBound }

def oilPressureSpec : SensorSpec :=
  { weight := 35, pNom := 3.5, deltaSafe := 1, pCrit := 1.5, thresholdType := .lowerBound }

def te33a : Dict SensorType SensorSpec where
  entries :=
    [ (.dieselRpm, dieselRpmSpec),
      (.oilPressure, oilPressureSpec),
      (.coolantTemp,
        { weight := 20, pNom := 82, deltaSafe := 13, pCrit := 95, thresholdType := .upperBound }),
      (.fuelLevel,
        { weight := 10, pNom := 50, deltaSafe := 40, pCrit := 5, thresholdType := .lowerBound,
          k := 1.5 }),
      (.fuelRate,
        { weight := 10, pNom := 80, deltaSafe := 60, pCrit := 200, thresholdType := .upperBound,
          k := 1.5 }),
      (.tractionMotorTemp,
        { weight := 15, pNom := 85, deltaSafe := 45, pCrit := 130, thresholdType := .upperBound }),
      (.crankcasePressure,
        { weight := 40, pNom := 0, deltaSafe := 10, pCrit := 50, thresholdType := .upperBound,
          k := 3 }),
      (.brakePipePressure, brakePipeSpec),
      (.wheelSlipRatio, wheelSlipSpec),
      (.speedActual, speedActualSpec) ]
  nodup := by decide

def kz8a : Dict SensorType SensorSpec where
  entries :=
    [ (.catenaryVoltage, { weight := 25, pNom := 25000, deltaSafe := 4000, pCrit := 19000 }),
      (.pantographCurrent,
        { weight := 15, pNom := 200, deltaSafe := 150, pCrit := 400, thresholdType := .upperBound }),
      (.transformerTemp,
        { weight := 20, pNom := 65, deltaSafe := 15, pCrit := 90, thresholdType := .upperBound,
          isAgingParam := true, montsingerRefTemp := 65 }),
      (.igbtTemp,
        { weight := 30, pNom := 57, deltaSafe := 18, pCrit := 85, thresholdType := .upperBound,
          isAgingParam := true, montsingerRefTemp := 57 }),
      (.recuperationCurrent,
        { weight := 5, pNom := 100, deltaSafe := 100, pCrit := 0, thresholdType := .lowerBound,
          k := 1 }),
      (.dcLinkVoltage, { weight := 20, pNom := 2800, deltaSafe := 300, pCrit := 2000 }),
      (.brakePipePressure, brakePipeSpec),
      (.wheelSlipRatio, wheelSlipSpec),
      (.speedActual, speedActualSpec) ]
  nodup := by decide

/-- `LOCO_SPECS[locomotive_type][sensor_type]` -/
def locoSpecs : LocomotiveType → Dict SensorType SensorSpec
  | .te33a => te33a
  | .kz8a => kz8a

/-! ## Gains, masks, thresholds -/

/-- The explicit entries of `EMA_GAINS`. -/
def emaGains : Dict SensorType PyFloat where
  entries :=
    [ (.coolantTemp, 0.10), (.transformerTemp, 0.10), (.igbtTemp, 0.15),
      (.tractionMotorTemp, 0.10), (.catenaryVoltage, 0.30), (.pantographCurrent, 0.30),
      (.dcLinkVoltage, 0.35), (.wheelSlipRatio, 0.25), (.dieselRpm, 0.25) ]
  nodup := by decide

/-- `EMA_GAINS["__default__"]` -/
def emaGainDefault : PyFloat := 0.20

def aessRpmThreshold : PyFloat := 50

def aessMaskedSensors : List SensorType := [.dieselRpm, .oilPressure]

def hiCategoryNormal : PyFloat := 80

def hiCategoryWarning : PyFloat := 50

def montsingerDegreeStep : PyFloat := 6

def montsingerBaseDamage : PyFloat := 0.001

def telemetryChannel : String := "telemetry:live"

def alertChannel : String := "alerts:live"

def healthChannel : String := "health:live"

/-! ## Tables of the report service and of the analytics fallback -/

def defaultThresholds : Dict SensorType (PyFloat × PyFloat) where
  entries :=
    [ (.dieselRpm, (0, 1050)), (.oilPressure, (1.5, 5)), (.coolantTemp, (70, 95)),
      (.fuelLevel, (5, 100)), (.fuelRate, (10, 200)), (.tractionMotorTemp, (40, 130)),
      (.catenaryVoltage, (19000, 29000)), (.pantographCurrent, (0, 400)),
      (.transformerTemp, (40, 90)), (.igbtTemp, (30, 85)), (.dcLinkVoltage, (2000, 3200)),
      (.speedActual, (0, 120)), (.brakePipePressure, (4, 5.5)), (.wheelSlipRatio, (0, 0.5)),
      (.crankcasePressure, (0, 50)) ]
  nodup := by decide

def healthWeights : Dict SensorType PyFloat where
  entries :=
    [ (.brakePipePressure, 0.40), (.crankcasePressure, 0.40), (.oilPressure, 0.35),
      (.igbtTemp, 0.30), (.catenaryVoltage, 0.25), (.coolantTemp, 0.20), (.transformerTemp, 0.20),
      (.wheelSlipRatio, 0.20), (.dcLinkVoltage, 0.20), (.tractionMotorTemp, 0.15),
      (.dieselRpm, 0.15), (.speedActual, 0.15), (.pantographCurrent, 0.15), (.fuelLevel, 0.10),
      (.fuelRate, 0.10), (.recuperationCurrent, 0.05) ]
  nodup := by decide

/-! ## What the tables guarantee -/

/-- The bounds every specification of the tables obeys.  An aging sensor is
penalised upwards only, and no sensor is matched exactly. -/
structure SensorSpec.Wellformed (spec : SensorSpec) : Prop where
  weight_pos : 0 < spec.weight
  deltaSafe_nonneg : 0 ≤ spec.deltaSafe
  k_pos : 0 < spec.k
  not_exact : spec.thresholdType ≠ .exactMatch
  aging_upper : spec.isAgingParam = true → spec.thresholdType = .upperBound

instance (spec : SensorSpec) : Decidable spec.Wellformed :=
  decidable_of_iff
    (0 < spec.weight ∧ 0 ≤ spec.deltaSafe ∧ 0 < spec.k ∧ spec.thresholdType ≠ .exactMatch ∧
      (spec.isAgingParam = true → spec.thresholdType = .upperBound))
    ⟨fun ⟨a, b, c, d, e⟩ => ⟨a, b, c, d, e⟩, fun ⟨a, b, c, d, e⟩ => ⟨a, b, c, d, e⟩⟩

theorem SensorSpec.critRange_pos (spec : SensorSpec) : 0 < spec.critRange :=
  lt_of_lt_of_le (by norm_num) (le_max_left _ _)

theorem locoSpecs_wellformed (type : LocomotiveType) :
    ∀ e ∈ (locoSpecs type).entries, e.2.Wellformed := by
  cases type <;> decide +kernel

theorem wellformed_of_get? {type : LocomotiveType} {key : SensorType} {spec : SensorSpec}
    (h : (locoSpecs type).get? key = some spec) : spec.Wellformed :=
  locoSpecs_wellformed type _ (Dict.get?_eq_some.mp h)

/-- Only the electric locomotive has sensors that accumulate damage. -/
theorem te33a_not_aging : ∀ e ∈ (locoSpecs .te33a).entries, e.2.isAgingParam = false := by
  decide

theorem emaGain_mem_unit (key : SensorType) :
    0 < emaGains.getD key emaGainDefault ∧ emaGains.getD key emaGainDefault ≤ 1 := by
  cases key <;> decide +kernel

end LocoTwin.Shared
