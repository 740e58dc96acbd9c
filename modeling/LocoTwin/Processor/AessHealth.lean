/-
# Processor.AessHealth -- the health index of a sleeping engine

The alert evaluator skips engine speed and oil pressure while the engine sleeps;
the health index does not.  `AessExcluded` says that it would make no difference:
score, category and top factors are those of the reading without the two sensors.

Engine speed in sleep range costs nothing, so what remains is the oil pressure.
It goes unseen exactly when five other sensors cost more, which keeps both masked
sensors out of the top five, and its penalty disappears in every rounding
(`aessExcluded_iff`).  A dead oil pump on an otherwise healthy locomotive is seen
(`oilless_not_excluded`).
-/
import LocoTwin.Processor.AlertMirror

namespace LocoTwin.Processor

open LocoTwin.Lib LocoTwin.Shared

set_option autoImplicit false

/-- The index is what it would be without the masked sensors. -/
def AessExcluded (M : PyMath) (now : Datetime) (damage : DamageState)
    (reading : TelemetryReading) : Prop :=
  ∃ health health', (calculateHealth M now damage reading).1 = .ok health ∧
    (calculateHealth M now damage (reading.without aessMaskedSensors)).1 = .ok health' ∧
    health.overallScore = health'.overallScore ∧ health.category = health'.category ∧
    health.topFactors = health'.topFactors

/-! ## When the oil pressure goes unseen -/

/-- The penalties of the diesel locomotive's sensors outside the mask. -/
def unmaskedPenalties (M : PyMath) (reading : TelemetryReading) : List Penalty :=
  (te33a.entries.filter fun e => !aessMaskedSensors.contains e.1).filterMap fun e =>
    ((payloadMap reading).get? e.1).map fun sensor => (penaltyOf M e.1 e.2 sensor 0).1

/-- The base penalty of the oil pressure, nothing when it is not reported. -/
def oilPenalty (M : PyMath) (reading : TelemetryReading) : PyFloat :=
  match (payloadMap reading).get? .oilPressure with
  | none => 0
  | some sensor => (sensorPenalty M sensor.value oilPressureSpec).1

/-- A further penalty `extra` on top of `penalties` changes no rounded result. -/
structure Imperceptible (extra : PyFloat) (penalties : List Penalty) : Prop where
  score : roundTo 2 (clampScore (100 - (extra + (penalties.map Penalty.penalty).sum))) =
    roundTo 2 (clampScore (100 - (penalties.map Penalty.penalty).sum))
  category : hiCategory (clampScore (100 - (extra + (penalties.map Penalty.penalty).sum))) =
    hiCategory (clampScore (100 - (penalties.map Penalty.penalty).sum))
  shares : ∀ p ∈ (ranked Penalty.penalty penalties).take 5,
    roundTo 2 (p.penalty / max (extra + (penalties.map Penalty.penalty).sum) (1 / 10 ^ 6) * 100) =
      roundTo 2 (p.penalty / max (penalties.map Penalty.penalty).sum (1 / 10 ^ 6) * 100)

/-- At least five other sensors cost more than the oil pressure, and its penalty
disappears in the rounding. -/
structure OilUnseen (M : PyMath) (reading : TelemetryReading) : Prop where
  behind : 5 ≤ countAbove Penalty.penalty (oilPenalty M reading) (unmaskedPenalties M reading)
  imperceptible : Imperceptible (oilPenalty M reading) (unmaskedPenalties M reading)

theorem Imperceptible.zero (penalties : List Penalty) : Imperceptible 0 penalties := by
  constructor <;> simp

/-! ## The rows of a sleeping engine -/

/-- Engine speed in sleep range is reported and costs nothing. -/
theorem rpm_free {M : PyMath} (laws : M.PowLaws) {reading : TelemetryReading}
    (asleep : aessActive reading = true) :
    ∃ sensor, (payloadMap reading).get? .dieselRpm = some sensor ∧
      (sensorPenalty M sensor.value dieselRpmSpec).1 = 0 := by
  simp only [aessActive, isAessActive, sensorMap_get?, Bool.and_eq_true] at asleep
  cases found : (payloadMap reading).get? .dieselRpm with
  | none => simp [found] at asleep
  | some sensor =>
      have slow : sensor.value ≤ aessRpmThreshold := by simpa [found] using asleep.2
      have wf : dieselRpmSpec.Wellformed := by decide +kernel
      have safe : ¬ dieselRpmSpec.deltaSafe < rawDeviation sensor.value dieselRpmSpec := by
        have : sensor.value - 700 ≤ 0 := by
          norm_num [aessRpmThreshold] at slow
          linarith
        simp [rawDeviation, dieselRpmSpec, max_eq_left this]
      rw [← sensorPenalty_pos_iff laws _ wf, not_lt] at safe
      exact ⟨sensor, rfl, safe.antisymm (sensorPenalty_nonneg laws _ wf)⟩

/-- The penalties of a call, in the order of the specifications. -/
def dieselPenalties (M : PyMath) (reading : TelemetryReading) : List Penalty :=
  te33a.entries.filterMap fun e =>
    ((payloadMap reading).get? e.1).map fun sensor => (penaltyOf M e.1 e.2 sensor 0).1

/-- The index of a diesel locomotive is a function of its penalties. -/
theorem calculateHealth_diesel (M : PyMath) (now : Datetime) (damage : DamageState)
    {reading : TelemetryReading} (diesel : reading.locomotiveType = .te33a) :
    ∃ health, (calculateHealth M now damage reading).1 = .ok health ∧
      health.overallScore = roundTo 2 (clampScore
        (100 - ((dieselPenalties M reading).map Penalty.penalty).sum)) ∧
      health.category = hiCategory (clampScore
        (100 - ((dieselPenalties M reading).map Penalty.penalty).sum)) ∧
      health.topFactors = ((ranked Penalty.penalty (dieselPenalties M reading)).take 5).map
        (topFactor (max ((dieselPenalties M reading).map Penalty.penalty).sum (1 / 10 ^ 6))) := by
  have rows := penaltyLoop_of_not_aging M (UUID.str reading.locomotiveId) (payloadMap reading)
    damage te33a_not_aging
  have penalties : ((locoSpecs .te33a).entries.filterMap fun e =>
      ((payloadMap reading).get? e.1).map fun sensor => penaltyOf M e.1 e.2 sensor 0).map Prod.fst
      = dieselPenalties M reading := by
    rw [List.map_filterMap]
    simp only [Option.map_map]
    rfl
  have total := ((ranked_perm Penalty.penalty (dieselPenalties M reading)).map
    Penalty.penalty).sum_eq
  have ok : (calculateHealth M now damage reading).1 = .ok (healthOf now reading
      ((locoSpecs .te33a).entries.filterMap fun e =>
        ((payloadMap reading).get? e.1).map fun sensor => penaltyOf M e.1 e.2 sensor 0)) := by
    simp only [calculateHealth, diesel, rows, Except.map]
  refine ⟨_, ok, ?_⟩
  simp only [healthOf, penalties, total, and_self]

/-- Without the masked sensors the unmasked penalties are left. -/
theorem dieselPenalties_without (M : PyMath) (reading : TelemetryReading) :
    dieselPenalties M (reading.without aessMaskedSensors) = unmaskedPenalties M reading := by
  have payload : ∀ key, (payloadMap (reading.without aessMaskedSensors)).get? key =
      if !aessMaskedSensors.contains key then (payloadMap reading).get? key else none := by
    intro key
    rw [payloadMap, payloadMap, ← Dict.get?_ofPairs_filter (fun k => !aessMaskedSensors.contains k),
      List.filter_map]
    rfl
  rw [dieselPenalties, unmaskedPenalties, List.filterMap_filter]
  congr 1
  funext e
  rw [payload]
  split <;> rfl

/-- With them, the free engine speed and the oil pressure come first. -/
theorem dieselPenalties_asleep {M : PyMath} {reading : TelemetryReading} {rpm : SensorPayload}
    (found : (payloadMap reading).get? .dieselRpm = some rpm) :
    dieselPenalties M reading = (penaltyOf M .dieselRpm dieselRpmSpec rpm 0).1 ::
      ((((payloadMap reading).get? .oilPressure).map fun sensor =>
        (penaltyOf M .oilPressure oilPressureSpec sensor 0).1).toList ++
        unmaskedPenalties M reading) := by
  have front : te33a.entries = (.dieselRpm, dieselRpmSpec) :: (.oilPressure, oilPressureSpec) ::
      te33a.entries.filter fun e => !aessMaskedSensors.contains e.1 := rfl
  rw [dieselPenalties, front, unmaskedPenalties]
  cases oil : (payloadMap reading).get? .oilPressure <;> simp [found, oil]

/-! ## The exact condition -/

/-- A masked sensor's row names a masked sensor; an unmasked one's does not. -/
theorem unmasked_of_mem {M : PyMath} {reading : TelemetryReading} {p : Penalty}
    (mem : p ∈ unmaskedPenalties M reading) : p.sensorKey ∉ aessMaskedSensors := by
  obtain ⟨e, listed, row⟩ := List.mem_filterMap.mp mem
  obtain ⟨sensor, -, rfl⟩ := Option.map_eq_some_iff.mp row
  simpa [penaltyOf] using (List.mem_filter.mp listed).2

/-- The first five of a sleeping engine's penalties are those of the other sensors
when five of them cost more than the oil pressure; else a masked one is among them. -/
theorem take_asleep {M : PyMath} (laws : M.PowLaws) {reading : TelemetryReading}
    {rpm : SensorPayload} (found : (payloadMap reading).get? .dieselRpm = some rpm)
    (free : (sensorPenalty M rpm.value dieselRpmSpec).1 = 0) :
    if 5 ≤ countAbove Penalty.penalty (oilPenalty M reading) (unmaskedPenalties M reading) then
      (ranked Penalty.penalty (dieselPenalties M reading)).take 5 =
        (ranked Penalty.penalty (unmaskedPenalties M reading)).take 5
    else ∃ p ∈ (ranked Penalty.penalty (dieselPenalties M reading)).take 5,
      p.sensorKey ∈ aessMaskedSensors := by
  have nothing : (penaltyOf M .dieselRpm dieselRpmSpec rpm 0).1.penalty = 0 := by
    simp [penaltyOf, free]
  rw [dieselPenalties_asleep found]
  cases oil : (payloadMap reading).get? .oilPressure with
  | none =>
      have none : oilPenalty M reading = 0 := by simp [oilPenalty, oil]
      simp only [none, Option.map_none, Option.toList_none, List.nil_append]
      split_ifs with behind
      · exact take_ranked_cons _ (by rwa [nothing])
      · exact ⟨_, mem_take_ranked_cons _ (by decide) (by rwa [nothing]), by simp [penaltyOf,
          aessMaskedSensors]⟩
  | some sensor =>
      have cost : (penaltyOf M .oilPressure oilPressureSpec sensor 0).1.penalty =
          oilPenalty M reading := by simp [penaltyOf, oilPenalty, oil]
      have nonneg : 0 ≤ oilPenalty M reading := by
        simp only [oilPenalty, oil]
        exact sensorPenalty_nonneg laws _ (by decide +kernel)
      simp only [Option.map_some, Option.toList_some, List.singleton_append]
      set rest := unmaskedPenalties M reading
      set oilRow := (penaltyOf M .oilPressure oilPressureSpec sensor 0).1
      set rpmRow := (penaltyOf M .dieselRpm dieselRpmSpec rpm 0).1
      split_ifs with behind
      · have behind' : 5 ≤ countAbove Penalty.penalty rpmRow.penalty (oilRow :: rest) := by
          rw [nothing, countAbove_cons]
          exact (behind.trans (countAbove_anti _ nonneg rest)).trans (Nat.le_add_right _ _)
        rw [take_ranked_cons _ behind', take_ranked_cons _ (by rwa [cost])]
      · by_cases first : 5 ≤ countAbove Penalty.penalty rpmRow.penalty (oilRow :: rest)
        · -- engine speed is pushed out of the top five, the oil pressure is in it
          rw [take_ranked_cons _ first]
          exact ⟨oilRow, mem_take_ranked_cons _ (by decide) (by rwa [cost]), by
            simp [oilRow, penaltyOf, aessMaskedSensors]⟩
        · exact ⟨rpmRow, mem_take_ranked_cons _ (by decide) first, by
            simp [rpmRow, penaltyOf, aessMaskedSensors]⟩

/-- The two sensors add the oil pressure's penalty to the total. -/
theorem total_asleep {M : PyMath} {reading : TelemetryReading} {rpm : SensorPayload}
    (found : (payloadMap reading).get? .dieselRpm = some rpm)
    (free : (sensorPenalty M rpm.value dieselRpmSpec).1 = 0) :
    ((dieselPenalties M reading).map Penalty.penalty).sum =
      oilPenalty M reading + ((unmaskedPenalties M reading).map Penalty.penalty).sum := by
  rw [dieselPenalties_asleep found]
  cases oil : (payloadMap reading).get? .oilPressure <;> simp [oilPenalty, oil, penaltyOf, free]

/-- **When the sleeping engine is excluded.**  The index is that of the reading
without the two masked sensors exactly when five other sensors cost more than the
oil pressure and its penalty disappears in the rounding. -/
theorem aessExcluded_iff {M : PyMath} (laws : M.PowLaws) (now : Datetime) (damage : DamageState)
    {reading : TelemetryReading} (asleep : aessActive reading = true) :
    AessExcluded M now damage reading ↔ OilUnseen M reading := by
  have diesel : reading.locomotiveType = .te33a := by
    simp only [aessActive, Bool.and_eq_true, beq_iff_eq] at asleep
    exact asleep.1
  obtain ⟨rpm, found, free⟩ := rpm_free laws asleep
  obtain ⟨health, ok, score, category, factors⟩ := calculateHealth_diesel M now damage diesel
  have diesel' : (reading.without aessMaskedSensors).locomotiveType = .te33a := diesel
  obtain ⟨health', ok', score', category', factors'⟩ := calculateHealth_diesel M now damage diesel'
  rw [dieselPenalties_without] at score' category' factors'
  rw [total_asleep found free] at score category factors
  have top := take_asleep laws found free
  have same : AessExcluded M now damage reading ↔
      health.overallScore = health'.overallScore ∧ health.category = health'.category ∧
        health.topFactors = health'.topFactors := by
    simp only [AessExcluded, ok, ok', Except.ok.injEq]
    constructor
    · rintro ⟨_, _, rfl, rfl, facts⟩
      exact facts
    · intro facts
      exact ⟨_, _, rfl, rfl, facts⟩
  rw [same]
  by_cases behind :
      5 ≤ countAbove Penalty.penalty (oilPenalty M reading) (unmaskedPenalties M reading)
  · rw [if_pos behind] at top
    rw [score, score', category, category', factors, factors', top, List.map_inj_left]
    have share : ∀ (p : Penalty) (base base' : PyFloat),
        topFactor base p = topFactor base' p ↔
          roundTo 2 (p.penalty / base * 100) = roundTo 2 (p.penalty / base' * 100) := by
      intro p base base'
      simp [topFactor]
    simp only [share]
    constructor
    · rintro ⟨score, category, factors⟩
      exact ⟨behind, score, category, factors⟩
    · rintro ⟨-, score, category, factors⟩
      exact ⟨score, category, factors⟩
  · rw [if_neg behind] at top
    obtain ⟨p, mem, masked⟩ := top
    constructor
    · rintro ⟨-, -, wrong⟩
      have named : (topFactor (max (oilPenalty M reading +
          ((unmaskedPenalties M reading).map Penalty.penalty).sum) (1 / 10 ^ 6)) p) ∈
          health'.topFactors := by
        rw [← wrong, factors]
        exact List.mem_map_of_mem mem
      rw [factors'] at named
      obtain ⟨q, memq, same⟩ := List.mem_map.mp named
      have key : q.sensorKey = p.sensorKey := congrArg HealthFactor.sensorType same
      have unmasked := unmasked_of_mem ((mem_ranked _).mp (List.mem_of_mem_take memq))
      exact absurd (key ▸ masked) unmasked
    · intro unseen
      exact absurd unseen.behind behind

/-- A sleeping engine with oil pressure in its safe zone and five failed sensors. -/
def fiveFailed : TelemetryReading where
  locomotiveId := 7
  locomotiveType := .te33a
  timestamp := 0
  sensors := [⟨.dieselRpm, 0, "rpm"⟩, ⟨.oilPressure, 3, "bar"⟩, ⟨.coolantTemp, 120, "°C"⟩,
    ⟨.tractionMotorTemp, 200, "°C"⟩, ⟨.crankcasePressure, 60, "mbar"⟩,
    ⟨.brakePipePressure, 2, "kgf/cm²"⟩, ⟨.wheelSlipRatio, 1, "%"⟩]

theorem aessExcluded_fiveFailed : AessExcluded .onIntegers 0 Dict.empty fiveFailed := by
  have free : oilPenalty .onIntegers fiveFailed = 0 := by decide +kernel
  have behind : 5 ≤ countAbove Penalty.penalty (oilPenalty .onIntegers fiveFailed)
      (unmaskedPenalties .onIntegers fiveFailed) := by decide +kernel
  exact (aessExcluded_iff PyMath.onIntegers_powLaws 0 Dict.empty (by decide +kernel)).mpr
    ⟨behind, free ▸ Imperceptible.zero _⟩

/-- A sleeping engine without oil pressure, everything else nominal. -/
def oilless : TelemetryReading where
  locomotiveId := 7
  locomotiveType := .te33a
  timestamp := 0
  sensors := [⟨.dieselRpm, 0, "rpm"⟩, ⟨.oilPressure, 0, "bar"⟩, ⟨.coolantTemp, 82, "°C"⟩]

/-- The masked oil pressure costs the locomotive 35 points. -/
theorem oilless_not_excluded :
    aessActive oilless = true ∧ ¬ AessExcluded .onIntegers 0 Dict.empty oilless := by
  refine ⟨by decide +kernel, ?_⟩
  rintro ⟨health, health', ok, ok', score, -, -⟩
  have seen : (calculateHealth .onIntegers 0 Dict.empty oilless).1.map (·.overallScore) =
      .ok 65 := by decide +kernel
  have unseen : (calculateHealth .onIntegers 0 Dict.empty
      (oilless.without aessMaskedSensors)).1.map (·.overallScore) = .ok 100 := by decide +kernel
  rw [ok] at seen
  rw [ok'] at unseen
  simp only [Except.map, Except.ok.injEq] at seen unseen
  rw [seen, unseen] at score
  exact absurd score (by norm_num)

end LocoTwin.Processor
