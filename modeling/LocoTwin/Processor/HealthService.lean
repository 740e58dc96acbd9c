/-
# Processor.HealthService -- the real-time health index

`HI = 100 − Σ W · (max(0, |P − P_nom| − δ_safe) / R)^k`, clamped to `[0, 100]`.
Aging sensors add the damage accumulated in `_damage_state` to their penalty, and
every call above the reference temperature adds to that damage.

`penaltyFor` is the body of the loop over the specifications, `penaltyLoop` the
loop.  A raised power aborts the call, and the damage of the sensors visited
before it stays.  `healthOf` is everything after the loop: it reads no state.

* `penaltyFor_fst`, `penaltyFor_snd`: what the body of the loop returns and writes
  is a function of the damage its own sensor had before;
* `penaltyLoop_restrict`, `penaltyLoop_frame`: a call reads and writes the damage
  of its own locomotive only.
-/
import LocoTwin.Lib.Ranking
import LocoTwin.Lib.Rounding
import LocoTwin.Processor.FilterService
import LocoTwin.Shared.Schemas

namespace LocoTwin.Processor

open LocoTwin.Lib LocoTwin.Shared

set_option autoImplicit false

/-- `_damage_state` -/
abbrev DamageState := Dict Key PyFloat

/-- Unsigned deviation from nominal, respecting threshold direction. -/
def rawDeviation (value : PyFloat) (spec : SensorSpec) : PyFloat :=
  match spec.thresholdType with
  | .bidirectional => |value - spec.pNom|
  | .upperBound => max 0 (value - spec.pNom)
  | .lowerBound => max 0 (spec.pNom - value)
  | .exactMatch => if isclose value spec.pNom (1 / 10 ^ 6) then 0 else |spec.critRange|

/-- `min(1.0, exceedance / spec.crit_range)` -/
def normalizedExceedance (value : PyFloat) (spec : SensorSpec) : PyFloat :=
  let dev := rawDeviation value spec
  let exceedance := max 0 (dev - spec.deltaSafe)
  min 1 (exceedance / spec.critRange)

/-- `(penalty, deviation_pct)` -/
def sensorPenalty (M : PyMath) (value : PyFloat) (spec : SensorSpec) : PyFloat × PyFloat :=
  let normalized := normalizedExceedance value spec
  let penalty := spec.weight * M.pow normalized spec.k
  (penalty, normalized * 100)

/-- Apply the Montsinger increment; the total damage of the sensor, or the error
the power raised. -/
def updateDamage (M : PyMath) (state : DamageState) (locoId : String) (sensorType : SensorType)
    (value : PyFloat) (spec : SensorSpec) : Except PyError PyFloat × DamageState :=
  let ref := spec.montsingerRefTemp
  let key := (locoId, sensorType)
  if value ≤ ref then (.ok (state.getD key 0), state)
  else
    match M.exp2 ((value - ref) / montsingerDegreeStep) with
    | .error e => (.error e, state)
    | .ok agingRate =>
        let increment := (agingRate - 1) * montsingerBaseDamage
        let total := state.getD key 0 + increment
        (.ok total, state.set key total)

/-- `(sensor_key, penalty, dev_pct, value, unit)` -/
structure Penalty where
  sensorKey : SensorType
  penalty : PyFloat
  devPct : PyFloat
  value : PyFloat
  unit : String
  deriving DecidableEq

/-- `{s.sensor_type.value: s for s in reading.sensors}` -/
def payloadMap (reading : TelemetryReading) : Dict SensorType SensorPayload :=
  Dict.ofPairs (reading.sensors.map fun s => (s.sensorType, s))

/-! ## The loop over the specifications -/

/-- The row of a present sensor, and the damage in its penalty. -/
def penaltyOf (M : PyMath) (key : SensorType) (spec : SensorSpec) (sensor : SensorPayload)
    (damage : PyFloat) : Penalty × PyFloat :=
  let (penalty, devPct) := sensorPenalty M sensor.value spec
  ({ sensorKey := key, penalty := penalty + damage, devPct := devPct, value := sensor.value,
     unit := sensor.unit }, damage)

/-- The body of the loop. -/
def penaltyFor (M : PyMath) (locoId : String) (sensors : Dict SensorType SensorPayload)
    (state : DamageState) (key : SensorType) (spec : SensorSpec) :
    Except PyError (Option (Penalty × PyFloat)) × DamageState :=
  match sensors.get? key with
  | none => (.ok none, state)
  | some sensor =>
      if spec.isAgingParam then
        let (damage, state) := updateDamage M state locoId key sensor.value spec
        (damage.map fun damage => some (penaltyOf M key spec sensor damage), state)
      else (.ok (some (penaltyOf M key spec sensor 0)), state)

def penaltyLoop (M : PyMath) (locoId : String) (sensors : Dict SensorType SensorPayload) :
    DamageState → List (SensorType × SensorSpec) →
      Except PyError (List (Penalty × PyFloat)) × DamageState
  | state, [] => (.ok [], state)
  | state, (key, spec) :: rest =>
      match penaltyFor M locoId sensors state key spec with
      | (.error e, state) => (.error e, state)
      | (.ok row, state) =>
          let (rows, state) := penaltyLoop M locoId sensors state rest
          (rows.map (row.toList ++ ·), state)

/-! ## The index -/

def clampScore (raw : PyFloat) : PyFloat := max 0 (min 100 raw)

def hiCategory (score : PyFloat) : String :=
  if hiCategoryNormal ≤ score then "Норма"
  else if hiCategoryWarning ≤ score then "Внимание"
  else "Критично"

def topFactor (contributionBase : PyFloat) (p : Penalty) : HealthFactor :=
  { sensorType := p.sensorKey
    value := p.value
    unit := p.unit
    penalty := roundTo 4 p.penalty
    contributionPct := roundTo 2 (p.penalty / contributionBase * 100)
    deviationPct := roundTo 2 p.devPct }

/-- The index computed from the rows of the loop. -/
def healthOf (now : Datetime) (reading : TelemetryReading) (rows : List (Penalty × PyFloat)) :
    HealthIndex :=
  let penalties := ranked Penalty.penalty (rows.map Prod.fst)
  let totalDamage := (rows.map Prod.snd).sum
  let totalPenalty := (penalties.map Penalty.penalty).sum
  let score := clampScore (100 - totalPenalty)
  let contributionBase := max totalPenalty (1 / 10 ^ 6)
  { locomotiveId := reading.locomotiveId
    locomotiveType := reading.locomotiveType
    overallScore := roundTo 2 score
    category := hiCategory score
    topFactors := (penalties.take 5).map (topFactor contributionBase)
    damagePenalty := roundTo 6 totalDamage
    calculatedAt := now }

/-- Ranking the penalties does not change their total. -/
theorem sum_penalties (rows : List (Penalty × PyFloat)) :
    ((ranked Penalty.penalty (rows.map Prod.fst)).map Penalty.penalty).sum =
      (rows.map fun r => r.1.penalty).sum := by
  rw [((ranked_perm Penalty.penalty (rows.map Prod.fst)).map Penalty.penalty).sum_eq,
    List.map_map]
  rfl

def calculateHealth (M : PyMath) (now : Datetime) (state : DamageState)
    (reading : TelemetryReading) : Except PyError HealthIndex × DamageState :=
  let locoId := UUID.str reading.locomotiveId
  let specs := locoSpecs reading.locomotiveType
  let (rows, state) := penaltyLoop M locoId (payloadMap reading) state specs.entries
  (rows.map (healthOf now reading), state)

/-! ## One sensor -/

theorem normalizedExceedance_nonneg (value : PyFloat) (spec : SensorSpec) :
    0 ≤ normalizedExceedance value spec :=
  le_min zero_le_one (div_nonneg (le_max_left _ _) spec.critRange_pos.le)

theorem normalizedExceedance_le_one (value : PyFloat) (spec : SensorSpec) :
    normalizedExceedance value spec ≤ 1 :=
  min_le_left _ _

/-- A sensor is penalised exactly when it has left the safe zone. -/
theorem sensorPenalty_pos_iff {M : PyMath} (laws : M.PowLaws) (value : PyFloat)
    {spec : SensorSpec} (wf : spec.Wellformed) :
    0 < (sensorPenalty M value spec).1 ↔ spec.deltaSafe < rawDeviation value spec := by
  have pos : 0 < normalizedExceedance value spec ↔ spec.deltaSafe < rawDeviation value spec := by
    simp only [normalizedExceedance, lt_min_iff, zero_lt_one, true_and,
      div_pos_iff_of_pos_right spec.critRange_pos, lt_max_iff, lt_self_iff_false, false_or,
      sub_pos]
  simp only [sensorPenalty, mul_pos_iff_of_pos_left wf.weight_pos]
  rw [laws.pos_iff wf.k_pos (normalizedExceedance_nonneg _ _) (normalizedExceedance_le_one _ _),
    pos]

theorem sensorPenalty_nonneg {M : PyMath} (laws : M.PowLaws) (value : PyFloat)
    {spec : SensorSpec} (wf : spec.Wellformed) : 0 ≤ (sensorPenalty M value spec).1 :=
  mul_nonneg wf.weight_pos.le
    (laws.nonneg wf.k_pos (normalizedExceedance_nonneg _ _) (normalizedExceedance_le_one _ _))

/-- A larger deviation is not penalised less. -/
theorem normalizedExceedance_mono {value value' : PyFloat} (spec : SensorSpec)
    (farther : rawDeviation value spec ≤ rawDeviation value' spec) :
    normalizedExceedance value spec ≤ normalizedExceedance value' spec :=
  min_le_min_left _ (div_le_div_of_nonneg_right (max_le_max_left _ (by linarith))
    spec.critRange_pos.le)

theorem sensorPenalty_mono {M : PyMath} (laws : M.PowLaws) {value value' : PyFloat}
    {spec : SensorSpec} (wf : spec.Wellformed)
    (farther : rawDeviation value spec ≤ rawDeviation value' spec) :
    (sensorPenalty M value spec).1 ≤ (sensorPenalty M value' spec).1 :=
  mul_le_mul_of_nonneg_left
    (laws.mono wf.k_pos (normalizedExceedance_nonneg _ _) (normalizedExceedance_le_one _ _)
      (normalizedExceedance_mono spec farther)) wf.weight_pos.le

/-! ## Damage -/

/-- The damage of a sensor after a call, from its damage before. -/
def damageAfter (M : PyMath) (before value : PyFloat) (spec : SensorSpec) :
    Except PyError PyFloat :=
  if value ≤ spec.montsingerRefTemp then .ok before
  else
    (M.exp2 ((value - spec.montsingerRefTemp) / montsingerDegreeStep)).map fun agingRate =>
      before + (agingRate - 1) * montsingerBaseDamage

theorem updateDamage_fst (M : PyMath) (state : DamageState) (locoId : String)
    (key : SensorType) (value : PyFloat) (spec : SensorSpec) :
    (updateDamage M state locoId key value spec).1 =
      damageAfter M (state.getD (locoId, key) 0) value spec := by
  by_cases cool : value ≤ spec.montsingerRefTemp
  · simp [updateDamage, damageAfter, cool]
  · cases rate : M.exp2 ((value - spec.montsingerRefTemp) / montsingerDegreeStep) <;>
      simp [updateDamage, damageAfter, cool, rate, Except.map]

/-- The call writes the damage it returns under its own key, or nothing. -/
theorem updateDamage_snd (M : PyMath) (state : DamageState) (locoId : String)
    (key : SensorType) (value : PyFloat) (spec : SensorSpec) :
    (updateDamage M state locoId key value spec).2 =
      if value ≤ spec.montsingerRefTemp then state
      else match damageAfter M (state.getD (locoId, key) 0) value spec with
        | .error _ => state
        | .ok damage => state.set (locoId, key) damage := by
  by_cases cool : value ≤ spec.montsingerRefTemp
  · simp [updateDamage, cool]
  · cases rate : M.exp2 ((value - spec.montsingerRefTemp) / montsingerDegreeStep) <;>
      simp [updateDamage, damageAfter, cool, rate, Except.map]

/-- After the call the sensor has the damage returned, and nothing else changed. -/
theorem getD_updateDamage {M : PyMath} {state : DamageState} {locoId : String}
    {key : SensorType} {value damage : PyFloat} {spec : SensorSpec}
    (ok : damageAfter M (state.getD (locoId, key) 0) value spec = .ok damage) (k : Key) :
    (updateDamage M state locoId key value spec).2.getD k 0 =
      if k = (locoId, key) then damage else state.getD k 0 := by
  rw [updateDamage_snd]
  by_cases cool : value ≤ spec.montsingerRefTemp
  · have kept : state.getD (locoId, key) 0 = damage := by simpa [damageAfter, cool] using ok
    by_cases here : k = (locoId, key)
    · simp [cool, here, kept]
    · simp [cool, here]
  · simp only [if_neg cool, ok, Dict.getD_set]

/-- Damage only grows. -/
theorem le_damageAfter {M : PyMath} (laws : M.Exp2Grows) {before value damage : PyFloat}
    {spec : SensorSpec} (ok : damageAfter M before value spec = .ok damage) : before ≤ damage := by
  unfold damageAfter at ok
  split_ifs at ok with cool
  · simp only [Except.ok.injEq] at ok
    exact ok.le
  · cases hrate : M.exp2 ((value - spec.montsingerRefTemp) / montsingerDegreeStep) with
    | error e => simp [hrate, Except.map] at ok
    | ok rate =>
        simp only [hrate, Except.map, Except.ok.injEq] at ok
        have warm : 0 ≤ (value - spec.montsingerRefTemp) / montsingerDegreeStep :=
          div_nonneg (by linarith) (by norm_num [montsingerDegreeStep])
        have fast : 1 ≤ rate := laws.one_le _ _ warm hrate
        have step : (0 : PyFloat) < montsingerBaseDamage := by norm_num [montsingerBaseDamage]
        nlinarith

/-- More damage before, and a hotter sensor, leave more damage after. -/
theorem damageAfter_mono {M : PyMath} (laws : M.Exp2Laws) (spec : SensorSpec)
    {before before' value value' : PyFloat} (more : before ≤ before') (hotter : value ≤ value') :
    ∃ damage damage', damageAfter M before value spec = .ok damage ∧
      damageAfter M before' value' spec = .ok damage' ∧ damage ≤ damage' := by
  obtain ⟨rate, hrate⟩ := laws.total ((value - spec.montsingerRefTemp) / montsingerDegreeStep)
  obtain ⟨rate', hrate'⟩ := laws.total ((value' - spec.montsingerRefTemp) / montsingerDegreeStep)
  by_cases cool : value ≤ spec.montsingerRefTemp
  · have ok : damageAfter M before value spec = .ok before := by simp [damageAfter, cool]
    by_cases cool' : value' ≤ spec.montsingerRefTemp
    · exact ⟨before, before', ok, by simp [damageAfter, cool'], more⟩
    · have ok' : damageAfter M before' value' spec =
          .ok (before' + (rate' - 1) * montsingerBaseDamage) := by
        simp [damageAfter, cool', hrate', Except.map]
      exact ⟨before, _, ok, ok', more.trans (le_damageAfter laws.grows ok')⟩
  · have hot' : ¬ value' ≤ spec.montsingerRefTemp := by linarith
    have step : (0 : PyFloat) < montsingerBaseDamage := by norm_num [montsingerBaseDamage]
    have faster : rate ≤ rate' :=
      laws.mono _ _ _ _ (div_le_div_of_nonneg_right (by linarith)
        (by norm_num [montsingerDegreeStep])) hrate hrate'
    have ok : damageAfter M before value spec =
        .ok (before + (rate - 1) * montsingerBaseDamage) := by
      simp only [damageAfter, if_neg cool, hrate, Except.map]
    have ok' : damageAfter M before' value' spec =
        .ok (before' + (rate' - 1) * montsingerBaseDamage) := by
      simp only [damageAfter, if_neg hot', hrate', Except.map]
    exact ⟨_, _, ok, ok', by nlinarith⟩

/-! ## What the loop reads and writes -/

/-- The row of one sensor whose damage before the call is `before`. -/
def rowFor (M : PyMath) (before : PyFloat) (sensors : Dict SensorType SensorPayload)
    (key : SensorType) (spec : SensorSpec) : Except PyError (Option (Penalty × PyFloat)) :=
  match sensors.get? key with
  | none => .ok none
  | some sensor =>
      if spec.isAgingParam then
        (damageAfter M before sensor.value spec).map fun damage =>
          some (penaltyOf M key spec sensor damage)
      else .ok (some (penaltyOf M key spec sensor 0))

theorem penaltyFor_fst (M : PyMath) (locoId : String) (sensors : Dict SensorType SensorPayload)
    (state : DamageState) (key : SensorType) (spec : SensorSpec) :
    (penaltyFor M locoId sensors state key spec).1 =
      rowFor M (state.getD (locoId, key) 0) sensors key spec := by
  unfold penaltyFor rowFor
  cases sensors.get? key with
  | none => rfl
  | some sensor =>
      split_ifs with aging
      · simp only [updateDamage_fst]
      · rfl

/-- The body of the loop leaves the damage as it was, or writes one value that the
damage of its own key and the sensor's value decide. -/
theorem penaltyFor_snd (M : PyMath) (locoId : String) (sensors : Dict SensorType SensorPayload)
    (key : SensorType) (spec : SensorSpec) (before : PyFloat) :
    (∀ state : DamageState, state.getD (locoId, key) 0 = before →
      (penaltyFor M locoId sensors state key spec).2 = state) ∨
    ∃ sensor damage, sensors.get? key = some sensor ∧ spec.isAgingParam = true ∧
      damageAfter M before sensor.value spec = .ok damage ∧
      ∀ state : DamageState, state.getD (locoId, key) 0 = before →
        (penaltyFor M locoId sensors state key spec).2 = state.set (locoId, key) damage := by
  unfold penaltyFor
  cases found : sensors.get? key with
  | none => exact .inl fun _ _ => rfl
  | some sensor =>
      by_cases aging : spec.isAgingParam = true
      · simp only [if_pos aging, updateDamage_snd]
        by_cases cool : sensor.value ≤ spec.montsingerRefTemp
        · exact .inl fun _ _ => if_pos cool
        · simp only [if_neg cool]
          cases after : damageAfter M before sensor.value spec with
          | error e => exact .inl fun state same => by rw [same, after]
          | ok damage =>
              exact .inr ⟨sensor, damage, rfl, aging, after, fun state same => by
                rw [same, after]⟩
      · exact .inl fun _ _ => by simp only [if_neg aging]

theorem getD_restrict {p : Key → Bool} {key : Key} (own : p key = true) (state : DamageState) :
    (state.restrict p).getD key 0 = state.getD key 0 := by
  simp [Dict.getD, own]

/-- A call reads only the damage of its own locomotive, and its writes there are a
function of what it reads. -/
theorem penaltyLoop_restrict (M : PyMath) {p : Key → Bool} {locoId : String}
    (own : ∀ key, p (locoId, key) = true) (sensors : Dict SensorType SensorPayload)
    (specs : List (SensorType × SensorSpec)) {state state' : DamageState}
    (same : state.restrict p = state'.restrict p) :
    (penaltyLoop M locoId sensors state specs).1 = (penaltyLoop M locoId sensors state' specs).1 ∧
      (penaltyLoop M locoId sensors state specs).2.restrict p =
        (penaltyLoop M locoId sensors state' specs).2.restrict p := by
  induction specs generalizing state state' with
  | nil => exact ⟨rfl, same⟩
  | cons e rest ih =>
      obtain ⟨key, spec⟩ := e
      have read : state.getD (locoId, key) 0 = state'.getD (locoId, key) 0 := by
        rw [← getD_restrict (own key) state, same, getD_restrict (own key) state']
      have row : (penaltyFor M locoId sensors state key spec).1 =
          (penaltyFor M locoId sensors state' key spec).1 := by
        rw [penaltyFor_fst, penaltyFor_fst, read]
      have next : (penaltyFor M locoId sensors state key spec).2.restrict p =
          (penaltyFor M locoId sensors state' key spec).2.restrict p := by
        rcases penaltyFor_snd M locoId sensors key spec (state.getD (locoId, key) 0) with
          kept | ⟨_, damage, _, _, _, wrote⟩
        · rw [kept state rfl, kept state' read.symm, same]
        · rw [wrote state rfl, wrote state' read.symm, Dict.restrict_set p _ (own key),
            Dict.restrict_set p _ (own key), same]
      simp only [penaltyLoop]
      rcases left : penaltyFor M locoId sensors state key spec with ⟨out, after⟩
      rcases right : penaltyFor M locoId sensors state' key spec with ⟨out', after'⟩
      simp only [left, right] at row next
      subst row
      cases out with
      | error e => exact ⟨rfl, next⟩
      | ok row =>
          obtain ⟨rows, last⟩ := ih next
          exact ⟨congrArg (Except.map _) rows, last⟩

/-- A call leaves the damage of every other locomotive alone. -/
theorem penaltyLoop_frame (M : PyMath) {p : Key → Bool} {locoId : String}
    (other : ∀ key, p (locoId, key) = false) (sensors : Dict SensorType SensorPayload)
    (specs : List (SensorType × SensorSpec)) (state : DamageState) :
    (penaltyLoop M locoId sensors state specs).2.restrict p = state.restrict p := by
  induction specs generalizing state with
  | nil => rfl
  | cons e rest ih =>
      obtain ⟨key, spec⟩ := e
      have next : (penaltyFor M locoId sensors state key spec).2.restrict p =
          state.restrict p := by
        rcases penaltyFor_snd M locoId sensors key spec (state.getD (locoId, key) 0) with
          kept | ⟨_, damage, _, _, _, wrote⟩
        · rw [kept state rfl]
        · rw [wrote state rfl, Dict.restrict_set_of_not p _ (other key)]
      simp only [penaltyLoop]
      rcases found : penaltyFor M locoId sensors state key spec with ⟨out, after⟩
      rw [found] at next
      cases out with
      | error e => exact next
      | ok row => exact (ih after).trans next

/-- Without aging sensors there is no damage to read or to write. -/
theorem penaltyLoop_of_not_aging (M : PyMath) (locoId : String)
    (sensors : Dict SensorType SensorPayload) (state : DamageState)
    {specs : List (SensorType × SensorSpec)} (young : ∀ e ∈ specs, e.2.isAgingParam = false) :
    penaltyLoop M locoId sensors state specs =
      (.ok (specs.filterMap fun e => (sensors.get? e.1).map fun sensor =>
        penaltyOf M e.1 e.2 sensor 0), state) := by
  induction specs with
  | nil => rfl
  | cons e rest ih =>
      obtain ⟨key, spec⟩ := e
      have young' : spec.isAgingParam = false := young _ List.mem_cons_self
      have tail := ih fun e mem => young e (List.mem_cons_of_mem _ mem)
      cases found : sensors.get? key with
      | none => simp [penaltyLoop, penaltyFor, found, tail, Except.map]
      | some sensor => simp [penaltyLoop, penaltyFor, found, young', tail, Except.map]

/-- The loop raises where the power of an aging sensor does. -/
theorem penaltyLoop_error {M : PyMath} {locoId : String} {sensors : Dict SensorType SensorPayload}
    {specs : List (SensorType × SensorSpec)} {state : DamageState} {exc : PyError}
    (raised : (penaltyLoop M locoId sensors state specs).1 = .error exc) :
    ∃ e ∈ specs, ∃ sensor, sensors.get? e.1 = some sensor ∧ e.2.isAgingParam = true ∧
      M.exp2 ((sensor.value - e.2.montsingerRefTemp) / montsingerDegreeStep) = .error exc := by
  induction specs generalizing state with
  | nil => simp [penaltyLoop] at raised
  | cons e rest ih =>
      obtain ⟨key, spec⟩ := e
      simp only [penaltyLoop] at raised
      have row := penaltyFor_fst M locoId sensors state key spec
      rcases stepped : penaltyFor M locoId sensors state key spec with ⟨out, after⟩
      rw [stepped] at row
      simp only [stepped] at raised
      cases out with
      | ok found =>
          rcases looped : penaltyLoop M locoId sensors after rest with ⟨rows, last⟩
          cases rows with
          | ok rows => simp [looped, Except.map] at raised
          | error exc' =>
              have later : (penaltyLoop M locoId sensors after rest).1 = .error exc := by
                simpa [looped, Except.map] using raised
              obtain ⟨e, mem, facts⟩ := ih later
              exact ⟨e, List.mem_cons_of_mem _ mem, facts⟩
      | error exc' =>
          obtain rfl : exc' = exc := by simpa using raised
          refine ⟨(key, spec), List.mem_cons_self, ?_⟩
          unfold rowFor at row
          cases present : sensors.get? key with
          | none => simp [present] at row
          | some sensor =>
              by_cases aging : spec.isAgingParam = true
              · refine ⟨sensor, rfl, aging, ?_⟩
                simp only [present, if_pos aging, damageAfter] at row
                split_ifs at row with cool
                · simp [Except.map] at row
                · cases rate : M.exp2 ((sensor.value - spec.montsingerRefTemp) /
                      montsingerDegreeStep) with
                  | ok y => simp [rate, Except.map] at row
                  | error exc => simpa [rate, Except.map, eq_comm] using row
              · simp [present, aging] at row

end LocoTwin.Processor
