/-
# Processor.HealthFloats -- the health index in floats

The functions of `HealthService` with every operation and every literal rounded in an
arithmetic `F`.  The penalties are added up worst first, as `sum` does it for floats: with
what the roundings have lost added in the end.

* `calculateHealth_exact`: where nothing is rounded they are the functions of `HealthService`;
* `penaltyLoop_losses`: the penalties of a call are a function of the damage before it;
* `calculateHealth_score`: score and category of a call come from its `readingLoss`.
-/
import LocoTwin.Lib.FloatArith
import LocoTwin.Processor.HealthService

namespace LocoTwin.Processor.Floats

open LocoTwin.Lib LocoTwin.Shared

set_option autoImplicit false

section

variable (F : FloatArith)

/-- A specification with the floats its literals denote. -/
def literals (spec : SensorSpec) : SensorSpec :=
  { spec with
    weight := F.round spec.weight
    pNom := F.round spec.pNom
    deltaSafe := F.round spec.deltaSafe
    pCrit := F.round spec.pCrit
    k := F.round spec.k
    montsingerRefTemp := F.round spec.montsingerRefTemp }

def critRange (spec : SensorSpec) : PyFloat :=
  max (F.round (1 / 10 ^ 6)) (F.sub |F.sub spec.pCrit spec.pNom| spec.deltaSafe)

/-- `math.isclose(a, b, abs_tol=abs_tol)` -/
def isclose (a b absTol : PyFloat) : Bool :=
  let diff := |F.sub b a|
  let relTol := F.round (1 / 10 ^ 9)
  decide (a = b ∨ diff ≤ |F.mul relTol b| ∨ diff ≤ |F.mul relTol a| ∨ diff ≤ absTol)

def rawDeviation (value : PyFloat) (spec : SensorSpec) : PyFloat :=
  match spec.thresholdType with
  | .bidirectional => |F.sub value spec.pNom|
  | .upperBound => max 0 (F.sub value spec.pNom)
  | .lowerBound => max 0 (F.sub spec.pNom value)
  | .exactMatch =>
      if isclose F value spec.pNom (F.round (1 / 10 ^ 6)) then 0 else |critRange F spec|

def normalizedExceedance (value : PyFloat) (spec : SensorSpec) : PyFloat :=
  let dev := rawDeviation F value spec
  let exceedance := max 0 (F.sub dev spec.deltaSafe)
  min 1 (F.div exceedance (critRange F spec))

/-- `(penalty, deviation_pct)`; `M` has the powers of floats. -/
def sensorPenalty (M : PyMath) (value : PyFloat) (spec : SensorSpec) : PyFloat × PyFloat :=
  let normalized := normalizedExceedance F value spec
  let penalty := F.mul spec.weight (M.pow normalized spec.k)
  (penalty, F.mul normalized 100)

def updateDamage (M : PyMath) (state : DamageState) (locoId : String) (sensorType : SensorType)
    (value : PyFloat) (spec : SensorSpec) : Except PyError PyFloat × DamageState :=
  let ref := spec.montsingerRefTemp
  let key := (locoId, sensorType)
  if value ≤ ref then (.ok (state.getD key 0), state)
  else
    match M.exp2 (F.div (F.sub value ref) montsingerDegreeStep) with
    | .error e => (.error e, state)
    | .ok agingRate =>
        let increment := F.mul (F.sub agingRate 1) (F.round montsingerBaseDamage)
        let total := F.add (state.getD key 0) increment
        (.ok total, state.set key total)

/-- The body of the loop; a sensor that does not age has no damage to add. -/
def penaltyFor (M : PyMath) (locoId : String) (sensors : Dict SensorType SensorPayload)
    (state : DamageState) (key : SensorType) (spec : SensorSpec) :
    Except PyError (Option (Penalty × PyFloat)) × DamageState :=
  match sensors.get? key with
  | none => (.ok none, state)
  | some sensor =>
      let (penalty, devPct) := sensorPenalty F M sensor.value spec
      let row := fun (penalty damage : PyFloat) =>
        (({ sensorKey := key, penalty := penalty, devPct := devPct, value := sensor.value,
            unit := sensor.unit } : Penalty), damage)
      if spec.isAgingParam then
        let (damage, state) := updateDamage F M state locoId key sensor.value spec
        (damage.map fun damage => some (row (F.add penalty damage) damage), state)
      else (.ok (some (row penalty 0)), state)

def penaltyLoop (M : PyMath) (locoId : String) (sensors : Dict SensorType SensorPayload) :
    DamageState → List (SensorType × SensorSpec) →
      Except PyError (List (Penalty × PyFloat)) × DamageState
  | state, [] => (.ok [], state)
  | state, (key, spec) :: rest =>
      match penaltyFor F M locoId sensors state key spec with
      | (.error e, state) => (.error e, state)
      | (.ok row, state) =>
          let (rows, state) := penaltyLoop M locoId sensors state rest
          (rows.map (row.toList ++ ·), state)

def topFactor (contributionBase : PyFloat) (p : Penalty) : HealthFactor :=
  { sensorType := p.sensorKey
    value := p.value
    unit := p.unit
    penalty := F.roundTo 4 p.penalty
    contributionPct := F.roundTo 2 (F.mul (F.div p.penalty contributionBase) 100)
    deviationPct := F.roundTo 2 p.devPct }

def healthOf (now : Datetime) (reading : TelemetryReading) (rows : List (Penalty × PyFloat)) :
    HealthIndex :=
  let penalties := ranked Penalty.penalty (rows.map Prod.fst)
  let totalDamage := F.sum (rows.map Prod.snd)
  let totalPenalty := F.neumaier (penalties.map Penalty.penalty)
  let score := clampScore (F.sub 100 totalPenalty)
  let contributionBase := max totalPenalty (F.round (1 / 10 ^ 6))
  { locomotiveId := reading.locomotiveId
    locomotiveType := reading.locomotiveType
    overallScore := F.roundTo 2 score
    category := hiCategory score
    topFactors := (penalties.take 5).map (topFactor F contributionBase)
    damagePenalty := F.roundTo 6 totalDamage
    calculatedAt := now }

/-- `LOCO_SPECS[locomotive_type]` -/
def specsOf (type : LocomotiveType) : List (SensorType × SensorSpec) :=
  (locoSpecs type).entries.map fun e => (e.1, literals F e.2)

def calculateHealth (M : PyMath) (now : Datetime) (state : DamageState)
    (reading : TelemetryReading) : Except PyError HealthIndex × DamageState :=
  let locoId := UUID.str reading.locomotiveId
  let (rows, state) := penaltyLoop F M locoId (payloadMap reading) state
    (specsOf F reading.locomotiveType)
  (rows.map (healthOf F now reading), state)

end

/-! ## Exact arithmetic -/

theorem isclose_exact (a b absTol : PyFloat) :
    isclose .exact a b absTol = Shared.isclose a b absTol := by
  have rel (x : PyFloat) : |1 / 10 ^ 9 * x| = 1 / 10 ^ 9 * |x| := by
    rw [abs_mul, abs_of_pos (by norm_num)]
  have close : |b - a| ≤ 1 / 10 ^ 9 * max |a| |b| ↔
      |b - a| ≤ 1 / 10 ^ 9 * |b| ∨ |b - a| ≤ 1 / 10 ^ 9 * |a| := by
    rw [mul_max_of_nonneg _ _ (by norm_num), le_max_iff, or_comm]
  have same : a = b → |b - a| ≤ 1 / 10 ^ 9 * |b| := by
    rintro rfl
    rw [sub_self, abs_zero]
    positivity
  simp only [isclose, Shared.isclose, FloatArith.exact_sub, FloatArith.exact_mul,
    FloatArith.exact_round, rel, abs_sub_comm a b, le_max_iff, close]
  rw [decide_eq_decide]
  tauto

theorem rawDeviation_exact (value : PyFloat) (spec : SensorSpec) :
    rawDeviation .exact value spec = Processor.rawDeviation value spec := by
  unfold rawDeviation Processor.rawDeviation
  cases spec.thresholdType with
  | exactMatch =>
      simp only [isclose_exact]
      rfl
  | _ => rfl

theorem sensorPenalty_exact (M : PyMath) (value : PyFloat) (spec : SensorSpec) :
    sensorPenalty .exact M value spec = Processor.sensorPenalty M value spec := by
  unfold sensorPenalty normalizedExceedance
  rw [rawDeviation_exact]
  rfl

theorem penaltyFor_exact (M : PyMath) (locoId : String) (sensors : Dict SensorType SensorPayload)
    (state : DamageState) (key : SensorType) (spec : SensorSpec) :
    penaltyFor .exact M locoId sensors state key spec =
      Processor.penaltyFor M locoId sensors state key spec := by
  unfold penaltyFor Processor.penaltyFor
  cases sensors.get? key with
  | none => rfl
  | some sensor =>
      simp only [sensorPenalty_exact]
      split_ifs
      · rfl
      · simp [penaltyOf]

theorem penaltyLoop_exact (M : PyMath) (locoId : String) (sensors : Dict SensorType SensorPayload)
    (state : DamageState) (specs : List (SensorType × SensorSpec)) :
    penaltyLoop .exact M locoId sensors state specs =
      Processor.penaltyLoop M locoId sensors state specs := by
  induction specs generalizing state with
  | nil => rfl
  | cons e rest ih =>
      rcases row : Processor.penaltyFor M locoId sensors state e.1 e.2 with ⟨_ | _, _⟩ <;>
        simp [penaltyLoop, Processor.penaltyLoop, penaltyFor_exact, ih, row]

theorem healthOf_exact (now : Datetime) (reading : TelemetryReading)
    (rows : List (Penalty × PyFloat)) :
    healthOf .exact now reading rows = Processor.healthOf now reading rows := by
  simp only [healthOf, FloatArith.exact_sum, FloatArith.exact_neumaier]
  rfl

/-- **Where nothing is rounded this is the index of `HealthService`.** -/
theorem calculateHealth_exact (M : PyMath) (now : Datetime) (state : DamageState)
    (reading : TelemetryReading) :
    calculateHealth .exact M now state reading =
      Processor.calculateHealth M now state reading := by
  have specs : specsOf .exact reading.locomotiveType =
      (locoSpecs reading.locomotiveType).entries := List.map_id _
  have index : healthOf .exact now reading = Processor.healthOf now reading :=
    funext (healthOf_exact now reading)
  simp only [calculateHealth, Processor.calculateHealth, specs, penaltyLoop_exact, index]

/-! ## The loss of a reading -/

section

variable (F : FloatArith) (M : PyMath)

/-- The damage of a sensor after a call, from its damage before. -/
def damageAfter (before value : PyFloat) (spec : SensorSpec) : Except PyError PyFloat :=
  if value ≤ spec.montsingerRefTemp then .ok before
  else
    (M.exp2 (F.div (F.sub value spec.montsingerRefTemp) montsingerDegreeStep)).map fun agingRate =>
      F.add before (F.mul (F.sub agingRate 1) (F.round montsingerBaseDamage))

/-- What a specification costs: nothing without its sensor, else the penalty, with the damage
an aging sensor has after the call. -/
def specLoss (before : PyFloat) (sensor : Option SensorPayload) (spec : SensorSpec) :
    Except PyError (List PyFloat) :=
  match sensor with
  | none => .ok []
  | some s =>
      let penalty := (sensorPenalty F M s.value spec).1
      if spec.isAgingParam then
        (damageAfter F M before s.value spec).map fun damage => [F.add penalty damage]
      else .ok [penalty]

/-- What the sensors present cost, in the order of the specifications, or the first error. -/
def losses (before : SensorType → PyFloat) (sensors : Dict SensorType SensorPayload) :
    List (SensorType × SensorSpec) → Except PyError (List PyFloat)
  | [] => .ok []
  | (key, spec) :: rest =>
      (specLoss F M (before key) (sensors.get? key) spec).bind fun here =>
        (losses before sensors rest).map (here ++ ·)

/-- The compensated sum of what the sensors of a reading cost, from the largest on. -/
def readingLoss (damage : DamageState) (reading : TelemetryReading) : Except PyError PyFloat :=
  (losses F M (fun key => damage.getD (UUID.str reading.locomotiveId, key) 0) (payloadMap reading)
    (specsOf F reading.locomotiveType)).map fun xs => F.neumaier (ranked id xs)

end

section

variable {F : FloatArith} {M : PyMath} {locoId : String}
  {sensors : Dict SensorType SensorPayload}

theorem updateDamage_fst (state : DamageState) (key : SensorType) (value : PyFloat)
    (spec : SensorSpec) :
    (updateDamage F M state locoId key value spec).1 =
      damageAfter F M (state.getD (locoId, key) 0) value spec := by
  unfold updateDamage damageAfter
  dsimp only
  split_ifs with cool
  · rfl
  · cases M.exp2 (F.div (F.sub value spec.montsingerRefTemp) montsingerDegreeStep) <;> rfl

theorem updateDamage_other (state : DamageState) (key : SensorType) (value : PyFloat)
    (spec : SensorSpec) {k : Key} (other : k ≠ (locoId, key)) :
    (updateDamage F M state locoId key value spec).2.getD k 0 = state.getD k 0 := by
  unfold updateDamage
  dsimp only
  split_ifs with cool
  · rfl
  · cases M.exp2 (F.div (F.sub value spec.montsingerRefTemp) montsingerDegreeStep) with
    | error e => rfl
    | ok rate => rw [Dict.getD_set, if_neg other]

/-- The penalty of a row is what its sensor costs. -/
theorem penaltyFor_loss (state : DamageState) (key : SensorType) (spec : SensorSpec) :
    (penaltyFor F M locoId sensors state key spec).1.map
        (fun row => row.toList.map (·.1.penalty)) =
      specLoss F M (state.getD (locoId, key) 0) (sensors.get? key) spec := by
  unfold penaltyFor specLoss
  cases sensors.get? key with
  | none => rfl
  | some sensor =>
      dsimp only
      split_ifs
      · simp only [updateDamage_fst]
        cases damageAfter F M (state.getD (locoId, key) 0) sensor.value spec <;> rfl
      · rfl

theorem penaltyFor_other (state : DamageState) (key : SensorType) (spec : SensorSpec) {k : Key}
    (other : k ≠ (locoId, key)) :
    (penaltyFor F M locoId sensors state key spec).2.getD k 0 = state.getD k 0 := by
  unfold penaltyFor
  cases sensors.get? key with
  | none => rfl
  | some sensor =>
      dsimp only
      split_ifs
      · exact updateDamage_other state key sensor.value spec other
      · rfl

/-- Each sensor is read once, so the loop finds the damage that was there before it. -/
theorem penaltyLoop_losses {specs : List (SensorType × SensorSpec)}
    (distinct : (specs.map Prod.fst).Nodup) {state : DamageState} {before : SensorType → PyFloat}
    (had : ∀ e ∈ specs, state.getD (locoId, e.1) 0 = before e.1) :
    (penaltyLoop F M locoId sensors state specs).1.map (fun rows => rows.map (·.1.penalty)) =
      losses F M before sensors specs := by
  induction specs generalizing state with
  | nil => rfl
  | cons e rest ih =>
      obtain ⟨key, spec⟩ := e
      obtain ⟨absent, distinct⟩ := List.nodup_cons.mp distinct
      have row := @penaltyFor_loss F M locoId sensors state key spec
      have rest' : ∀ e ∈ rest, (penaltyFor F M locoId sensors state key spec).2.getD
          (locoId, e.1) 0 = before e.1 := by
        intro e mem
        have other : (locoId, e.1) ≠ (locoId, key) := by
          intro same
          exact absent (List.mem_map.mpr ⟨e, mem, (Prod.mk.inj same).2⟩)
        rw [penaltyFor_other state key spec other]
        exact had e (List.mem_cons_of_mem _ mem)
      have tail := ih distinct rest'
      rw [had _ List.mem_cons_self] at row
      simp only [penaltyLoop, losses]
      rw [← row, ← tail]
      rcases penaltyFor F M locoId sensors state key spec with ⟨_ | found, after⟩
      · rfl
      · dsimp only
        rcases penaltyLoop F M locoId sensors after rest with ⟨_ | rows, last⟩
        · rfl
        · simp [Except.map, Except.bind]

theorem specsOf_nodup (F : FloatArith) (type : LocomotiveType) :
    ((specsOf F type).map Prod.fst).Nodup := by
  have keys : (specsOf F type).map Prod.fst = (locoSpecs type).entries.map Prod.fst := by
    simp [specsOf]
  rw [keys]
  exact (locoSpecs type).nodup

/-- **Score and category of a call come from what its reading costs.** -/
theorem calculateHealth_score (F : FloatArith) (M : PyMath) (now : Datetime)
    (damage : DamageState) (reading : TelemetryReading) :
    (calculateHealth F M now damage reading).1.map (fun health =>
        (health.overallScore, health.category)) =
      (readingLoss F M damage reading).map (fun loss =>
        (F.roundTo 2 (clampScore (F.sub 100 loss)), hiCategory (clampScore (F.sub 100 loss)))) := by
  have loop : (penaltyLoop F M (UUID.str reading.locomotiveId) (payloadMap reading) damage
      (specsOf F reading.locomotiveType)).1.map (fun rows => rows.map (·.1.penalty)) =
      losses F M (fun key => damage.getD (UUID.str reading.locomotiveId, key) 0)
        (payloadMap reading) (specsOf F reading.locomotiveType) :=
    penaltyLoop_losses (specsOf_nodup F reading.locomotiveType) fun _ _ => rfl
  simp only [calculateHealth, readingLoss, ← loop]
  cases (penaltyLoop F M (UUID.str reading.locomotiveId) (payloadMap reading) damage
      (specsOf F reading.locomotiveType)).1 with
  | error exc => rfl
  | ok rows =>
      have keys : ranked id (rows.map fun row => row.1.penalty) =
          (ranked Penalty.penalty (rows.map Prod.fst)).map Penalty.penalty := by
        rw [map_ranked, List.map_map]
        rfl
      simp only [Except.map, healthOf, keys]

end

end LocoTwin.Processor.Floats
