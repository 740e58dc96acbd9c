/-
# Processor.HealthLoss -- what a reading costs the index

A walk over the specifications reads the damage of a sensor before it writes it, and
each sensor once; so its rows, and with them the total penalty and the reported damage,
are a function of the damage before the call (`penaltyLoop_eq`).

`readingLoss` is the sum in the health formula, the damage after the call included, and
`readingDamage` the damage part of it; `calculateHealth_eq` reads the index off them.

The damage in a row is what its sensor has accumulated when the call ends, too
(`penaltyLoop_rows`), so the index is computed from the penalties of the reading and the
damage state after the call (`calculateHealth_rows`).
-/
import LocoTwin.Processor.HealthService

namespace LocoTwin.Processor

open LocoTwin.Lib LocoTwin.Shared

set_option autoImplicit false

/-- The rows of a walk over `specs`, where a sensor had the damage `before`. -/
def rowsFor (M : PyMath) (before : SensorType → PyFloat) (sensors : Dict SensorType SensorPayload) :
    List (SensorType × SensorSpec) → Except PyError (List (Penalty × PyFloat))
  | [] => .ok []
  | (key, spec) :: rest =>
      (rowFor M (before key) sensors key spec).bind fun row =>
        (rowsFor M before sensors rest).map (row.toList ++ ·)

theorem penaltyFor_other (M : PyMath) (locoId : String) (sensors : Dict SensorType SensorPayload)
    (state : DamageState) (key : SensorType) (spec : SensorSpec) {k : Key}
    (other : k ≠ (locoId, key)) :
    (penaltyFor M locoId sensors state key spec).2.getD k 0 = state.getD k 0 := by
  rcases penaltyFor_snd M locoId sensors key spec (state.getD (locoId, key) 0) with
    kept | ⟨_, damage, _, _, _, wrote⟩
  · rw [kept state rfl]
  · rw [wrote state rfl, Dict.getD_set, if_neg other]

/-- What one specification writes is not read for the ones after it. -/
theorem penaltyFor_rest (M : PyMath) {locoId : String} (sensors : Dict SensorType SensorPayload)
    {state : DamageState} {key : SensorType} (spec : SensorSpec)
    {rest : List (SensorType × SensorSpec)} (absent : key ∉ rest.map Prod.fst)
    {before : SensorType → PyFloat}
    (had : ∀ e ∈ rest, state.getD (locoId, e.1) 0 = before e.1) :
    ∀ e ∈ rest,
      (penaltyFor M locoId sensors state key spec).2.getD (locoId, e.1) 0 = before e.1 := by
  intro e mem
  have other : (locoId, e.1) ≠ (locoId, key) := by
    intro same
    exact absent (List.mem_map.mpr ⟨e, mem, (Prod.mk.inj same).2⟩)
  rw [penaltyFor_other M locoId sensors state key spec other]
  exact had e mem

/-- A walk reads the damage that was there before it. -/
theorem penaltyLoop_eq (M : PyMath) (locoId : String) (sensors : Dict SensorType SensorPayload)
    {specs : List (SensorType × SensorSpec)} (distinct : (specs.map Prod.fst).Nodup)
    {state : DamageState} {before : SensorType → PyFloat}
    (had : ∀ e ∈ specs, state.getD (locoId, e.1) 0 = before e.1) :
    (penaltyLoop M locoId sensors state specs).1 = rowsFor M before sensors specs := by
  induction specs generalizing state with
  | nil => rfl
  | cons e rest ih =>
      obtain ⟨key, spec⟩ := e
      obtain ⟨absent, distinct⟩ := List.nodup_cons.mp distinct
      have row : (penaltyFor M locoId sensors state key spec).1 =
          rowFor M (before key) sensors key spec := by
        rw [penaltyFor_fst, had _ List.mem_cons_self]
      have tail := ih distinct (penaltyFor_rest M sensors spec absent
        fun e mem => had e (List.mem_cons_of_mem _ mem))
      simp only [penaltyLoop, rowsFor]
      rcases stepped : penaltyFor M locoId sensors state key spec with ⟨out, after⟩
      rw [stepped] at row tail
      cases out with
      | error exc =>
          rw [← row]
          rfl
      | ok found =>
          rw [← row, ← tail]
          rfl

/-! ## The sums of the formula -/

/-- The damage a sensor of the reading has after the call. -/
def specDamage (M : PyMath) (before : PyFloat) (sensor : Option SensorPayload)
    (spec : SensorSpec) : Except PyError PyFloat :=
  match sensor with
  | none => .ok 0
  | some s => if spec.isAgingParam then damageAfter M before s.value spec else .ok 0

/-- What a specification costs: the penalty of its sensor, and the damage it has after
the call. -/
def specLoss (M : PyMath) (before : PyFloat) (sensor : Option SensorPayload)
    (spec : SensorSpec) : Except PyError PyFloat :=
  match sensor with
  | none => .ok 0
  | some s =>
      (specDamage M before sensor spec).map ((sensorPenalty M s.value spec).1 + ·)

/-- The sum of `f` over the specifications, or the first error. -/
def sumSpecs (f : SensorType → SensorSpec → Except PyError PyFloat) :
    List (SensorType × SensorSpec) → Except PyError PyFloat
  | [] => .ok 0
  | (key, spec) :: rest => (f key spec).bind fun x => (sumSpecs f rest).map (x + ·)

/-- The damage of a sensor before the call. -/
def damageBefore (damage : DamageState) (reading : TelemetryReading) (key : SensorType) :
    PyFloat :=
  damage.getD (UUID.str reading.locomotiveId, key) 0

/-- `Σ W · (…)^k`, with the damage of the aging sensors. -/
def readingLoss (M : PyMath) (damage : DamageState) (reading : TelemetryReading) :
    Except PyError PyFloat :=
  sumSpecs (fun key spec => specLoss M (damageBefore damage reading key)
    ((payloadMap reading).get? key) spec) (locoSpecs reading.locomotiveType).entries

def readingDamage (M : PyMath) (damage : DamageState) (reading : TelemetryReading) :
    Except PyError PyFloat :=
  sumSpecs (fun key spec => specDamage M (damageBefore damage reading key)
    ((payloadMap reading).get? key) spec) (locoSpecs reading.locomotiveType).entries

/-- A sum over the rows is the sum of what each specification contributes. -/
theorem rowsFor_sum (M : PyMath) (before : SensorType → PyFloat)
    (sensors : Dict SensorType SensorPayload) (part : Penalty × PyFloat → PyFloat)
    {f : SensorType → SensorSpec → Except PyError PyFloat} (specs : List (SensorType × SensorSpec))
    (contributes : ∀ key spec, (rowFor M (before key) sensors key spec).map
      (fun row => (row.toList.map part).sum) = f key spec) :
    (rowsFor M before sensors specs).map (fun rows => (rows.map part).sum) =
      sumSpecs f specs := by
  induction specs with
  | nil => rfl
  | cons e rest ih =>
      obtain ⟨key, spec⟩ := e
      simp only [rowsFor, sumSpecs]
      rw [← contributes key spec, ← ih]
      cases rowFor M (before key) sensors key spec with
      | error exc => rfl
      | ok row =>
          cases rowsFor M before sensors rest with
          | error exc => rfl
          | ok rows => simp [Except.bind, Except.map]

theorem rowFor_penalty (M : PyMath) (before : PyFloat) (sensors : Dict SensorType SensorPayload)
    (key : SensorType) (spec : SensorSpec) :
    (rowFor M before sensors key spec).map (fun row => (row.toList.map (·.1.penalty)).sum) =
      specLoss M before (sensors.get? key) spec := by
  cases found : sensors.get? key with
  | none => simp [rowFor, specLoss, found, Except.map]
  | some sensor =>
      by_cases aging : spec.isAgingParam = true
      · simp only [rowFor, specLoss, specDamage, found, if_pos aging]
        cases damageAfter M before sensor.value spec <;> simp [Except.map, penaltyOf]
      · simp only [rowFor, specLoss, specDamage, found, if_neg aging]
        simp [Except.map, penaltyOf]

theorem rowFor_damage (M : PyMath) (before : PyFloat) (sensors : Dict SensorType SensorPayload)
    (key : SensorType) (spec : SensorSpec) :
    (rowFor M before sensors key spec).map (fun row => (row.toList.map (·.2)).sum) =
      specDamage M before (sensors.get? key) spec := by
  cases found : sensors.get? key with
  | none => simp [rowFor, specDamage, found, Except.map]
  | some sensor =>
      by_cases aging : spec.isAgingParam = true
      · simp only [rowFor, specDamage, found, if_pos aging]
        cases damageAfter M before sensor.value spec <;> simp [Except.map, penaltyOf]
      · simp only [rowFor, specDamage, found, if_neg aging]
        simp [Except.map, penaltyOf]

/-- The index of a call: its score from the total loss, its damage from the damage after
the call. -/
theorem calculateHealth_eq (M : PyMath) (now : Datetime) (damage : DamageState)
    (reading : TelemetryReading) :
    (calculateHealth M now damage reading).1.map (fun health =>
        (health.overallScore, health.category)) =
      (readingLoss M damage reading).map (fun loss =>
        (roundTo 2 (clampScore (100 - loss)), hiCategory (clampScore (100 - loss)))) ∧
    (calculateHealth M now damage reading).1.map (·.damagePenalty) =
      (readingDamage M damage reading).map (roundTo 6) := by
  have loop : (penaltyLoop M (UUID.str reading.locomotiveId) (payloadMap reading) damage
      (locoSpecs reading.locomotiveType).entries).1 =
        rowsFor M (damageBefore damage reading) (payloadMap reading)
          (locoSpecs reading.locomotiveType).entries :=
    penaltyLoop_eq M _ _ (locoSpecs reading.locomotiveType).nodup fun _ _ => rfl
  have loss := rowsFor_sum M (damageBefore damage reading) (payloadMap reading) (·.1.penalty)
    (locoSpecs reading.locomotiveType).entries fun key spec => rowFor_penalty M _ _ key spec
  have total := rowsFor_sum M (damageBefore damage reading) (payloadMap reading) (·.2)
    (locoSpecs reading.locomotiveType).entries fun key spec => rowFor_damage M _ _ key spec
  simp only [calculateHealth, readingLoss, readingDamage, loop, ← loss, ← total]
  cases rowsFor M (damageBefore damage reading) (payloadMap reading)
    (locoSpecs reading.locomotiveType).entries with
  | error exc => exact ⟨rfl, rfl⟩
  | ok rows =>
      simp [Except.map, healthOf, sum_penalties]

/-! ## The rows of a call -/

/-- The penalties of a reading, and the damage in each, where `damage` has been accumulated
by the end of the call. -/
def penaltiesOf (M : PyMath) (damage : DamageState) (reading : TelemetryReading) :
    List (Penalty × PyFloat) :=
  (locoSpecs reading.locomotiveType).entries.filterMap fun e =>
    ((payloadMap reading).get? e.1).map fun sensor =>
      penaltyOf M e.1 e.2 sensor
        (if e.2.isAgingParam then damage.getD (UUID.str reading.locomotiveId, e.1) 0 else 0)

theorem penaltyLoop_other (M : PyMath) (locoId : String) (sensors : Dict SensorType SensorPayload)
    (specs : List (SensorType × SensorSpec)) (state : DamageState) {key : SensorType}
    (absent : key ∉ specs.map Prod.fst) :
    (penaltyLoop M locoId sensors state specs).2.getD (locoId, key) 0 =
      state.getD (locoId, key) 0 := by
  induction specs generalizing state with
  | nil => rfl
  | cons e rest ih =>
      obtain ⟨other, spec⟩ := e
      simp only [List.map_cons, List.mem_cons, not_or] at absent
      have here := penaltyFor_other M locoId sensors state other spec
        (k := (locoId, key)) (fun same => absent.1 (Prod.mk.inj same).2)
      simp only [penaltyLoop]
      rcases stepped : penaltyFor M locoId sensors state other spec with ⟨out, after⟩
      rw [stepped] at here
      cases out with
      | error exc => exact here
      | ok row => exact (ih after absent.2).trans here

/-- A row holds the damage its sensor has after the body of the loop. -/
theorem penaltyFor_row {M : PyMath} {locoId : String} {sensors : Dict SensorType SensorPayload}
    {state : DamageState} {key : SensorType} {spec : SensorSpec} {row : Option (Penalty × PyFloat)}
    (ok : (penaltyFor M locoId sensors state key spec).1 = .ok row) :
    row = (sensors.get? key).map fun sensor => penaltyOf M key spec sensor
      (if spec.isAgingParam then
        (penaltyFor M locoId sensors state key spec).2.getD (locoId, key) 0 else 0) := by
  have kept := ok
  rw [penaltyFor_fst, rowFor] at ok
  cases found : sensors.get? key with
  | none =>
      rw [found] at ok
      exact (Except.ok.inj ok).symm
  | some sensor =>
      by_cases aging : spec.isAgingParam = true
      · simp only [found, if_pos aging] at ok
        cases after : damageAfter M (state.getD (locoId, key) 0) sensor.value spec with
        | error e => simp [after, Except.map] at ok
        | ok damage =>
            simp only [after, Except.map, Except.ok.injEq] at ok
            simp only [penaltyFor, found, if_pos aging, getD_updateDamage after, if_true,
              Option.map_some]
            exact ok.symm
      · simp only [found, if_neg aging, Except.ok.injEq] at ok
        simp only [if_neg aging, Option.map_some]
        exact ok.symm

/-- The rows of a walk hold the damage the sensors have after it. -/
theorem penaltyLoop_rows {M : PyMath} {locoId : String} {sensors : Dict SensorType SensorPayload}
    {specs : List (SensorType × SensorSpec)} (distinct : (specs.map Prod.fst).Nodup)
    {state : DamageState} {rows : List (Penalty × PyFloat)}
    (ok : (penaltyLoop M locoId sensors state specs).1 = .ok rows) :
    rows = specs.filterMap fun e => (sensors.get? e.1).map fun sensor =>
      penaltyOf M e.1 e.2 sensor (if e.2.isAgingParam then
        (penaltyLoop M locoId sensors state specs).2.getD (locoId, e.1) 0 else 0) := by
  induction specs generalizing state rows with
  | nil => exact (Except.ok.inj ok).symm
  | cons e rest ih =>
      obtain ⟨key, spec⟩ := e
      obtain ⟨absent, distinct⟩ := List.nodup_cons.mp distinct
      have here := @penaltyFor_row M locoId sensors state key spec
      simp only [penaltyLoop] at ok ⊢
      rcases stepped : penaltyFor M locoId sensors state key spec with ⟨out, after⟩
      rw [stepped] at here
      simp only [stepped] at ok ⊢
      cases out with
      | error e => simp at ok
      | ok row =>
          have first := here rfl
          have own := penaltyLoop_other M locoId sensors rest after absent
          rcases looped : penaltyLoop M locoId sensors after rest with ⟨out, last⟩
          rw [looped] at own
          simp only [looped] at ok ⊢
          cases out with
          | error e => simp [Except.map] at ok
          | ok tail =>
              have later := @ih distinct after _ (congrArg Prod.fst looped)
              simp only [looped] at later
              simp only [Except.map, Except.ok.injEq] at ok
              rw [← ok, later, first, List.filterMap_cons, ← own]
              cases sensors.get? key <;> rfl

/-- The index of a call is computed from its penalties. -/
theorem calculateHealth_rows {M : PyMath} {now : Datetime} {state : DamageState}
    {reading : TelemetryReading} {health : HealthIndex}
    (ok : (calculateHealth M now state reading).1 = .ok health) :
    health = healthOf now reading
      (penaltiesOf M (calculateHealth M now state reading).2 reading) := by
  have rows := @penaltyLoop_rows M (UUID.str reading.locomotiveId) (payloadMap reading)
    (locoSpecs reading.locomotiveType).entries (locoSpecs reading.locomotiveType).nodup state
  simp only [calculateHealth] at ok ⊢
  rcases looped : penaltyLoop M (UUID.str reading.locomotiveId) (payloadMap reading) state
    (locoSpecs reading.locomotiveType).entries with ⟨out, last⟩
  rw [looped] at ok rows
  cases out with
  | error exc => simp [Except.map] at ok
  | ok found =>
      simp only [Except.map, Except.ok.injEq] at ok
      rw [← ok, rows rfl]
      rfl

end LocoTwin.Processor
