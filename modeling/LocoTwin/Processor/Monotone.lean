/-
# Processor.Monotone -- a worse reading never gets a better verdict

`WorseThan reading reading'` puts every value of `reading'` at least as far from
nominal, in the direction its specification penalises, as in `reading`.  The
verdicts follow:

* `evaluateAlerts_mono`: every alert stays, with at least its severity.  Engine
  speed couples two sensors here: a worse speed is a higher one, so it can only
  lift the AESS mask and raise the floor for the oil pressure;
* `penaltyLoop_mono`: the penalties and the damage grow sensor by sensor, and
  `healthOf_mono`: clamping and rounding keep the order of the scores.
-/
import LocoTwin.Processor.AlertMirror

namespace LocoTwin.Processor

open LocoTwin.Lib LocoTwin.Shared

set_option autoImplicit false

/-- `value'` is at least as far from nominal as `value`, in the penalised direction. -/
def FartherFor (spec : SensorSpec) (value value' : PyFloat) : Prop :=
  match spec.thresholdType with
  | .bidirectional => |value - spec.pNom| ≤ |value' - spec.pNom|
  | .upperBound => value ≤ value'
  | .lowerBound => value' ≤ value
  | .exactMatch => |value - spec.pNom| ≤ |value' - spec.pNom|

structure WorseThan (reading reading' : TelemetryReading) : Prop where
  locomotiveId : reading'.locomotiveId = reading.locomotiveId
  locomotiveType : reading'.locomotiveType = reading.locomotiveType
  once : (reading.sensors.map (·.sensorType)).Nodup
  once' : (reading'.sensors.map (·.sensorType)).Nodup
  sensors : (reading'.sensors.map (·.sensorType)).Perm (reading.sensors.map (·.sensorType))
  farther : ∀ s ∈ reading.sensors, ∀ s' ∈ reading'.sensors, s.sensorType = s'.sensorType →
    ∀ spec, (locoSpecs reading.locomotiveType).get? s.sensorType = some spec →
      FartherFor spec s.value s'.value

/-! ## What both readings report of one sensor -/

/-- A sensor with a specification is absent from both readings, or farther from
nominal in the worse one. -/
theorem WorseThan.payload {reading reading' : TelemetryReading}
    (worse : WorseThan reading reading') {key : SensorType} {spec : SensorSpec}
    (listed : (locoSpecs reading.locomotiveType).get? key = some spec) :
    Option.Rel (fun s s' : SensorPayload => FartherFor spec s.value s'.value)
      ((payloadMap reading).get? key) ((payloadMap reading').get? key) := by
  cases found : (payloadMap reading).get? key with
  | none =>
      have absent : (payloadMap reading').get? key = none := by
        rw [payloadMap_eq_none, worse.sensors.mem_iff]
        exact payloadMap_eq_none.mp found
      rw [absent]
      exact .none
  | some s =>
      obtain ⟨mem, rfl⟩ := payloadMap_eq_some found
      have present : (payloadMap reading').get? s.sensorType ≠ none := by
        rw [Ne, payloadMap_eq_none, worse.sensors.mem_iff, not_not]
        exact List.mem_map_of_mem mem
      obtain ⟨s', found'⟩ := Option.ne_none_iff_exists'.mp present
      obtain ⟨mem', same⟩ := payloadMap_eq_some found'
      rw [found']
      exact .some (worse.farther s mem s' mem' same.symm spec listed)

theorem WorseThan.value {reading reading' : TelemetryReading} (worse : WorseThan reading reading')
    {key : SensorType} {spec : SensorSpec}
    (listed : (locoSpecs reading.locomotiveType).get? key = some spec) :
    Option.Rel (FartherFor spec) ((sensorMap reading).get? key)
      ((sensorMap reading').get? key) := by
  have payload := worse.payload listed
  rw [sensorMap_get?, sensorMap_get?]
  generalize (payloadMap reading).get? key = sensor,
    (payloadMap reading').get? key = sensor' at payload ⊢
  cases payload with
  | none => exact .none
  | some farther => exact .some farther

/-! ## One sensor -/

theorem rawDeviation_mono {spec : SensorSpec} (wf : spec.Wellformed) {value value' : PyFloat}
    (farther : FartherFor spec value value') :
    rawDeviation value spec ≤ rawDeviation value' spec := by
  have exact' := wf.not_exact
  unfold FartherFor at farther
  unfold rawDeviation
  cases kind : spec.thresholdType with
  | bidirectional => simpa [kind] using farther
  | upperBound =>
      simp only [kind] at farther
      exact max_le_max_left 0 (by linarith)
  | lowerBound =>
      simp only [kind] at farther
      exact max_le_max_left 0 (by linarith)
  | exactMatch => exact absurd kind exact'

theorem mirroredSeverity_mono {weight pct pct' : PyFloat} (more : pct ≤ pct') :
    (mirroredSeverity weight pct).rank ≤ (mirroredSeverity weight pct').rank := by
  unfold mirroredSeverity
  split_ifs with heavy heavy' sixty sixty' thirty thirty' <;>
    simp only [AlertSeverity.rank, not_or, not_le] at * <;>
    first | omega | (exfalso; rcases heavy with h | h <;> linarith) | (exfalso; linarith)

theorem severityFromSpec_mono {spec : SensorSpec} (wf : spec.Wellformed) {value value' : PyFloat}
    (farther : FartherFor spec value value') :
    (severityFromSpec value spec).rank ≤ (severityFromSpec value' spec).rank := by
  rw [severityFromSpec_eq .onIntegers value wf, severityFromSpec_eq .onIntegers value' wf]
  apply mirroredSeverity_mono
  exact mul_le_mul_of_nonneg_right (normalizedExceedance_mono spec (rawDeviation_mono wf farther))
    (by norm_num)

/-! ## Alerts -/

/-- Engine speed is penalised upwards. -/
theorem WorseThan.rpm {reading reading' : TelemetryReading} (worse : WorseThan reading reading')
    (diesel : reading.locomotiveType = .te33a) :
    Option.Rel (· ≤ ·) ((sensorMap reading).get? .dieselRpm)
      ((sensorMap reading').get? .dieselRpm) := by
  have listed : (locoSpecs reading.locomotiveType).get? .dieselRpm = some dieselRpmSpec := by
    rw [diesel]; rfl
  exact worse.value listed

/-- A worse reading is masked only where the better one is. -/
theorem WorseThan.unmasked {reading reading' : TelemetryReading}
    (worse : WorseThan reading reading') {key : SensorType} (unmasked : ¬ AessMasked reading key) :
    ¬ AessMasked reading' key := by
  rintro ⟨active, masked⟩
  refine unmasked ⟨?_, masked⟩
  simp only [aessActive, worse.locomotiveType, Bool.and_eq_true, beq_iff_eq] at active ⊢
  obtain ⟨diesel, asleep⟩ := active
  refine ⟨diesel, ?_⟩
  have faster := worse.rpm diesel
  unfold isAessActive at asleep ⊢
  generalize (sensorMap reading).get? .dieselRpm = rpm,
    (sensorMap reading').get? .dieselRpm = rpm' at asleep faster ⊢
  cases faster with
  | none => exact asleep
  | some le => exact decide_eq_true (le.trans (of_decide_eq_true asleep))

/-- A worse reading explains oil pressure only where the better one does. -/
theorem WorseThan.unaccepted {reading reading' : TelemetryReading}
    (worse : WorseThan reading reading') {key : SensorType} {spec : SensorSpec}
    (listed : (locoSpecs reading.locomotiveType).get? key = some spec) {value value' : PyFloat}
    (farther : FartherFor spec value value')
    (unaccepted : ¬ ContextuallyAccepted reading key value) :
    ¬ ContextuallyAccepted reading' key value' := by
  rintro ⟨rfl, floor'⟩
  refine unaccepted ⟨rfl, ?_⟩
  cases loco : reading.locomotiveType with
  | kz8a =>
      have absent : (locoSpecs .kz8a).get? .oilPressure = none := by decide
      rw [loco, absent] at listed
      cases listed
  | te33a =>
      have lower : value' ≤ value := by
        rw [loco] at listed
        obtain rfl : oilPressureSpec = spec := Option.some.inj listed
        exact farther
      have faster := worse.rpm loco
      have rpm : (sensorMap reading).getD .dieselRpm 0 ≤
          (sensorMap reading').getD .dieselRpm 0 := by
        unfold Dict.getD
        generalize (sensorMap reading).get? .dieselRpm = rpm,
          (sensorMap reading').get? .dieselRpm = rpm' at faster ⊢
        cases faster with
        | none => exact le_rfl
        | some le => exact le
      have floor : minExpected (sensorMap reading) ≤ minExpected (sensorMap reading') := by
        unfold minExpected
        linarith
      linarith

/-- Every alert stays, with at least its severity. -/
theorem evaluateAlerts_mono {reading reading' : TelemetryReading}
    (worse : WorseThan reading reading') (stamps stamps' : AlertStamps) :
    ∀ event ∈ evaluateAlerts stamps reading, ∃ event' ∈ evaluateAlerts stamps' reading',
      event'.sensorType = event.sensorType ∧ event.severity.rank ≤ event'.severity.rank := by
  intro event mem
  obtain ⟨spec, listed, ⟨present, unmasked, unaccepted, violated⟩, severity⟩ :=
    evaluateAlerts_event mem
  have wf := wellformed_of_get? listed
  have values := worse.value listed
  rw [present] at values
  rcases present' : (sensorMap reading').get? event.sensorType with _ | value'
  · rw [present'] at values
    cases values
  rw [present'] at values
  obtain ⟨farther⟩ := values
  have alerted : Alerted reading' event.sensorType spec value' := by
    refine ⟨present', worse.unmasked unmasked, worse.unaccepted listed farther unaccepted, ?_⟩
    rw [thresholdViolated_iff _ wf] at violated ⊢
    exact violated.trans_le (rawDeviation_mono wf farther)
  have listed' : (locoSpecs reading'.locomotiveType).get? event.sensorType = some spec := by
    rw [worse.locomotiveType, listed]
  have emitted := (mem_evaluateAlerts_iff stamps' reading' event.sensorType).mpr
    ⟨spec, value', listed', alerted⟩
  obtain ⟨event', mem', same⟩ := List.mem_map.mp emitted
  refine ⟨event', mem', same, ?_⟩
  obtain ⟨spec', listed'', ⟨present'', -, -, -⟩, severity'⟩ := evaluateAlerts_event mem'
  rw [same, listed', Option.some.injEq] at listed''
  rw [same, present', Option.some.injEq] at present''
  rw [severity, severity', ← listed'', ← present'']
  exact severityFromSpec_mono wf farther

/-! ## Health -/

/-- One sensor: the penalty and the damage grow. -/
theorem penaltyFor_mono {M : PyMath} (pow : M.PowLaws) (exp2 : M.Exp2Laws) (locoId : String)
    {sensors sensors' : Dict SensorType SensorPayload} {key : SensorType} {spec : SensorSpec}
    (wf : spec.Wellformed)
    (farther : Option.Rel (fun s s' : SensorPayload => FartherFor spec s.value s'.value)
      (sensors.get? key) (sensors'.get? key))
    {state state' : DamageState} (more : ∀ k, state.getD k 0 ≤ state'.getD k 0) :
    ∃ row row', (penaltyFor M locoId sensors state key spec).1 = .ok row ∧
      (penaltyFor M locoId sensors' state' key spec).1 = .ok row' ∧
      List.Forall₂ (fun r r' : Penalty × PyFloat => r.1.penalty ≤ r'.1.penalty)
        row.toList row'.toList ∧
      ∀ k, (penaltyFor M locoId sensors state key spec).2.getD k 0 ≤
        (penaltyFor M locoId sensors' state' key spec).2.getD k 0 := by
  unfold penaltyFor
  generalize sensors.get? key = sensor, sensors'.get? key = sensor' at farther ⊢
  cases farther with
  | none => exact ⟨none, none, rfl, rfl, .nil, more⟩
  | @some s s' farther =>
      have base := sensorPenalty_mono pow wf (rawDeviation_mono wf farther)
      by_cases aging : spec.isAgingParam = true
      · have hotter : s.value ≤ s'.value := by
          simpa [FartherFor, wf.aging_upper aging] using farther
        obtain ⟨damage, damage', ok, ok', le⟩ :=
          damageAfter_mono exp2 spec (more (locoId, key)) hotter
        simp only [if_pos aging, updateDamage_fst, ok, ok', Except.map]
        refine ⟨_, _, rfl, rfl, .cons (add_le_add base le) .nil, ?_⟩
        intro k
        rw [getD_updateDamage ok, getD_updateDamage ok']
        split_ifs
        · exact le
        · exact more k
      · simp only [if_neg aging]
        exact ⟨_, _, rfl, rfl, .cons (add_le_add base le_rfl) .nil, more⟩

/-- The whole loop: penalty by penalty, and the damage it leaves. -/
theorem penaltyLoop_mono {M : PyMath} (pow : M.PowLaws) (exp2 : M.Exp2Laws) (locoId : String)
    {sensors sensors' : Dict SensorType SensorPayload} {specs : List (SensorType × SensorSpec)}
    (farther : ∀ e ∈ specs, e.2.Wellformed ∧
      Option.Rel (fun s s' : SensorPayload => FartherFor e.2 s.value s'.value)
        (sensors.get? e.1) (sensors'.get? e.1))
    {state state' : DamageState} (more : ∀ k, state.getD k 0 ≤ state'.getD k 0) :
    ∃ rows rows', (penaltyLoop M locoId sensors state specs).1 = .ok rows ∧
      (penaltyLoop M locoId sensors' state' specs).1 = .ok rows' ∧
      List.Forall₂ (fun r r' : Penalty × PyFloat => r.1.penalty ≤ r'.1.penalty) rows rows' ∧
      ∀ k, (penaltyLoop M locoId sensors state specs).2.getD k 0 ≤
        (penaltyLoop M locoId sensors' state' specs).2.getD k 0 := by
  induction specs generalizing state state' with
  | nil => exact ⟨[], [], rfl, rfl, .nil, more⟩
  | cons e rest ih =>
      obtain ⟨key, spec⟩ := e
      obtain ⟨wf, here⟩ := farther _ List.mem_cons_self
      obtain ⟨row, row', ok, ok', le, more'⟩ := penaltyFor_mono pow exp2 locoId wf here more
      simp only [penaltyLoop]
      rcases left : penaltyFor M locoId sensors state key spec with ⟨out, after⟩
      rcases right : penaltyFor M locoId sensors' state' key spec with ⟨out', after'⟩
      simp only [left, right] at ok ok' more'
      subst ok ok'
      obtain ⟨rows, rows', oks, oks', les, last⟩ :=
        ih (fun e mem => farther e (List.mem_cons_of_mem _ mem)) more'
      refine ⟨row.toList ++ rows, row'.toList ++ rows', ?_, ?_, ?_, last⟩
      · simp only [oks, Except.map]
      · simp only [oks', Except.map]
      · exact List.rel_append le les

/-- More penalties never give a better score. -/
theorem healthOf_mono {rows rows' : List (Penalty × PyFloat)}
    (le : List.Forall₂ (fun r r' : Penalty × PyFloat => r.1.penalty ≤ r'.1.penalty) rows rows')
    (now now' : Datetime) (reading reading' : TelemetryReading) :
    (healthOf now' reading' rows').overallScore ≤ (healthOf now reading rows).overallScore := by
  have total : (rows.map fun r => r.1.penalty).sum ≤ (rows'.map fun r => r.1.penalty).sum := by
    induction le with
    | nil => exact le_rfl
    | cons h _ ih => simpa using add_le_add h ih
  simp only [healthOf, sum_penalties]
  exact roundTo_mono 2 (max_le_max_left 0 (min_le_min_left 100 (by linarith)))

/-- **A worse reading never gets a better verdict.**  Alerts stay and do not become
milder, damage does not shrink, and the score does not rise. -/
theorem worse_verdict {M : PyMath} (pow : M.PowLaws) (exp2 : M.Exp2Laws)
    {reading reading' : TelemetryReading} (worse : WorseThan reading reading')
    {damage damage' : DamageState} (more : ∀ key, damage.getD key 0 ≤ damage'.getD key 0)
    (stamps stamps' : AlertStamps) (now now' : Datetime) :
    (∀ event ∈ evaluateAlerts stamps reading, ∃ event' ∈ evaluateAlerts stamps' reading',
        event'.sensorType = event.sensorType ∧ event.severity.rank ≤ event'.severity.rank) ∧
      (∀ key, (calculateHealth M now damage reading).2.getD key 0 ≤
        (calculateHealth M now' damage' reading').2.getD key 0) ∧
      ∃ health health', (calculateHealth M now damage reading).1 = .ok health ∧
        (calculateHealth M now' damage' reading').1 = .ok health' ∧
        health'.overallScore ≤ health.overallScore := by
  have farther : ∀ e ∈ (locoSpecs reading.locomotiveType).entries, e.2.Wellformed ∧
      Option.Rel (fun s s' : SensorPayload => FartherFor e.2 s.value s'.value)
        ((payloadMap reading).get? e.1) ((payloadMap reading').get? e.1) := by
    intro e mem
    exact ⟨locoSpecs_wellformed _ e mem, worse.payload (Dict.get?_eq_some.mpr mem)⟩
  obtain ⟨rows, rows', ok, ok', le, last⟩ :=
    penaltyLoop_mono pow exp2 (UUID.str reading.locomotiveId) farther more
  refine ⟨evaluateAlerts_mono worse stamps stamps', ?_, ?_⟩
  · simpa only [calculateHealth, worse.locomotiveId, worse.locomotiveType] using last
  · refine ⟨healthOf now reading rows, healthOf now' reading' rows', ?_, ?_,
      healthOf_mono le now now' reading reading'⟩
    · simp only [calculateHealth, ok, Except.map]
    · simp only [calculateHealth, worse.locomotiveId, worse.locomotiveType, ok', Except.map]

/-- A transformer at the given temperature. -/
def transformerAt (celsius : PyFloat) : TelemetryReading where
  locomotiveId := 7
  locomotiveType := .kz8a
  timestamp := 0
  sensors := [⟨.transformerTemp, celsius, "°C"⟩]

theorem worse_verdict_transformer :
    ∃ health health',
      (calculateHealth .onIntegers 0 Dict.empty (transformerAt 83)).1 = .ok health ∧
      (calculateHealth .onIntegers 0 Dict.empty (transformerAt 95)).1 = .ok health' ∧
      health'.overallScore ≤ health.overallScore := by
  have worse : WorseThan (transformerAt 83) (transformerAt 95) :=
    { locomotiveId := rfl
      locomotiveType := rfl
      once := by decide
      once' := by decide
      sensors := .refl _
      farther := by
        intro s mem s' mem' _ spec listed
        obtain rfl := List.mem_singleton.mp mem
        obtain rfl := List.mem_singleton.mp mem'
        cases listed
        show (83 : PyFloat) ≤ 95
        norm_num }
  exact (worse_verdict PyMath.onIntegers_powLaws PyMath.onIntegers_exp2Laws worse
    (fun _ => le_rfl) ⟨fun _ => 0, 0⟩ ⟨fun _ => 0, 0⟩ 0 0).2.2

end LocoTwin.Processor
