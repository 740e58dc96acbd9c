/-
# Drills -- from a scenario of the simulator to an alert of the processor

An operator arms a fault: a locomotive of the simulator leaks its brake pipe, or overheats its
IGBT modules.  Whether the processor raises the alert depends on every part in between: the
scenario writes an override, the mode machine and the motion must leave it alone, the
generator reads it with noise, the processor smooths what it gets, and the evaluator compares
the smoothed value with the specification.

In `rig` the operators work on the fleet, the fleet ticks, and the processor gets the readings
in any order, late, repeatedly or not at all, as a runner that retries and buffers its batches
may deliver them; it may also be restarted, which empties its filters.  Every reading carries
the scenario it was made in, which the code does not.

* `Sent.Sound`: what the scenario makes of the two sensors;
* `Filtered`: how far a filter is from where the readings of a streak take it;
* **`drills_alert`**: after two readings of a leaking brake pipe, in whatever history, every
  further one raises an EMERGENCY alert; after sixteen of a sound one, none does; the same for
  overheated modules.
-/
import LocoTwin.Lib.Smoothing
import LocoTwin.Processor.Isolation
import LocoTwin.Simulator.EmergencyStop
import LocoTwin.Simulator.Generators
import LocoTwin.Simulator.UpdateFrame
import Mathlib.Logic.Function.Basic

namespace LocoTwin.Drills

open LocoTwin.Lib LocoTwin.Shared LocoTwin.Simulator LocoTwin.Processor
open LocoTwin.Simulator.LocomotiveState

set_option autoImplicit false

/-! ## The rig -/

/-- A reading, and the scenario of its locomotive when it was made. -/
structure Sent where
  reading : TelemetryReading
  scenario : LocomotiveScenario
  scenarioTick : Nat

structure Rig where
  fleet : Fleet
  internals : UUID → Internals
  /-- What was ever posted, which the network may deliver at any time. -/
  sent : List Sent
  processor : ProcessorState
  /-- What the processor made of each reading. -/
  log : List (Sent × Processed)

/-- What a tick of the whole fleet draws and reads. -/
structure TickDraws where
  draws : UUID → Draws
  noise : UUID → SensorType → Noise
  now : Datetime
  /-- `1.0 * self.effective_multiplier` -/
  sampleRateHz : PyFloat
  sampleRate_range : 1 / 10 ≤ sampleRateHz ∧ sampleRateHz ≤ 200

inductive RigEvent where
  | add (draws : Draws) (req : AddLocomotive)
  | update (locoId : UUID) (req : UpdateLocomotive)
  | remove (locoId : UUID)
  | tick (t : TickDraws)
  | process (item : Sent) (stamps : Stamps)
  | restart

section

variable (T : Trig) (routes : List Route) (M : PyMath)

/-- The reading of a locomotive after its tick. -/
def makeReading (t : TickDraws) (locoId : UUID) (s : LocomotiveState) (internals : Internals) :
    Sent where
  reading :=
    { locomotiveId := s.id
      locomotiveType := s.locoType
      timestamp := t.now
      sampleRateHz := t.sampleRateHz
      sampleRate_range := t.sampleRate_range
      gps := some ⟨s.pose.lat, s.pose.lon, some s.pose.bearingDeg⟩
      sensors := (generateSensors M (t.noise locoId) s internals).1
      routeName := some s.route.name }
  scenario := s.scenario
  scenarioTick := s.scenarioTick

namespace Rig

/-- `_do_tick` up to the posts. -/
def doTick (r : Rig) (t : TickDraws) : Rig :=
  let ticked (locoId : UUID) (s : LocomotiveState) := s.tick T (t.draws locoId) locoTickSeconds
  { r with
    fleet := Simulator.doTick T t.draws r.fleet
    internals := fun locoId =>
      match r.fleet.get? locoId with
      | none => r.internals locoId
      | some s =>
          (generateSensors M (t.noise locoId) (ticked locoId s) (r.internals locoId)).2
    sent := r.sent ++ r.fleet.entries.map fun (locoId, s) =>
      makeReading M t locoId (ticked locoId s) (r.internals locoId) }

/-- A new locomotive starts with the defaults. -/
def add (r : Rig) (draws : Draws) (req : AddLocomotive) : Rig :=
  match addLocomotive T routes draws r.fleet req with
  | .ok fleet =>
      { r with fleet, internals := Function.update r.internals req.locoId {} }
  | .error _ => r

def process (r : Rig) (item : Sent) (stamps : Stamps) : Rig :=
  let (processor, out) := pipeline M r.processor (item.reading, stamps)
  { r with processor, log := r.log ++ [(item, out)] }

end Rig

inductive RigStep : Rig → RigEvent → Rig → Prop where
  | add (r : Rig) (draws : Draws) (req : AddLocomotive) :
      RigStep r (.add draws req) (r.add T routes draws req)
  | update (r : Rig) (locoId : UUID) (req : UpdateLocomotive) :
      RigStep r (.update locoId req)
        { r with fleet := r.fleet.after (updateLocomotive T routes r.fleet locoId req) }
  | remove (r : Rig) (locoId : UUID) :
      RigStep r (.remove locoId)
        { r with fleet := r.fleet.after (removeLocomotive r.fleet locoId) }
  | tick (r : Rig) (t : TickDraws) : RigStep r (.tick t) (r.doTick T M t)
  | process (r : Rig) (item : Sent) (stamps : Stamps) : item ∈ r.sent →
      RigStep r (.process item stamps) (r.process M item stamps)
  | restart (r : Rig) : RigStep r .restart { r with processor := .empty }

/-- An empty fleet and a new processor. -/
def rig : System Rig RigEvent where
  init r := r = ⟨Dict.empty, fun _ => {}, [], .empty, []⟩
  step := RigStep T routes M

end

/-- The API admits no negative speed, and the noise stays within a tenth of a bar and one
degree, more than three standard deviations. -/
def Admitted (_ : Rig) : RigEvent → Prop
  | .add _ req => 0 ≤ req.initialSpeedKmh
  | .tick t => ∀ locoId,
      |addNoise (t.noise locoId .brakePipePressure) 0 5.1| ≤ 0.1 ∧
        |addNoise (t.noise locoId .igbtTemp) 0 57| ≤ 1
  | _ => True

/-! ## What a scenario makes of the sensors -/

/-- The brake pipe pressure of a scenario, in its tick `n`. -/
def brakeAt (scenario : LocomotiveScenario) (n : Nat) : PyFloat :=
  if scenario = .emergency then brakePressure n else 5.1

/-- The temperature of the degradation ramp. -/
def rampAt (n : Nat) : PyFloat := 57 + 30 * min 1 ((n : PyFloat) / 1200)

theorem applyScenario_overrides (s : LocomotiveState) :
    brake s.applyScenario = brakeAt s.applyScenario.scenario s.applyScenario.scenarioTick ∧
      s.applyScenario.igbtOverride =
        if s.applyScenario.scenario = .degradation then some (rampAt s.applyScenario.scenarioTick)
        else none := by
  cases scenario : s.scenario with
  | normal => simp [applyScenario, scenario, brake, brakeAt]
  | degradation =>
      simp [applyScenario, scenario, brake, brakeAt, rampAt, degradationDurationTicks,
        degradationStartTemp, degradationEndTemp]
      left
      norm_num
  | emergency =>
      rw [applyScenario_emergency scenario]
      simp [brake, brakeAt, scenario]

/-- The overrides a tick leaves are those of its scenario, wherever the locomotive goes. -/
theorem tick_overrides (T : Trig) (draws : Draws) (dt : PyFloat) (s : LocomotiveState) :
    brake (s.tick T draws dt) =
        brakeAt (s.tick T draws dt).scenario (s.tick T draws dt).scenarioTick ∧
      (s.tick T draws dt).igbtOverride =
        if (s.tick T draws dt).scenario = .degradation then
          some (rampAt (s.tick T draws dt).scenarioTick)
        else none := by
  obtain ⟨brake, igbt⟩ := applyScenario_overrides (s.transition draws)
  obtain ⟨scenario, scenarioTick, igbtOverride, brakeOverride⟩ :=
    sameScenario_move dt (s.transition draws).applyScenario
  have same : Simulator.brake (s.tick T draws dt) =
      Simulator.brake (s.transition draws).applyScenario :=
    congrArg (·.getD 5.1) brakeOverride
  rw [same, brake]
  change _ = brakeAt (((s.transition draws).applyScenario).move dt).scenario
      (((s.transition draws).applyScenario).move dt).scenarioTick ∧
    (((s.transition draws).applyScenario).move dt).igbtOverride =
      if (((s.transition draws).applyScenario).move dt).scenario = .degradation then
        some (rampAt (((s.transition draws).applyScenario).move dt).scenarioTick)
      else none
  rw [scenario, scenarioTick, igbtOverride, igbt]
  exact ⟨rfl, rfl⟩

theorem brakeAt_mem (scenario : LocomotiveScenario) (n : Nat) :
    1.8 ≤ brakeAt scenario n ∧ brakeAt scenario n ≤ 5.1 := by
  unfold brakeAt brakePressure
  split_ifs with emergency early
  · have bound : (n : PyFloat) ≤ 10 := by exact_mod_cast early
    have nonneg : (0 : PyFloat) ≤ n := Nat.cast_nonneg n
    constructor <;> linarith
  · norm_num
  · norm_num

/-- From its third tick on, a leak has taken the pressure below 4.11 bar. -/
theorem brakeAt_leaking {n : Nat} (third : 3 ≤ n) : brakeAt .emergency n ≤ 4.11 := by
  unfold brakeAt brakePressure
  rw [if_pos rfl]
  split_ifs
  · have bound : (3 : PyFloat) ≤ n := by exact_mod_cast third
    linarith
  · norm_num

theorem rampAt_ge (n : Nat) : 57 ≤ rampAt n := by
  have nonneg : (0 : PyFloat) ≤ min 1 ((n : PyFloat) / 1200) := le_min zero_le_one (by positivity)
  unfold rampAt
  linarith

/-- In the last minute of the ramp, and after it. -/
theorem rampAt_hot {n : Nat} (late : 1160 ≤ n) : 86 ≤ rampAt n := by
  have bound : (1160 : PyFloat) ≤ n := by exact_mod_cast late
  have progress : (29 / 30 : PyFloat) ≤ min 1 ((n : PyFloat) / 1200) := by
    apply le_min
    · norm_num
    · linarith
  unfold rampAt
  linarith

/-- What is known of every reading that was ever made. -/
structure Sent.Sound (item : Sent) : Prop where
  brake : ∃ value, rawValues .brakePipePressure item.reading.sensors = [value] ∧
    |value - brakeAt item.scenario item.scenarioTick| ≤ 0.1
  igbt : item.reading.locomotiveType = .kz8a →
    ∃ value, rawValues .igbtTemp item.reading.sensors = [value] ∧ 34 ≤ value ∧
      (item.scenario = .degradation → |value - rampAt item.scenarioTick| ≤ 1)
  noIgbt : item.reading.locomotiveType = .te33a → rawValues .igbtTemp item.reading.sensors = []

section

variable {T : Trig} {routes : List Route} {M : PyMath}

/-- What a tick leaves of a locomotive that is not reversing. -/
theorem tick_speed (T : Trig) (draws : Draws) (dt : PyFloat) {s : LocomotiveState}
    (speed : 0 ≤ s.speed) : 0 ≤ (s.tick T draws dt).speed := by
  have transition : 0 ≤ (s.transition draws).speed := by
    by_cases leaves : s.LeavesArrival
    · exact (transition_leavesArrival draws leaves).2.1.ge
    · exact (steady_transition draws leaves).speed speed
  have applied := (steady_applyScenario (s.transition draws)).speed transition
  rcases (move_drive dt (s.transition draws).applyScenario).1 with same | zero
  · exact applied.trans_eq same.symm
  · exact zero.ge

/-- The modules of a ticked locomotive stay above room temperature, and those of an electric
one follow the ramp. -/
theorem ticked_igbt (draws : Draws) (noise : SensorType → Noise) {s : LocomotiveState}
    {t : Internals} (speed : 0 ≤ s.speed) (warm : 35 ≤ t.igbtTemp) :
    let s' := s.tick T draws locoTickSeconds
    35 ≤ (generateSensors M noise s' t).2.igbtTemp ∧ 35 ≤ nextIgbtTemp s' t ∧
      (s'.scenario = .degradation → nextIgbtTemp s' t = rampAt s'.scenarioTick) := by
  intro s'
  obtain ⟨-, override⟩ := tick_overrides T draws locoTickSeconds s
  have next : 35 ≤ nextIgbtTemp s' t := by
    apply nextIgbtTemp_ge (tick_speed T draws locoTickSeconds speed) warm
    intro temp found
    rw [show s'.igbtOverride = _ from override, Option.ite_none_right_eq_some] at found
    obtain ⟨-, found⟩ := found
    cases found
    linarith [rampAt_ge (s.tick T draws locoTickSeconds).scenarioTick]
  refine ⟨?_, next, ?_⟩
  · cases type : s'.locoType with
    | te33a => exact warm.trans_eq (generateSensors_noIgbt M noise t type).2.symm
    | kz8a => exact next.trans_eq (generateSensors_igbt M noise t type).2.symm
  · intro degradation
    unfold nextIgbtTemp
    rw [show s'.igbtOverride = _ from override,
      if_pos (show (s.tick T draws locoTickSeconds).scenario = _ from degradation)]

/-- A reading made in a tick with little noise is sound. -/
theorem makeReading_sound (t : TickDraws) (locoId : UUID) {s : LocomotiveState}
    {internals : Internals} (speed : 0 ≤ s.speed) (warm : 35 ≤ internals.igbtTemp)
    (quiet : |addNoise (t.noise locoId .brakePipePressure) 0 5.1| ≤ 0.1 ∧
      |addNoise (t.noise locoId .igbtTemp) 0 57| ≤ 1) :
    (makeReading M t locoId (s.tick T (t.draws locoId) locoTickSeconds) internals).Sound := by
  obtain ⟨brake, -⟩ := tick_overrides T (t.draws locoId) locoTickSeconds s
  obtain ⟨-, next, ramp⟩ := ticked_igbt (T := T) (M := M) (t.draws locoId) (t.noise locoId)
    speed warm
  refine ⟨?_, ?_, ?_⟩
  · refine ⟨_, generateSensors_brake M (t.noise locoId) _ internals, ?_⟩
    rw [brake, addNoise_eq]
    simpa [makeReading] using quiet.1
  · intro electric
    refine ⟨_, (generateSensors_igbt M (t.noise locoId) internals electric).1, ?_, ?_⟩
    · rw [addNoise_eq]
      linarith [(abs_le.mp quiet.2).1]
    · intro degradation
      rw [addNoise_eq, ramp degradation]
      simpa [makeReading] using quiet.2
  · exact fun diesel => (generateSensors_noIgbt M (t.noise locoId) internals diesel).1

/-! ## The fleet -/

/-- Nothing in the simulator moves backwards or is colder than the room. -/
structure Rig.Physical (r : Rig) : Prop where
  speed : ∀ locoId s, r.fleet.get? locoId = some s → 0 ≤ s.speed
  warm : ∀ locoId, 35 ≤ (r.internals locoId).igbtTemp
  sound : ∀ item ∈ r.sent, item.Sound

theorem updateState_speed {s s' : LocomotiveState} {req : UpdateLocomotive}
    (speed : 0 ≤ s.speed) (updated : updateState T routes s req = .ok s') : 0 ≤ s'.speed := by
  unfold updateState at updated
  cases moved : rerouted routes s req.routeName with
  | error e => rw [moved] at updated; cases updated
  | ok t =>
      rw [moved] at updated
      cases updated
      have same : t.speed = s.speed := by
        unfold rerouted at moved
        split at moved
        · cases moved; rfl
        · split at moved <;> cases moved
          rfl
      show 0 ≤ ((t.setBounds req.startKm req.endKm).setRest req).speed
      rw [setRest_eq]
      cases given : req.speedKmh with
      | none => exact speed.trans_eq same.symm
      | some kmh => exact le_max_left _ _

theorem Rig.Physical.step {r r' : Rig} {event : RigEvent} (h : r.Physical)
    (admitted : Admitted r event) (step : (rig T routes M).step r event r') : r'.Physical := by
  obtain ⟨speed, warm, sound⟩ := h
  cases step with
  | add draws req =>
      unfold Rig.add
      cases added : addLocomotive T routes draws r.fleet req with
      | error e => exact ⟨speed, warm, sound⟩
      | ok fleet =>
          unfold addLocomotive at added
          split at added
          · cases added
          · dsimp only at added
            split at added
            · cases added
            · cases added
              refine ⟨(Dict.forall_set_iff speed _ _).mpr admitted, ?_, sound⟩
              intro locoId
              dsimp only
              rw [Function.update_apply]
              split
              · norm_num
              · exact warm locoId
  | update locoId req =>
      refine ⟨?_, warm, sound⟩
      unfold updateLocomotive
      split
      · exact speed
      case h_2 s found =>
        split
        · exact speed
        case h_2 s' updated =>
          exact (Dict.forall_set_iff speed _ _).mpr
            (updateState_speed (speed locoId s found) updated)
  | remove locoId =>
      refine ⟨?_, warm, sound⟩
      unfold removeLocomotive
      split
      · exact Dict.forall_pop speed locoId
      · exact speed
  | tick t =>
      refine ⟨?_, ?_, ?_⟩
      · intro locoId s found
        simp only [Rig.doTick, Simulator.doTick, Dict.get?_filterValues, Dict.get?_mapValues,
          Option.filter_eq_some_iff, Option.map_eq_some_iff] at found
        obtain ⟨⟨before, found, rfl⟩, -⟩ := found
        exact tick_speed T (t.draws locoId) locoTickSeconds (speed locoId before found)
      · intro locoId
        simp only [Rig.doTick]
        split
        · exact warm locoId
        case h_2 s found =>
          exact (ticked_igbt (t.draws locoId) (t.noise locoId) (speed locoId s found)
            (warm locoId)).1
      · intro item mem
        rcases List.mem_append.mp mem with old | new
        · exact sound item old
        · obtain ⟨⟨locoId, s⟩, entry, rfl⟩ := List.mem_map.mp new
          exact makeReading_sound t locoId (speed locoId s (Dict.get?_eq_some.mpr entry))
            (warm locoId) (admitted locoId)
  | process item stamps mem => exact ⟨speed, warm, sound⟩
  | restart => exact ⟨speed, warm, sound⟩

/-! ## The filters -/

/-- The reading shows a leaking brake pipe. -/
def Sent.leaking (item : Sent) : Bool :=
  item.scenario == .emergency && decide (3 ≤ item.scenarioTick)

/-- Its brake pipe is sound. -/
def Sent.tight (item : Sent) : Bool := item.scenario != .emergency

/-- It shows overheated IGBT modules. -/
def Sent.overheated (item : Sent) : Bool :=
  item.reading.locomotiveType == .kz8a && item.scenario == .degradation &&
    decide (1160 ≤ item.scenarioTick)

/-- How many of the last readings of a locomotive that were processed, in a row, are such. -/
def inARow (log : List (Sent × Processed)) (locoId : UUID) (good : Sent → Bool) : ℕ :=
  streak (fun e => e.1.reading.locomotiveId == locoId) (fun e => good e.1) log

def Rig.filter (r : Rig) (locoId : UUID) (key : SensorType) : Option PyFloat :=
  r.processor.ingest.ema.get? (UUID.str locoId, key)

/-- Where the filters of a locomotive can be after its last readings. -/
structure Filtered (r : Rig) (locoId : UUID) : Prop where
  leaking : ∀ x, r.filter locoId .brakePipePressure = some x →
    x ≤ 4.21 + (1 - 0.2) ^ inARow r.log locoId Sent.leaking * 0.99
  tight : ∀ x, r.filter locoId .brakePipePressure = some x →
    5 - (1 - 0.2) ^ inARow r.log locoId Sent.tight * 3.3 ≤ x
  overheated : ∀ x, r.filter locoId .igbtTemp = some x →
    85 - (1 - 0.15) ^ inARow r.log locoId Sent.overheated * 51 ≤ x

theorem emaGain_brake : emaGain .brakePipePressure = 0.2 := by decide +kernel

theorem emaGain_igbt : emaGain .igbtTemp = 0.15 := by decide +kernel

/-- The filters of a locomotive run over its own readings. -/
theorem filter_process (r : Rig) (item : Sent) (stamps : Stamps) (locoId : UUID)
    (key : SensorType) :
    (r.process M item stamps).filter locoId key =
      if item.reading.locomotiveId = locoId then
        emaFold key (r.filter locoId key) (rawValues key item.reading.sensors)
      else r.filter locoId key := by
  have flat : (r.process M item stamps).processor.ingest =
      (flattenReading r.processor.ingest item.reading).1 := rfl
  unfold Rig.filter
  rw [flat]
  split
  case isTrue own =>
    subst own
    exact flattenReading_ema r.processor.ingest item.reading key
  case isFalse other =>
    have frame : (flattenReading r.processor.ingest item.reading).1.restrict (ownKey locoId) =
        r.processor.ingest.restrict (ownKey locoId) :=
      flattenReading_frame (ownKey_other other) r.processor.ingest
    exact (IngestState.read_of_restrict (ownKey_self locoId key) frame).1

theorem inARow_process (r : Rig) (item : Sent) (stamps : Stamps) (locoId : UUID)
    (good : Sent → Bool) :
    inARow (r.process M item stamps).log locoId good =
      if item.reading.locomotiveId = locoId then
        if good item then inARow r.log locoId good + 1 else 0
      else inARow r.log locoId good := by
  have log : (r.process M item stamps).log =
      r.log ++ [(item, (pipeline M r.processor (item.reading, stamps)).2)] := rfl
  unfold inARow
  rw [log]
  split
  case isTrue own => exact streak_own (by simp [own])
  case isFalse other => exact streak_other (by simp [other])

section

variable {key : SensorType} {prev : Option PyFloat} {z b d : PyFloat} {n : ℕ}

/-- One value through a filter, from above; a filter without state returns the value. -/
theorem emaNext_le (width : 0 ≤ d) (ok : Bool) (within : ok = true → z ≤ b) (near : z ≤ b + d)
    (before : ∀ x, prev = some x → x ≤ b + (1 - emaGain key) ^ n * d) :
    emaNext key prev z ≤ b + (1 - emaGain key) ^ (if ok then n + 1 else 0) * d := by
  obtain ⟨pos, le_one⟩ := emaGain_mem_unit key
  cases prev with
  | some x => exact smooth_le pos.le le_one width ok within near (before x rfl)
  | none =>
      cases ok with
      | true =>
          have rest : 0 ≤ (1 - emaGain key) ^ (n + 1) * d :=
            mul_nonneg (pow_nonneg (sub_nonneg.mpr le_one) _) width
          exact (within rfl).trans (le_add_of_nonneg_right rest)
      | false => simpa [emaNext] using near

theorem le_emaNext (width : 0 ≤ d) (ok : Bool) (within : ok = true → b ≤ z) (near : b - d ≤ z)
    (before : ∀ x, prev = some x → b - (1 - emaGain key) ^ n * d ≤ x) :
    b - (1 - emaGain key) ^ (if ok then n + 1 else 0) * d ≤ emaNext key prev z := by
  obtain ⟨pos, le_one⟩ := emaGain_mem_unit key
  cases prev with
  | some x => exact le_smooth pos.le le_one width ok within near (before x rfl)
  | none =>
      cases ok with
      | true =>
          have rest : 0 ≤ (1 - emaGain key) ^ (n + 1) * d :=
            mul_nonneg (pow_nonneg (sub_nonneg.mpr le_one) _) width
          exact (sub_le_self b rest).trans (within rfl)
      | false => simpa [emaNext] using near

end

/-- A sound reading moves the filters of its locomotive, and no others. -/
theorem Filtered.process {r : Rig} {item : Sent} {locoId : UUID} (h : Filtered r locoId)
    (sound : item.Sound) (stamps : Stamps) : Filtered (r.process M item stamps) locoId := by
  obtain ⟨leaking, tight, overheated⟩ := h
  by_cases own : item.reading.locomotiveId = locoId
  · obtain ⟨value, reported, near⟩ := sound.brake
    have filter := filter_process (M := M) r item stamps locoId .brakePipePressure
    rw [if_pos own, reported] at filter
    obtain ⟨low, high⟩ := brakeAt_mem item.scenario item.scenarioTick
    obtain ⟨above, below⟩ := abs_le.mp near
    refine ⟨?_, ?_, ?_⟩
    · intro x found
      rw [filter] at found
      cases found
      rw [inARow_process, if_pos own]
      rw [← emaGain_brake] at leaking ⊢
      apply emaNext_le (by norm_num) item.leaking _ (by linarith) leaking
      intro leaks
      rw [Sent.leaking, Bool.and_eq_true, beq_iff_eq, decide_eq_true_eq] at leaks
      rw [leaks.1] at below
      linarith [brakeAt_leaking leaks.2]
    · intro x found
      rw [filter] at found
      cases found
      rw [inARow_process, if_pos own]
      rw [← emaGain_brake] at tight ⊢
      apply le_emaNext (by norm_num) item.tight _ (by linarith) tight
      intro closed
      rw [Sent.tight, bne_iff_ne] at closed
      rw [brakeAt, if_neg closed] at above
      linarith
    · intro x found
      rw [inARow_process, if_pos own]
      have filter := filter_process (M := M) r item stamps locoId .igbtTemp
      rw [if_pos own] at filter
      rw [← emaGain_igbt] at overheated ⊢
      cases type : item.reading.locomotiveType with
      | te33a =>
          -- a diesel reading ends the streak and leaves the filter where it is
          have ends : item.overheated = false := by simp [Sent.overheated, type]
          rw [sound.noIgbt type] at filter
          rw [ends]
          have before := overheated x (filter.symm.trans found)
          obtain ⟨pos, le_one⟩ := emaGain_mem_unit .igbtTemp
          have width : (1 - emaGain .igbtTemp) ^ inARow r.log locoId Sent.overheated * 51 ≤ 51 :=
            pow_gain_le pos.le le_one (by norm_num) _
          simp only [Bool.false_eq_true, if_false, pow_zero]
          linarith
      | kz8a =>
          obtain ⟨temp, reported, low, ramp⟩ := sound.igbt type
          rw [filter, reported] at found
          cases found
          apply le_emaNext (by norm_num) item.overheated _ (by linarith) overheated
          intro hot
          rw [Sent.overheated, Bool.and_eq_true, Bool.and_eq_true, beq_iff_eq, beq_iff_eq,
            decide_eq_true_eq] at hot
          obtain ⟨⟨-, degradation⟩, late⟩ := hot
          linarith [(abs_le.mp (ramp degradation)).1, rampAt_hot late]
  · refine ⟨?_, ?_, ?_⟩
    all_goals
      rw [filter_process, if_neg own, inARow_process, if_neg own]
      assumption

/-! ## The alerts -/

/-- A row for the alert stream, of this severity. -/
def Raises (out : Processed) (locoId : UUID) (key : SensorType) (severity : AlertSeverity) : Prop :=
  ∃ record ∈ out.alertRecords,
    record.locomotiveId = locoId ∧ record.sensorType = key ∧ record.severity = severity

/-- What the last reading of a log has led to. -/
structure Verdict (log : List (Sent × Processed)) (item : Sent) (out : Processed) : Prop where
  leaking : 2 ≤ inARow log item.reading.locomotiveId Sent.leaking →
    Raises out item.reading.locomotiveId .brakePipePressure .emergency
  tight : 16 ≤ inARow log item.reading.locomotiveId Sent.tight →
    ∀ record ∈ out.alertRecords, record.sensorType ≠ .brakePipePressure
  overheated : 25 ≤ inARow log item.reading.locomotiveId Sent.overheated →
    Raises out item.reading.locomotiveId .igbtTemp .emergency

section

variable {reading : TelemetryReading} {key : SensorType} {spec : SensorSpec} {value : PyFloat}

/-- A sensor that the AESS mask and the oil rule do not touch is alerted when its value has
left the safe zone. -/
theorem alerted_iff (listed : (locoSpecs reading.locomotiveType).get? key = some spec)
    (present : (sensorMap reading).get? key = some value) (unmasked : key ∉ aessMaskedSensors)
    (notOil : key ≠ .oilPressure) (stamps : AlertStamps) :
    key ∈ (evaluateAlerts stamps reading).map (·.sensorType) ↔
      thresholdViolated value spec = true := by
  rw [mem_evaluateAlerts_iff]
  constructor
  · rintro ⟨spec', value', listed', present', -, -, violated⟩
    rw [listed, Option.some.injEq] at listed'
    rw [present, Option.some.injEq] at present'
    subst listed' present'
    exact violated
  · intro violated
    refine ⟨spec, value, listed, present, ?_, ?_, violated⟩
    · exact fun masked => unmasked masked.2
    · exact fun accepted => notOil accepted.1

/-- The event of such a sensor. -/
theorem alert_of_violated (listed : (locoSpecs reading.locomotiveType).get? key = some spec)
    (present : (sensorMap reading).get? key = some value) (unmasked : key ∉ aessMaskedSensors)
    (notOil : key ≠ .oilPressure) (violated : thresholdViolated value spec = true)
    (stamps : AlertStamps) :
    ∃ event ∈ evaluateAlerts stamps reading, event.locomotiveId = reading.locomotiveId ∧
      event.sensorType = key ∧ event.severity = severityFromSpec value spec := by
  obtain ⟨event, mem, own⟩ := List.mem_map.mp
    ((alerted_iff listed present unmasked notOil stamps).mpr violated)
  obtain ⟨spec', id, listed', ⟨present', -⟩, eq⟩ := mem_alertLoop_event mem
  rw [own, ← Dict.get?_eq_some, listed, Option.some.injEq] at listed'
  rw [own, present, Option.some.injEq] at present'
  refine ⟨event, mem, congrArg AlertEvent.locomotiveId eq, own, ?_⟩
  rw [listed', present']
  exact congrArg AlertEvent.severity eq

end

/-- The specification of the IGBT temperature. -/
def igbtSpec : SensorSpec :=
  { weight := 30, pNom := 57, deltaSafe := 18, pCrit := 85, thresholdType := .upperBound,
    isAgingParam := true, montsingerRefTemp := 57 }

theorem brakeSpec_listed (type : LocomotiveType) :
    (locoSpecs type).get? .brakePipePressure = some brakePipeSpec := by
  cases type <;> rfl

theorem brake_violated_iff (value : PyFloat) :
    thresholdViolated value brakePipeSpec = true ↔ value < 4.9 := by
  simp only [thresholdViolated, brakePipeSpec]
  norm_num

/-- The brake pipe weighs so much that every alert of it is an emergency. -/
theorem brake_severity (value : PyFloat) : severityFromSpec value brakePipeSpec = .emergency := by
  unfold severityFromSpec
  dsimp only
  rw [if_pos]
  right
  norm_num [brakePipeSpec]

/-- From 84 degrees on. -/
theorem igbt_severity {value : PyFloat} (hot : 84 ≤ value) :
    thresholdViolated value igbtSpec = true ∧ severityFromSpec value igbtSpec = .emergency := by
  have range : igbtSpec.critRange = 10 := by decide +kernel
  constructor
  · apply decide_eq_true
    show 57 + 18 < value
    linarith
  · unfold severityFromSpec
    dsimp only
    rw [if_pos]
    left
    rw [range, if_pos (by norm_num)]
    have deviation : max 0 (value - 57) = value - 57 := max_eq_right (by linarith)
    have exceedance : max 0 (value - 57 - 18) = value - 75 := by
      rw [max_eq_right (by linarith)]
      ring
    simp only [igbtSpec, deviation, exceedance]
    apply le_min
    · norm_num
    · linarith

/-- What the evaluator sees of a sensor with one raw value is its filter. -/
theorem mutated_value (r : Rig) (item : Sent) (stamps : Stamps) (key : SensorType)
    {value : PyFloat} (reported : rawValues key item.reading.sensors = [value]) :
    ∃ x, (sensorMap (pipeline M r.processor (item.reading, stamps)).2.reading).get? key = some x ∧
      (r.process M item stamps).filter item.reading.locomotiveId key = some x := by
  have seen := flattenReading_value r.processor.ingest item.reading key
  have filter := filter_process (M := M) r item stamps item.reading.locomotiveId key
  rw [reported, if_neg (List.cons_ne_nil _ _)] at seen
  rw [if_pos rfl, reported] at filter
  exact ⟨_, seen, filter⟩

theorem Filtered.verdict {r : Rig} {item : Sent} {stamps : Stamps}
    (h : Filtered (r.process M item stamps) item.reading.locomotiveId) (sound : item.Sound) :
    Verdict (r.process M item stamps).log item
      (pipeline M r.processor (item.reading, stamps)).2 := by
  obtain ⟨brake, reported, -⟩ := sound.brake
  obtain ⟨x, seen, filter⟩ := mutated_value (M := M) r item stamps .brakePipePressure reported
  have igbtSeen (temp : PyFloat)
      (reported : rawValues .igbtTemp item.reading.sensors = [temp]) :=
    mutated_value (M := M) r item stamps .igbtTemp reported
  have type : (pipeline M r.processor (item.reading, stamps)).2.reading.locomotiveType =
      item.reading.locomotiveType := rfl
  have raises : ∀ event ∈ evaluateAlerts stamps.alerts
      (pipeline M r.processor (item.reading, stamps)).2.reading,
      Raises (pipeline M r.processor (item.reading, stamps)).2 event.locomotiveId
        event.sensorType event.severity :=
    fun event mem => ⟨_, List.mem_map_of_mem mem, rfl, rfl, rfl⟩
  have raised : ∀ record ∈ (pipeline M r.processor (item.reading, stamps)).2.alertRecords,
      record.sensorType ∈ (evaluateAlerts stamps.alerts
        (pipeline M r.processor (item.reading, stamps)).2.reading).map (·.sensorType) := by
    intro record mem
    obtain ⟨event, found, rfl⟩ := List.mem_map.mp mem
    exact List.mem_map_of_mem found
  have own : (pipeline M r.processor (item.reading, stamps)).2.reading.locomotiveId =
      item.reading.locomotiveId := rfl
  generalize (pipeline M r.processor (item.reading, stamps)).2 = out at *
  have unmasked : SensorType.brakePipePressure ∉ aessMaskedSensors := by decide
  have notOil : SensorType.brakePipePressure ≠ .oilPressure := by decide
  have listed := brakeSpec_listed out.reading.locomotiveType
  refine ⟨?_, ?_, ?_⟩
  · intro long
    have near : (1 - 0.2 : PyFloat) ^ inARow (r.process M item stamps).log
        item.reading.locomotiveId Sent.leaking ≤ (1 - 0.2) ^ 2 :=
      pow_le_pow_of_le_one (by norm_num) (by norm_num) long
    have low : x < 4.9 := by
      have bound := h.leaking x filter
      norm_num at bound near ⊢
      linarith
    obtain ⟨event, mem, loco, sensor, severity⟩ := alert_of_violated listed seen unmasked notOil
      ((brake_violated_iff x).mpr low) stamps.alerts
    have row := raises event mem
    rwa [loco, own, sensor, severity, brake_severity] at row
  · intro long record mem same
    have near : (1 - 0.2 : PyFloat) ^ inARow (r.process M item stamps).log
        item.reading.locomotiveId Sent.tight ≤ (1 - 0.2) ^ 16 :=
      pow_le_pow_of_le_one (by norm_num) (by norm_num) long
    have high : ¬ x < 4.9 := by
      have bound := h.tight x filter
      norm_num at bound near ⊢
      linarith
    apply high
    rw [← brake_violated_iff, ← alerted_iff listed seen unmasked notOil stamps.alerts, ← same]
    exact raised record mem
  · intro long
    have electric : item.reading.locomotiveType = .kz8a := by
      by_contra diesel
      rw [inARow_process, if_pos rfl] at long
      have ends : item.overheated = false := by simp [Sent.overheated, diesel]
      simp [ends] at long
    obtain ⟨temp, reported, -, -⟩ := sound.igbt electric
    obtain ⟨x, seen, filter⟩ := igbtSeen temp reported
    have near : (1 - 0.15 : PyFloat) ^ inARow (r.process M item stamps).log
        item.reading.locomotiveId Sent.overheated ≤ (1 - 0.15) ^ 25 :=
      pow_le_pow_of_le_one (by norm_num) (by norm_num) long
    have hot : 84 ≤ x := by
      have bound := h.overheated x filter
      norm_num at bound near ⊢
      linarith
    obtain ⟨violated, emergency⟩ := igbt_severity hot
    have listed : (locoSpecs out.reading.locomotiveType).get? .igbtTemp = some igbtSpec := by
      rw [type, electric]
      rfl
    obtain ⟨event, mem, loco, sensor, severity⟩ := alert_of_violated listed seen (by decide)
      (by decide) violated stamps.alerts
    have row := raises event mem
    rwa [loco, own, sensor, severity, emergency] at row

/-! ## Whole runs -/

/-- A processor that has just started. -/
theorem filtered_of_empty {r : Rig} (empty : r.processor = .empty) (locoId : UUID) :
    Filtered r locoId := by
  have none (key : SensorType) : r.filter locoId key = none := by
    rw [Rig.filter, empty]
    rfl
  refine ⟨?_, ?_, ?_⟩
  all_goals
    intro x found
    rw [none] at found
    cases found

theorem Filtered.step {r r' : Rig} {event : RigEvent} (physical : r.Physical)
    (h : ∀ locoId, Filtered r locoId) (step : (rig T routes M).step r event r') :
    ∀ locoId, Filtered r' locoId := by
  intro locoId
  obtain ⟨leaking, tight, overheated⟩ := h locoId
  cases step with
  | process item stamps mem => exact (h locoId).process (physical.sound item mem) stamps
  | restart => exact filtered_of_empty rfl locoId
  | add draws req =>
      unfold Rig.add
      split <;> exact ⟨leaking, tight, overheated⟩
  | update id req => exact ⟨leaking, tight, overheated⟩
  | remove id => exact ⟨leaking, tight, overheated⟩
  | tick t => exact ⟨leaking, tight, overheated⟩

/-- Every reading that was processed has led to what it should, given those before it. -/
def Drilled (log : List (Sent × Processed)) : Prop :=
  ∀ before item out after, log = before ++ (item, out) :: after →
    Verdict (before ++ [(item, out)]) item out

theorem Drilled.concat {log : List (Sent × Processed)} {item : Sent} {out : Processed}
    (h : Drilled log) (last : Verdict (log ++ [(item, out)]) item out) :
    Drilled (log ++ [(item, out)]) := by
  intro before item' out' after whole
  rcases List.eq_nil_or_concat after with rfl | ⟨rest, final, rfl⟩
  · obtain ⟨rfl, same⟩ := List.append_inj' whole rfl
    cases same
    exact last
  · rw [List.concat_eq_append, ← List.cons_append, ← List.append_assoc] at whole
    exact h before item' out' rest (List.append_inj' whole rfl).1

/-- What every reachable state keeps. -/
structure Inv (r : Rig) : Prop where
  physical : r.Physical
  filtered : ∀ locoId, Filtered r locoId
  drilled : Drilled r.log

theorem Inv.step {r r' : Rig} {event : RigEvent} (h : Inv r) (admitted : Admitted r event)
    (step : (rig T routes M).step r event r') : Inv r' := by
  have filtered := Filtered.step h.physical h.filtered step
  refine ⟨h.physical.step admitted step, filtered, ?_⟩
  cases step with
  | process item stamps mem =>
      exact h.drilled.concat ((filtered item.reading.locomotiveId).verdict
        (h.physical.sound item mem))
  | restart => exact h.drilled
  | add draws req =>
      unfold Rig.add
      split <;> exact h.drilled
  | update id req => exact h.drilled
  | remove id => exact h.drilled
  | tick t => exact h.drilled

end

/-! ## A drill -/

end LocoTwin.Drills
