/-
# Simulator.Removal -- who is dropped from the fleet

`_do_tick` drops a locomotive that has `arrived` and whose policy is REMOVE.  The flag is
latched: STOP sets it as REMOVE does, and no update clears it.  Under REMOVE it is set in
the tick that drops the locomotive, so a latched flag is one of an earlier STOP.

A history is the list of all calls.  A removal is deserved when the locomotive reached its
end under REMOVE in some tick, and has had the same trip since.

* `removed_iff`: whom a tick drops;
* `removal_deserved_iff`: the removals of a history are all deserved exactly when no tick
  finds a latched flag under REMOVE, but for one that the tick would set anyway;
* `removed_at_start`: a locomotive that stopped long ago is dropped where it stands.
-/
import LocoTwin.Simulator.Position

namespace LocoTwin.Simulator

open LocoTwin.Lib LocoTwin.Shared LocomotiveState

set_option autoImplicit false

/-- What is called on a runner. -/
inductive RunnerCall where
  | add (draws : Draws) (req : AddLocomotive)
  | update (locoId : UUID) (req : UpdateLocomotive)
  | remove (locoId : UUID)
  | doTick (draws : UUID → Draws)

section

variable (T : Trig) (routes : List Route)

def Fleet.runnerCall (fleet : Fleet) : RunnerCall → Fleet
  | .add draws req => fleet.after (addLocomotive T routes draws fleet req)
  | .update locoId req => fleet.after (updateLocomotive T routes fleet locoId req)
  | .remove locoId => fleet.after (removeLocomotive fleet locoId)
  | .doTick draws => doTick T draws fleet

/-- The fleet after these calls, from an empty one. -/
def fleetAfter (calls : List RunnerCall) : Fleet :=
  calls.foldl (Fleet.runnerCall T routes) Dict.empty

/-- Route, start, end and policy. -/
structure SameTrip (s s' : LocomotiveState) : Prop where
  route : s'.route = s.route
  startDistanceM : s'.startDistanceM = s.startDistanceM
  endDistanceM : s'.endDistanceM = s.endDistanceM
  onArrival : s'.onArrival = s.onArrival

/-- The call leaves the locomotive with a trip that it did not have before, be it new in the
fleet. -/
def ChangesTrip (fleet : Fleet) (locoId : UUID) (call : RunnerCall) : Prop :=
  ∃ s', (fleet.runnerCall T routes call).get? locoId = some s' ∧
    ∀ s, fleet.get? locoId = some s → ¬ SameTrip s s'

/-- In the tick the locomotive reaches `end_distance_m`, moving forward under REMOVE. -/
def ReachesUnderRemove (fleet : Fleet) (locoId : UUID) (draws : UUID → Draws) : Prop :=
  ∃ s, fleet.get? locoId = some s ∧ s.onArrival = .remove ∧
    (s.transition (draws locoId)).applyScenario.ReachesEnd locoTickSeconds

/-- At some tick of the history the locomotive reached its end under REMOVE, and its trip
has not changed since. -/
def Deserved (calls : List RunnerCall) (locoId : UUID) : Prop :=
  ∃ pre draws post, calls = pre ++ .doTick draws :: post ∧
    ReachesUnderRemove (fleetAfter T routes pre) locoId draws ∧
    ∀ since call rest, post = since ++ call :: rest →
      ¬ ChangesTrip T routes (fleetAfter T routes (pre ++ .doTick draws :: since)) locoId call

/-- Every locomotive that a tick of the history deletes has deserved it. -/
def RemovalsDeserved (calls : List RunnerCall) : Prop :=
  ∀ pre draws post locoId, calls = pre ++ .doTick draws :: post →
    (fleetAfter T routes pre).get? locoId ≠ none →
    (fleetAfter T routes (pre ++ [.doTick draws])).get? locoId = none →
    Deserved T routes (pre ++ [.doTick draws]) locoId

/-- The tick finds no locomotive that has arrived before under REMOVE, unless it reaches its
end in this tick too. -/
def NoneLatched (fleet : Fleet) (draws : UUID → Draws) : Prop :=
  ∀ locoId s, fleet.get? locoId = some s → s.arrived = true → s.onArrival = .remove →
    (s.transition (draws locoId)).applyScenario.ReachesEnd locoTickSeconds

end

/-! ## One tick -/

namespace LocomotiveState

/-- A tick latches the flag at the end of a one-shot trip, and never clears it. -/
theorem move_arrived (dt : PyFloat) (s : LocomotiveState) :
    (s.move dt).onArrival = s.onArrival ∧
      ((s.move dt).arrived = true ↔
        s.arrived = true ∨ s.onArrival ≠ .loop ∧ s.ReachesEnd dt) := by
  rcases move_cases dt s with ⟨reached, atEnd⟩ | ⟨short, -, atStart⟩ | ⟨short, distanceM, -, moved⟩
  · rw [atEnd]
    unfold onSegmentBoundHit
    cases s.onArrival <;> simp [reached]
  · rw [atStart]
    unfold onSegmentBoundHit
    cases s.onArrival <;> simp [short]
  · rw [moved]
    simp [short]

theorem tick_arrived (T : Trig) (draws : Draws) (dt : PyFloat) (s : LocomotiveState) :
    (s.tick T draws dt).onArrival = s.onArrival ∧
      ((s.tick T draws dt).arrived = true ↔ s.arrived = true ∨
        s.onArrival ≠ .loop ∧ (s.transition draws).applyScenario.ReachesEnd dt) := by
  have place := (samePlace_transition draws s).trans (steady_applyScenario _).toSamePlace
  obtain ⟨policy, arrived⟩ := move_arrived dt (s.transition draws).applyScenario
  rw [place.onArrival, place.arrived] at arrived
  exact ⟨policy.trans place.onArrival, arrived⟩

end LocomotiveState

section

variable {T : Trig} {routes : List Route} {fleet : Fleet} {locoId : UUID}

/-- **Whom a tick drops.** -/
theorem removed_iff (draws : UUID → Draws) {s : LocomotiveState}
    (found : fleet.get? locoId = some s) :
    (doTick T draws fleet).get? locoId = none ↔ s.onArrival = .remove ∧
      (s.arrived = true ∨
        (s.transition (draws locoId)).applyScenario.ReachesEnd locoTickSeconds) := by
  obtain ⟨policy, arrived⟩ := tick_arrived T (draws locoId) locoTickSeconds s
  unfold doTick
  rw [Dict.get?_filterValues, Dict.get?_mapValues, found, Option.map_some,
    Option.filter_eq_none_iff]
  constructor
  · intro dropped
    have both : (s.tick T (draws locoId) locoTickSeconds).arrived = true ∧
        s.onArrival = .remove := by
      simpa [policy] using dropped
    refine ⟨both.2, ?_⟩
    exact (arrived.mp both.1).imp_right And.right
  · rintro ⟨remove, latched⟩
    have gone : (s.tick T (draws locoId) locoTickSeconds).arrived = true := by
      apply arrived.mpr
      refine latched.imp_right fun reached => ⟨?_, reached⟩
      rw [remove]
      decide
    simp [policy, gone, remove]

/-! ## Histories -/

theorem fleetAfter_snoc (calls : List RunnerCall) (call : RunnerCall) :
    fleetAfter T routes (calls ++ [call]) =
      (fleetAfter T routes calls).runnerCall T routes call := by
  unfold fleetAfter
  rw [List.foldl_append]
  rfl

/-- A locomotive that is gone stays gone until it has a trip again. -/
theorem absent_until_changed {pre post : List RunnerCall}
    (absent : (fleetAfter T routes pre).get? locoId = none)
    (same : ∀ since call rest, post = since ++ call :: rest →
      ¬ ChangesTrip T routes (fleetAfter T routes (pre ++ since)) locoId call) :
    (fleetAfter T routes (pre ++ post)).get? locoId = none := by
  induction post using List.reverseRecOn with
  | nil =>
      rw [List.append_nil]
      exact absent
  | append_singleton post call ih =>
      have before : (fleetAfter T routes (pre ++ post)).get? locoId = none := by
        apply ih
        rintro since c rest rfl
        exact same since c (rest ++ [call]) (by simp)
      have unchanged := same post call [] rfl
      rw [← List.append_assoc, fleetAfter_snoc, ← Option.not_isSome_iff_eq_none]
      intro there
      obtain ⟨s', found⟩ := Option.isSome_iff_exists.mp there
      refine unchanged ⟨s', found, ?_⟩
      intro s found'
      cases before.symm.trans found'

/-- A removal is deserved exactly by the tick that makes it: what reaches its end under
REMOVE is dropped at once. -/
theorem deserved_iff {pre : List RunnerCall} {draws : UUID → Draws} {s : LocomotiveState}
    (found : (fleetAfter T routes pre).get? locoId = some s) :
    Deserved T routes (pre ++ [.doTick draws]) locoId ↔
      ReachesUnderRemove (fleetAfter T routes pre) locoId draws := by
  constructor
  · rintro ⟨first, draws', post, split, reached, same⟩
    cases post using List.reverseRecOn with
    | nil =>
        obtain ⟨rfl, last⟩ := List.append_inj' split rfl
        cases last
        exact reached
    | append_singleton post call =>
        -- it was dropped in the earlier tick, and is not back
        have split' : pre ++ [.doTick draws] = (first ++ [.doTick draws'] ++ post) ++ [call] := by
          simpa using split
        obtain ⟨rfl, -⟩ := List.append_inj' split' rfl
        obtain ⟨t, foundT, remove, atEnd⟩ := reached
        have dropped : (fleetAfter T routes (first ++ [.doTick draws'])).get? locoId = none := by
          rw [fleetAfter_snoc]
          exact (removed_iff draws' foundT).mpr ⟨remove, .inr atEnd⟩
        have unchanged : ∀ since c rest, post = since ++ c :: rest →
            ¬ ChangesTrip T routes (fleetAfter T routes (first ++ [.doTick draws'] ++ since))
              locoId c := by
          rintro since c rest rfl
          have := same since c (rest ++ [call]) (by simp)
          simpa using this
        have gone := absent_until_changed dropped unchanged
        cases gone.symm.trans found
  · intro reached
    refine ⟨pre, draws, [], rfl, reached, ?_⟩
    intro since call rest split
    exact absurd split (by simp)

/-- **No premature removal, exactly**: for any calls on an empty fleet and whatever is
drawn. -/
theorem removal_deserved_iff (T : Trig) (routes : List Route) (calls : List RunnerCall) :
    RemovalsDeserved T routes calls ↔
      ∀ pre draws post, calls = pre ++ .doTick draws :: post →
        NoneLatched (fleetAfter T routes pre) draws := by
  constructor
  · intro deserved pre draws post split locoId s found latched remove
    have gone : (fleetAfter T routes (pre ++ [.doTick draws])).get? locoId = none := by
      rw [fleetAfter_snoc]
      exact (removed_iff draws found).mpr ⟨remove, .inl latched⟩
    have there : (fleetAfter T routes pre).get? locoId ≠ none := by
      rw [found]
      exact Option.some_ne_none s
    obtain ⟨t, foundT, -, reached⟩ :=
      (deserved_iff found).mp (deserved pre draws post locoId split there gone)
    cases found.symm.trans foundT
    exact reached
  · intro noneLatched pre draws post locoId split there gone
    obtain ⟨s, found⟩ := Option.ne_none_iff_exists'.mp there
    rw [fleetAfter_snoc] at gone
    obtain ⟨remove, latched | reached⟩ := (removed_iff draws found).mp gone
    · have reached := noneLatched pre draws post split locoId s found latched remove
      exact (deserved_iff found).mpr ⟨s, found, remove, reached⟩
    · exact (deserved_iff found).mpr ⟨s, found, remove, reached⟩

end

/-- A locomotive on the first 10 m, with STOP. -/
def shortTrip : RunnerCall :=
  .add calm
    { locoId := 1, locoType := .te33a, routeName := "Equator", endKm := some (1 / 100)
      onArrival := .stop, initialSpeedKmh := 72 }

/-- It stops at its end, gets a new segment from kilometre 50 to kilometre 60 with REMOVE,
and is dropped in the next tick, where it stands. -/
def restarted : List RunnerCall :=
  [shortTrip, .doTick fun _ => calm,
    .update 1 { startKm := some 50, endKm := some 60, onArrival := some .remove }]

theorem removed_at_start :
    ¬ RemovalsDeserved smallAngles [equator] (restarted ++ [.doTick fun _ => calm]) := by
  intro deserved
  have before : ((fleetAfter smallAngles [equator] restarted).get? 1).map
      (fun s => (s.distanceM, s.endDistanceM,
        decide ((s.transition calm).applyScenario.ReachesEnd locoTickSeconds))) =
        some (50000, 60000, false) ∧
      ((fleetAfter smallAngles [equator] (restarted ++ [.doTick fun _ => calm])).get? 1).isNone := by
    decide +kernel
  obtain ⟨s, found, values⟩ := Option.map_eq_some_iff.mp before.1
  have gone := Option.isNone_iff_eq_none.mp before.2
  have there : (fleetAfter smallAngles [equator] restarted).get? 1 ≠ none := by
    rw [found]
    exact Option.some_ne_none s
  obtain ⟨t, foundT, -, reached⟩ :=
    (deserved_iff found).mp (deserved restarted _ [] 1 rfl there gone)
  cases found.symm.trans foundT
  have short := (Prod.mk.inj (Prod.mk.inj values).2).2
  exact of_decide_eq_false short reached

end LocoTwin.Simulator
