/-
# Simulator.UpdateFrame -- an update changes what it is given

`update_locomotive` takes nine optional arguments, and the dashboard sends most of them on
every edit, changed or not.  An argument that repeats the current value should do nothing
(`PartialUpdate`).  Three do something: the route resets the segment and the position, the
mode its count, and the speed is cut at 0.

* `update_frame_iff`: an update leaves the rest alone exactly when those three find nothing
  to change (`Harmless`);
* `same_route_moves`: the current route, given again, moves the locomotive to the start.
-/
import LocoTwin.Simulator.Position

namespace LocoTwin.Simulator

open LocoTwin.Lib LocoTwin.Shared LocomotiveState

set_option autoImplicit false

/-- The argument is given, with a value that is not the current one. -/
def Changing {α : Type} (given : Option α) (current : α) : Prop :=
  ∃ value, given = some value ∧ value ≠ current

instance {α : Type} [DecidableEq α] (given : Option α) (current : α) :
    Decidable (Changing given current) :=
  decidable_of_iff (given.any fun value => decide (value ≠ current)) (by
    cases given <;> simp [Changing])

theorem not_changing_iff {α : Type} {given : Option α} {current : α} :
    ¬ Changing given current ↔ given = none ∨ given = some current := by
  cases given with
  | none => simp [Changing]
  | some value => simp [Changing]

theorem getD_of_not_changing {α : Type} {given : Option α} {current : α}
    (same : ¬ Changing given current) : given.getD current = current := by
  rcases not_changing_iff.mp same with none' | some'
  · rw [none']
    rfl
  · rw [some']
    rfl

/-- `start_km` or `end_km`, in metres. -/
def metres (km : Option PyFloat) : Option PyFloat := km.map (· * 1000)

/-- None of the three arguments about the place changes. -/
def PlaceKept (s : LocomotiveState) (req : UpdateLocomotive) : Prop :=
  ¬ Changing req.routeName s.route.name ∧ ¬ Changing (metres req.startKm) s.startDistanceM ∧
    ¬ Changing (metres req.endKm) s.endDistanceM

/-- Each field of a locomotive changes only if its argument does. -/
structure PartialUpdate (req : UpdateLocomotive) (s s' : LocomotiveState) : Prop where
  place : PlaceKept s req →
    s'.route = s.route ∧ s'.startDistanceM = s.startDistanceM ∧
      s'.endDistanceM = s.endDistanceM ∧ s'.distanceM = s.distanceM
  mode : ¬ Changing req.mode s.mode → s'.mode = s.mode ∧ s'.modeTicks = s.modeTicks
  scenario : ¬ Changing req.scenario s.scenario →
    s'.scenario = s.scenario ∧ s'.scenarioTick = s.scenarioTick ∧
      s'.igbtOverride = s.igbtOverride ∧ s'.brakeOverride = s.brakeOverride
  onArrival : ¬ Changing req.onArrival s.onArrival → s'.onArrival = s.onArrival
  autoMode : ¬ Changing req.autoMode s.autoMode → s'.autoMode = s.autoMode
  speed : ¬ Changing req.speedKmh s.speed → s'.speed = s.speed
  name : ¬ Changing req.name s.name → s'.name = s.name
  forward : s'.forward = s.forward
  arrived : s'.arrived = s.arrived

/-- What `update_locomotive` may do to a fleet. -/
structure FrameKept (T : Trig) (routes : List Route) (fleet : Fleet) (locoId : UUID)
    (req : UpdateLocomotive) : Prop where
  fields : ∀ s s', fleet.get? locoId = some s →
    (fleet.call T routes (.update locoId req)).get? locoId = some s' → PartialUpdate req s s'
  others : ∀ other, other ≠ locoId →
    (fleet.call T routes (.update locoId req)).get? other = fleet.get? other
  raised : ∀ e, updateLocomotive T routes fleet locoId req = .error e →
    fleet.call T routes (.update locoId req) = fleet

/-- Where the arguments about the place repeat the current values, they leave it alone: a
given route is the locomotive's and has nothing to reset, and a given start is none that is
cut at 0. -/
structure PlaceHarmless (routes : List Route) (s : LocomotiveState) (req : UpdateLocomotive) :
    Prop where
  route : ∀ route, req.routeName = some s.route.name → getRoute routes s.route.name = some route →
    route = s.route ∧ s.distanceM = s.startDistanceM ∧
      (req.startKm = none → s.startDistanceM = 0) ∧
      (req.endKm = none → s.endDistanceM = s.route.lengthM)
  start : req.startKm ≠ none → 0 ≤ s.startDistanceM

/-- The arguments that repeat the current values have no effect. -/
structure Harmless (routes : List Route) (s : LocomotiveState) (req : UpdateLocomotive) :
    Prop where
  place : PlaceKept s req → PlaceHarmless routes s req
  mode : req.mode = some s.mode → s.modeTicks = 0
  speed : req.speedKmh = some s.speed → 0 ≤ s.speed

/-! ## What an update computes -/

namespace LocomotiveState

/-- Every field of `setRest`, in one equation. -/
theorem setRest_eq (s : LocomotiveState) (req : UpdateLocomotive) :
    s.setRest req =
      { s with
        mode := req.mode.getD s.mode
        modeTicks := if req.mode.isSome then 0 else s.modeTicks
        scenario := req.scenario.getD s.scenario
        scenarioTick := if Changing req.scenario s.scenario then 0 else s.scenarioTick
        igbtOverride :=
          if Changing req.scenario s.scenario ∧ req.scenario = some .normal then none
          else s.igbtOverride
        brakeOverride :=
          if Changing req.scenario s.scenario ∧ req.scenario = some .normal then none
          else s.brakeOverride
        onArrival := req.onArrival.getD s.onArrival
        autoMode := req.autoMode.getD s.autoMode
        speed := (req.speedKmh.map (max 0)).getD s.speed
        name := req.name.getD s.name } := by
  have mode (s : LocomotiveState) : s.setMode req.mode =
      { s with
        mode := req.mode.getD s.mode
        modeTicks := if req.mode.isSome then 0 else s.modeTicks } := by
    cases req.mode <;> rfl
  unfold setRest
  rw [mode]
  cases given : req.scenario with
  | none => cases req.speedKmh <;> simp [setScenario, Changing]
  | some scenario =>
      by_cases same : scenario = s.scenario
      · cases req.speedKmh <;> simp [setScenario, Changing, same]
      · by_cases normal : scenario = .normal
        · subst normal
          cases req.speedKmh <;> simp [setScenario, Changing, same]
        · cases req.speedKmh <;> simp [setScenario, Changing, same, normal]

end LocomotiveState

section

variable {T : Trig} {routes : List Route} {s s' : LocomotiveState} {req : UpdateLocomotive}

theorem updateState_eq (updated : updateState T routes s req = .ok s') :
    ∃ t, rerouted routes s req.routeName = .ok t ∧
      s' = ((t.setBounds req.startKm req.endKm).setRest req).refreshPose T := by
  unfold updateState at updated
  cases moved : rerouted routes s req.routeName with
  | error e => simp [moved] at updated
  | ok t =>
      rw [moved] at updated
      cases updated
      exact ⟨t, rfl, rfl⟩

theorem rerouted_eq {routeName : Option String} {t : LocomotiveState}
    (moved : rerouted routes s routeName = .ok t) :
    (routeName = none ∧ t = s) ∨ ∃ name route, routeName = some name ∧
      getRoute routes name = some route ∧ t = s.setRoute route := by
  cases routeName with
  | none =>
      cases moved
      exact .inl ⟨rfl, rfl⟩
  | some name =>
      right
      unfold rerouted at moved
      dsimp only at moved
      cases found : getRoute routes name with
      | none => simp [found] at moved
      | some route =>
          rw [found] at moved
          cases moved
          exact ⟨name, route, rfl, found, rfl⟩

theorem not_changing_metres {km : Option PyFloat} {current : PyFloat} :
    ¬ Changing (metres km) current ↔ km = none ∨ ∃ k, km = some k ∧ k * 1000 = current := by
  rw [not_changing_iff]
  cases km <;> simp [metres]

/-- The locomotive is in its segment, and the segment ends on the route. -/
structure InOrder (s : LocomotiveState) : Prop where
  low : s.startDistanceM ≤ s.distanceM
  high : s.distanceM ≤ s.endDistanceM
  stop : s.endDistanceM ≤ s.route.lengthM

/-- Start and end that repeat the current values keep the place, but for a start below 0. -/
theorem setBounds_kept_iff (h : InOrder s) {startKm endKm : Option PyFloat}
    (start : ¬ Changing (metres startKm) s.startDistanceM)
    (stop : ¬ Changing (metres endKm) s.endDistanceM) :
    ((s.setBounds startKm endKm).startDistanceM = s.startDistanceM ∧
      (s.setBounds startKm endKm).endDistanceM = s.endDistanceM ∧
      (s.setBounds startKm endKm).distanceM = s.distanceM) ↔
      (startKm ≠ none → 0 ≤ s.startDistanceM) := by
  obtain ⟨low, high, length⟩ := h
  have kept : max s.startDistanceM (min s.distanceM s.endDistanceM) = s.distanceM := by
    rw [min_eq_left high, max_eq_right low]
  have ended : max s.startDistanceM (min s.endDistanceM s.route.lengthM) = s.endDistanceM := by
    rw [min_eq_left length, max_eq_right (low.trans high)]
  have started : min s.startDistanceM s.route.lengthM = s.startDistanceM :=
    min_eq_left (low.trans (high.trans length))
  rcases not_changing_metres.mp start with rfl | ⟨k, rfl, k_eq⟩
  · refine iff_of_true ?_ fun given => absurd rfl given
    rcases not_changing_metres.mp stop with rfl | ⟨l, rfl, l_eq⟩
    · exact ⟨rfl, rfl, kept⟩
    · simp only [setBounds, l_eq, ended, kept, true_and]
  · simp only [setBounds, k_eq, started]
    constructor
    · rintro ⟨same, -, -⟩ -
      exact max_eq_right_iff.mp same
    · intro nonneg
      have zero : max 0 s.startDistanceM = s.startDistanceM :=
        max_eq_right (nonneg (Option.some_ne_none k))
      rw [zero]
      rcases not_changing_metres.mp stop with rfl | ⟨l, rfl, l_eq⟩
      · exact ⟨rfl, rfl, kept⟩
      · simp only [l_eq, ended, kept, true_and]

/-- The current route, given again, resets the place; start and end put it back, but for the
position, where they are given. -/
theorem setRoute_kept_iff (h : InOrder s) {startKm endKm : Option PyFloat}
    (start : ¬ Changing (metres startKm) s.startDistanceM)
    (stop : ¬ Changing (metres endKm) s.endDistanceM) :
    (((s.setRoute s.route).setBounds startKm endKm).startDistanceM = s.startDistanceM ∧
      ((s.setRoute s.route).setBounds startKm endKm).endDistanceM = s.endDistanceM ∧
      ((s.setRoute s.route).setBounds startKm endKm).distanceM = s.distanceM) ↔
      (s.distanceM = s.startDistanceM ∧ (startKm = none → s.startDistanceM = 0) ∧
        (endKm = none → s.endDistanceM = s.route.lengthM)) ∧
      (startKm ≠ none → 0 ≤ s.startDistanceM) := by
  obtain ⟨low, high, length⟩ := h
  have segment : s.startDistanceM ≤ s.endDistanceM := low.trans high
  have ended : max s.startDistanceM (min s.endDistanceM s.route.lengthM) = s.endDistanceM := by
    rw [min_eq_left length, max_eq_right segment]
  have started : min s.startDistanceM s.route.lengthM = s.startDistanceM :=
    min_eq_left (segment.trans length)
  -- the position is the start again, once the bounds are
  have reset {lo hi : PyFloat} (lo_eq : lo = s.startDistanceM) (hi_eq : hi = s.endDistanceM)
      (nonneg : 0 ≤ s.startDistanceM) : max lo (min 0 hi) = s.startDistanceM := by
    rw [lo_eq, hi_eq, min_eq_left (nonneg.trans segment), max_eq_left nonneg]
  have bounds : ((s.setRoute s.route).setBounds startKm endKm).startDistanceM = s.startDistanceM ↔
      (startKm = none → s.startDistanceM = 0) ∧ (startKm ≠ none → 0 ≤ s.startDistanceM) := by
    rcases not_changing_metres.mp start with rfl | ⟨k, rfl, k_eq⟩
    · simp [setBounds, setRoute, eq_comm]
    · simp [setBounds, setRoute, k_eq, started]
  have stops (lo_eq : ((s.setRoute s.route).setBounds startKm endKm).startDistanceM =
      s.startDistanceM) :
      ((s.setRoute s.route).setBounds startKm endKm).endDistanceM = s.endDistanceM ↔
      (endKm = none → s.endDistanceM = s.route.lengthM) := by
    rcases not_changing_metres.mp stop with rfl | ⟨l, rfl, l_eq⟩
    · simp [setBounds, setRoute, eq_comm]
    · refine iff_of_true ?_ (fun none' => nomatch none')
      calc ((s.setRoute s.route).setBounds startKm (some l)).endDistanceM
          = max ((s.setRoute s.route).setBounds startKm (some l)).startDistanceM
              (min (l * 1000) s.route.lengthM) := rfl
        _ = s.endDistanceM := by rw [lo_eq, l_eq, ended]
  have position (lo_eq : ((s.setRoute s.route).setBounds startKm endKm).startDistanceM =
      s.startDistanceM) (hi_eq : ((s.setRoute s.route).setBounds startKm endKm).endDistanceM =
      s.endDistanceM) (nonneg : 0 ≤ s.startDistanceM) :
      ((s.setRoute s.route).setBounds startKm endKm).distanceM = s.startDistanceM :=
    reset lo_eq hi_eq nonneg
  have nonneg (at' : (startKm = none → s.startDistanceM = 0) ∧
      (startKm ≠ none → 0 ≤ s.startDistanceM)) : 0 ≤ s.startDistanceM := by
    by_cases given : startKm = none
    · exact (at'.1 given).ge
    · exact at'.2 given
  constructor
  · rintro ⟨lo_eq, hi_eq, same⟩
    have at' := bounds.mp lo_eq
    exact ⟨⟨same.symm.trans (position lo_eq hi_eq (nonneg at')), at'.1, (stops lo_eq).mp hi_eq⟩,
      at'.2⟩
  · rintro ⟨⟨rest, zero, full⟩, above⟩
    have lo_eq := bounds.mpr ⟨zero, above⟩
    have hi_eq := (stops lo_eq).mpr full
    exact ⟨lo_eq, hi_eq, (position lo_eq hi_eq (nonneg ⟨zero, above⟩)).trans rest.symm⟩

/-- **The place, exactly.** -/
theorem place_kept_iff (h : InOrder s) (kept : PlaceKept s req)
    (updated : updateState T routes s req = .ok s') :
    (s'.route = s.route ∧ s'.startDistanceM = s.startDistanceM ∧
      s'.endDistanceM = s.endDistanceM ∧ s'.distanceM = s.distanceM) ↔
      PlaceHarmless routes s req := by
  obtain ⟨name, start, stop⟩ := kept
  obtain ⟨t, moved, rfl⟩ := updateState_eq updated
  rw [setRest_eq]
  rcases rerouted_eq moved with ⟨none', rfl⟩ | ⟨routeName, route, some', found, rfl⟩
  · refine Iff.trans ?_ (Iff.trans (setBounds_kept_iff h start stop) ?_)
    · exact ⟨And.right, fun same => ⟨rfl, same⟩⟩
    · refine ⟨fun nonneg => ⟨?_, nonneg⟩, PlaceHarmless.start⟩
      intro route given
      rw [none'] at given
      cases given
  · have current : routeName = s.route.name := by
      rcases not_changing_iff.mp name with none' | same
      · cases none'.symm.trans some'
      · exact Option.some.inj (some'.symm.trans same)
    subst current
    by_cases same : route = s.route
    · subst same
      refine Iff.trans ?_ (Iff.trans (setRoute_kept_iff h start stop) ?_)
      · exact ⟨And.right, fun same => ⟨rfl, same⟩⟩
      · constructor
        · rintro ⟨at', nonneg⟩
          refine ⟨?_, nonneg⟩
          intro route _ found'
          exact ⟨Option.some.inj (found'.symm.trans found), at'⟩
        · intro harmless
          exact ⟨(harmless.route _ some' found).2, harmless.start⟩
    · refine iff_of_false ?_ ?_
      · exact fun place => same place.1
      · exact fun harmless => same (harmless.route route some' found).1

theorem mode_kept_iff (updated : updateState T routes s req = .ok s') :
    (¬ Changing req.mode s.mode → s'.mode = s.mode ∧ s'.modeTicks = s.modeTicks) ↔
      (req.mode = some s.mode → s.modeTicks = 0) := by
  obtain ⟨t, moved, rfl⟩ := updateState_eq updated
  have same : t.mode = s.mode ∧ t.modeTicks = s.modeTicks := by
    rcases rerouted_eq moved with ⟨-, rfl⟩ | ⟨-, -, -, -, rfl⟩ <;> exact ⟨rfl, rfl⟩
  rw [setRest_eq]
  simp only [refreshPose, setBounds, same]
  rw [not_changing_iff]
  cases given : req.mode with
  | none => simp
  | some mode =>
      simp only [reduceCtorEq, false_or, Option.some.injEq, Option.getD_some, Option.isSome_some,
        if_true]
      exact ⟨fun kept current => (kept current).2.symm, fun zero current =>
        ⟨current, (zero current).symm⟩⟩

theorem speed_kept_iff (updated : updateState T routes s req = .ok s') :
    (¬ Changing req.speedKmh s.speed → s'.speed = s.speed) ↔
      (req.speedKmh = some s.speed → 0 ≤ s.speed) := by
  obtain ⟨t, moved, rfl⟩ := updateState_eq updated
  have same : t.speed = s.speed := by
    rcases rerouted_eq moved with ⟨-, rfl⟩ | ⟨-, -, -, -, rfl⟩ <;> rfl
  rw [setRest_eq]
  simp only [refreshPose, setBounds, same]
  rw [not_changing_iff]
  cases given : req.speedKmh with
  | none => simp
  | some kmh =>
      simp only [reduceCtorEq, false_or, Option.some.injEq, Option.map_some, Option.getD_some]
      constructor
      · intro kept current
        exact max_eq_right_iff.mp (current ▸ kept current)
      · rintro nonneg rfl
        exact max_eq_right (nonneg rfl)

/-- The scenario is the one argument that is compared with the current value. -/
theorem scenario_kept (updated : updateState T routes s req = .ok s')
    (kept : ¬ Changing req.scenario s.scenario) :
    s'.scenario = s.scenario ∧ s'.scenarioTick = s.scenarioTick ∧
      s'.igbtOverride = s.igbtOverride ∧ s'.brakeOverride = s.brakeOverride := by
  obtain ⟨t, moved, rfl⟩ := updateState_eq updated
  have same : t.scenario = s.scenario ∧ t.scenarioTick = s.scenarioTick ∧
      t.igbtOverride = s.igbtOverride ∧ t.brakeOverride = s.brakeOverride := by
    rcases rerouted_eq moved with ⟨-, rfl⟩ | ⟨-, -, -, -, rfl⟩ <;> exact ⟨rfl, rfl, rfl, rfl⟩
  rw [setRest_eq]
  simp only [refreshPose, setBounds, same, if_neg kept, getD_of_not_changing kept,
    if_neg fun h => kept (And.left h), true_and]

/-- The fields an update only sets where it is given a value, and those it never sets. -/
theorem plain_kept (updated : updateState T routes s req = .ok s') :
    s'.onArrival = req.onArrival.getD s.onArrival ∧ s'.autoMode = req.autoMode.getD s.autoMode ∧
      s'.name = req.name.getD s.name ∧ s'.forward = s.forward ∧ s'.arrived = s.arrived := by
  obtain ⟨t, moved, rfl⟩ := updateState_eq updated
  have same : t.onArrival = s.onArrival ∧ t.autoMode = s.autoMode ∧ t.name = s.name ∧
      t.forward = s.forward ∧ t.arrived = s.arrived := by
    rcases rerouted_eq moved with ⟨-, rfl⟩ | ⟨-, -, -, -, rfl⟩ <;> exact ⟨rfl, rfl, rfl, rfl, rfl⟩
  rw [setRest_eq]
  simp only [refreshPose, setBounds, same, true_and]

/-- **One locomotive, exactly.** -/
theorem partialUpdate_iff (h : InOrder s) (updated : updateState T routes s req = .ok s') :
    PartialUpdate req s s' ↔ Harmless routes s req := by
  constructor
  · intro partial'
    refine ⟨?_, (mode_kept_iff updated).mp partial'.mode,
      (speed_kept_iff updated).mp partial'.speed⟩
    exact fun kept => (place_kept_iff h kept updated).mp (partial'.place kept)
  · intro harmless
    obtain ⟨onArrival, autoMode, name, forward, arrived⟩ := plain_kept updated
    exact
      { place := fun kept => (place_kept_iff h kept updated).mpr (harmless.place kept)
        mode := (mode_kept_iff updated).mpr harmless.mode
        scenario := scenario_kept updated
        onArrival := fun kept => onArrival.trans (getD_of_not_changing kept)
        autoMode := fun kept => autoMode.trans (getD_of_not_changing kept)
        speed := (speed_kept_iff updated).mpr harmless.speed
        name := fun kept => name.trans (getD_of_not_changing kept)
        forward
        arrived }

end

/-! ## The fleet -/

/-- **An update changes what it is given, exactly when the rest is harmless**: in every fleet
whose locomotives are in their segments, for every call.  A call that raises is harmless. -/
theorem update_frame_iff (T : Trig) (routes : List Route) {fleet : Fleet}
    (h : ∀ locoId s, fleet.get? locoId = some s → InOrder s) (locoId : UUID)
    (req : UpdateLocomotive) :
    FrameKept T routes fleet locoId req ↔
      ∀ s s', fleet.get? locoId = some s → updateState T routes s req = .ok s' →
        Harmless routes s req := by
  have call : fleet.call T routes (.update locoId req) =
      fleet.after (updateLocomotive T routes fleet locoId req) := rfl
  constructor
  · intro frame s s' found updated
    have after : (fleet.call T routes (.update locoId req)).get? locoId = some s' := by
      rw [call, updateLocomotive, found]
      dsimp only
      rw [updated]
      exact Dict.get?_set_self fleet locoId s'
    exact (partialUpdate_iff (h locoId s found) updated).mp (frame.fields s s' found after)
  · intro harmless
    refine ⟨?_, ?_, ?_⟩
    · intro s s' found after
      rw [call, updateLocomotive, found] at after
      dsimp only at after
      cases updated : updateState T routes s req with
      | error e =>
          -- the call raises, and nothing has changed
          rw [updated] at after
          cases found.symm.trans after
          exact ⟨fun _ => ⟨rfl, rfl, rfl, rfl⟩, fun _ => ⟨rfl, rfl⟩, fun _ => ⟨rfl, rfl, rfl, rfl⟩,
            fun _ => rfl, fun _ => rfl, fun _ => rfl, fun _ => rfl, rfl, rfl⟩
      | ok t =>
          rw [updated] at after
          have new : (Dict.set fleet locoId t).get? locoId = some s' := after
          rw [Dict.get?_set_self] at new
          cases new
          exact (partialUpdate_iff (h locoId s found) updated).mpr (harmless s s' found updated)
    · intro other ne
      rw [call, updateLocomotive]
      split
      case h_1 => rfl
      case h_2 s _ =>
        split
        case h_1 => rfl
        case h_2 s' _ => exact Dict.get?_set_ne fleet ne s'
    · intro e raised
      rw [call, raised]
      rfl

/-- A fleet built by the calls is in order. -/
theorem inOrder_of_bounded {fleet : Fleet} (h : Fleet.Bounded fleet) :
    ∀ locoId s, fleet.get? locoId = some s → InOrder s := by
  intro locoId s found
  have bounded := h locoId s found
  exact ⟨bounded.low, bounded.high, bounded.stop⟩

/-- The trip after its first second: 20 m of the 10 km are behind it. -/
def underWay : Fleet := equatorFleet [firstTrip, .tick 1 calm locoTickSeconds]

theorem bounded_underWay : Fleet.Bounded underWay := by
  have initial : Fleet.Bounded Dict.empty := by
    intro _ _ found
    cases found
  have run : (simulator smallAngles [equator]).Run Dict.empty _ underWay :=
    run_equatorFleet _ (by simp [firstTrip, locoTickSeconds])
  refine run.invariant (I := Fleet.Bounded) initial ?_
  intro fleet call fleet' mem before step
  refine before.step step ?_
  rcases List.mem_cons.mp mem with rfl | mem
  · trivial
  · rw [List.mem_singleton.mp mem]
    trivial

/-- The same speed and a new scenario. -/
theorem update_frame_iff_scenario : FrameKept smallAngles [equator] underWay 1
    { scenario := some .degradation, speedKmh := some 72 } := by
  refine (update_frame_iff smallAngles [equator] (inOrder_of_bounded bounded_underWay) 1
    { scenario := some .degradation, speedKmh := some 72 }).mpr ?_
  intro s s' _ _
  refine ⟨?_, (fun given => nomatch given), ?_⟩
  · intro _
    exact ⟨(fun _ given => nomatch given), fun given => absurd rfl given⟩
  · intro given
    rw [← Option.some.inj given]
    norm_num

/-- The locomotive is sent its own route: it is back at the start, and the segment is the
whole route. -/
theorem same_route_moves :
    (∀ locoId s, underWay.get? locoId = some s → InOrder s) ∧
      ¬ FrameKept smallAngles [equator] underWay 1 { routeName := some "Equator" } := by
  refine ⟨inOrder_of_bounded bounded_underWay, ?_⟩
  intro frame
  have values : (underWay.get? 1).map (fun s => (s.route.name, s.distanceM)) =
        some ("Equator", 20) ∧
      ((underWay.call smallAngles [equator] (.update 1 { routeName := some "Equator" })).get? 1).map
        LocomotiveState.distanceM = some 0 := by
    decide +kernel
  obtain ⟨s, found, before⟩ := Option.map_eq_some_iff.mp values.1
  obtain ⟨s', found', after⟩ := Option.map_eq_some_iff.mp values.2
  obtain ⟨name, distance⟩ := Prod.mk.inj before
  have kept : PlaceKept s { routeName := some "Equator" } := by
    refine ⟨not_changing_iff.mpr (.inr (congrArg some name.symm)), ?_, ?_⟩
    · exact not_changing_iff.mpr (.inl rfl)
    · exact not_changing_iff.mpr (.inl rfl)
  have same := ((frame.fields s s' found found').place kept).2.2.2
  rw [after, distance] at same
  exact absurd same (by norm_num)

end LocoTwin.Simulator
