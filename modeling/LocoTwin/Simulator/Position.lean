/-
# Simulator.Position -- every locomotive stays within its segment

`start <= distance <= end` is what the kinematics rely on to ever hit a bound.  The
constructor, a tick and every update but one keep it: an update that gives a start and no
end clamps the start to the route and leaves the end where it is, even before the start.

* `position_invariant`: in every run whose lone new starts do not pass the end;
* `bounded_update_iff`: for one update, the condition is exact;
* `start_past_end`: a start past the end leaves the locomotive past its end.
-/
import LocoTwin.Simulator.Runner

namespace LocoTwin.Simulator

open LocoTwin.Lib LocoTwin.Shared LocomotiveState

set_option autoImplicit false

/-- A new start that comes without an end or a route does not pass the end. -/
def StartBeforeEnd (s : LocomotiveState) (req : UpdateLocomotive) : Prop :=
  ∀ km, req.startKm = some km → req.endKm = none → req.routeName = none →
    max 0 (min (km * 1000) s.route.lengthM) ≤ s.endDistanceM

/-- Every update of a run meets the condition. -/
def LoneStarts (fleet : Fleet) : FleetCall → Prop
  | .update locoId req => ∀ s, fleet.get? locoId = some s → StartBeforeEnd s req
  | _ => True

namespace LocomotiveState

theorem samePlace_setScenario (s : LocomotiveState) (scenario : Option LocomotiveScenario) :
    SamePlace s { s.setScenario scenario with onArrival := s.onArrival } := by
  cases scenario with
  | none => exact ⟨rfl, rfl, rfl, rfl, rfl, rfl⟩
  | some scenario =>
      unfold setScenario
      dsimp only
      split
      · exact ⟨rfl, rfl, rfl, rfl, rfl, rfl⟩
      · split
        · exact ⟨rfl, rfl, rfl, rfl, rfl, rfl⟩
        · exact ⟨rfl, rfl, rfl, rfl, rfl, rfl⟩

/-- The rest of an update, and the pose, have no part in the bounds. -/
theorem bounded_setRest (T : Trig) (s : LocomotiveState) (req : UpdateLocomotive) :
    ((s.setRest req).refreshPose T).Bounded ↔ s.Bounded := by
  have mode : SamePlace s (s.setMode req.mode) := by
    cases req.mode <;> exact ⟨rfl, rfl, rfl, rfl, rfl, rfl⟩
  have place := mode.trans (samePlace_setScenario (s.setMode req.mode) req.scenario)
  constructor
  · intro h
    refine ⟨?_, ?_, ?_, ?_⟩
    · rw [← place.startDistanceM]
      exact h.start
    · rw [← place.startDistanceM, ← place.distanceM]
      exact h.low
    · rw [← place.distanceM, ← place.endDistanceM]
      exact h.high
    · rw [← place.endDistanceM, ← place.route]
      exact h.stop
  · intro h
    have same := h.congr place
    exact ⟨same.start, same.low, same.high, same.stop⟩

theorem bounded_setRoute (s : LocomotiveState) (route : Route) : (s.setRoute route).Bounded where
  start := le_rfl
  low := le_rfl
  high := route.lengthM_nonneg
  stop := le_rfl

/-- The clamps of an update keep the bounds unless a lone new start passes the end. -/
theorem bounded_setBounds_iff {s : LocomotiveState} (h : s.Bounded)
    (startKm endKm : Option PyFloat) :
    (s.setBounds startKm endKm).Bounded ↔
      (∀ km, startKm = some km → endKm = none →
        max 0 (min (km * 1000) s.route.lengthM) ≤ s.endDistanceM) := by
  have length := s.route.lengthM_nonneg
  have clampedStart : ∀ km : PyFloat, max 0 (min (km * 1000) s.route.lengthM) ≤ s.route.lengthM :=
    fun km => max_le length (min_le_right _ _)
  -- a segment that is in order is bounded once the position is clamped to it
  have bounded {lo hi : PyFloat} (zero : 0 ≤ lo) (order : lo ≤ hi) (stop : hi ≤ s.route.lengthM) :
      Bounded { s with
        startDistanceM := lo, endDistanceM := hi, distanceM := max lo (min s.distanceM hi) } :=
    ⟨zero, le_max_left _ _, max_le order (min_le_right _ _), stop⟩
  cases endKm with
  | some endKm =>
      have order (lo : PyFloat) : lo ≤ max lo (min (endKm * 1000) s.route.lengthM) :=
        le_max_left _ _
      refine iff_of_true ?_ (fun _ _ none' => nomatch none')
      cases startKm with
      | some km =>
          exact bounded (le_max_left _ _) (order _) (max_le (clampedStart km) (min_le_right _ _))
      | none =>
          exact bounded h.start (order _)
            (max_le (h.low.trans (h.high.trans h.stop)) (min_le_right _ _))
  | none =>
      cases startKm with
      | some km =>
          constructor
          · intro after km' same _
            cases same
            exact after.low.trans after.high
          · intro order
            exact bounded (le_max_left _ _) (order km rfl rfl) h.stop
      | none =>
          refine iff_of_true ?_ (fun _ none' => nomatch none')
          exact bounded h.start (h.low.trans h.high) h.stop

end LocomotiveState

/-- **One update, exactly**: of the updates that succeed on a locomotive within its
segment, those that meet the condition leave it within its segment. -/
theorem bounded_update_iff {T : Trig} {routes : List Route} {s s' : LocomotiveState}
    {req : UpdateLocomotive} (h : s.Bounded) (updated : updateState T routes s req = .ok s') :
    s'.Bounded ↔ StartBeforeEnd s req := by
  unfold updateState at updated
  cases route : req.routeName with
  | none =>
      rw [route] at updated
      cases updated
      rw [bounded_setRest, bounded_setBounds_iff h]
      exact ⟨fun order km same none' _ => order km same none',
        fun order km same none' => order km same none' route⟩
  | some routeName =>
      refine iff_of_true ?_ (fun _ _ _ none' => by rw [route] at none'; cases none')
      rw [route] at updated
      cases found : getRoute routes routeName with
      | none => simp [rerouted, found] at updated
      | some newRoute =>
          simp only [rerouted, found, Except.ok.injEq] at updated
          rw [← updated, bounded_setRest, bounded_setBounds_iff (bounded_setRoute s newRoute)]
          intro km _ _
          -- the end is the length of the new route
          exact max_le newRoute.lengthM_nonneg (min_le_right _ _)

/-! ## Fleets -/

/-- Every locomotive of the fleet is within its segment. -/
def Fleet.Bounded (fleet : Fleet) : Prop :=
  ∀ locoId s, fleet.get? locoId = some s → s.Bounded

namespace Fleet.Bounded

variable {fleet : Fleet}

theorem set (h : Fleet.Bounded fleet) (locoId : UUID) {s : LocomotiveState} (hs : s.Bounded) :
    Fleet.Bounded (Dict.set fleet locoId s) :=
  (Dict.forall_set_iff h locoId s).mpr hs

theorem add (h : Fleet.Bounded fleet) (T : Trig) (routes : List Route) (draws : Draws)
    (req : AddLocomotive) :
    Fleet.Bounded (fleet.after (addLocomotive T routes draws fleet req)) := by
  unfold addLocomotive
  split
  · exact h
  · dsimp only
    split
    · exact h
    · exact h.set req.locoId (bounded_postInit T draws _)

theorem update (h : Fleet.Bounded fleet) (T : Trig) (routes : List Route) (locoId : UUID)
    (req : UpdateLocomotive) (lone : LoneStarts fleet (.update locoId req)) :
    Fleet.Bounded (fleet.after (updateLocomotive T routes fleet locoId req)) := by
  unfold updateLocomotive
  split
  · exact h
  case h_2 s found =>
    split
    · exact h
    case h_2 s' updated =>
      apply h.set
      exact (bounded_update_iff (h locoId s found) updated).mpr (lone s found)

theorem remove (h : Fleet.Bounded fleet) (locoId : UUID) :
    Fleet.Bounded (fleet.after (removeLocomotive fleet locoId)) := by
  unfold removeLocomotive
  split
  · exact Dict.forall_pop h locoId
  · exact h

theorem step {T : Trig} {routes : List Route} {fleet' : Fleet} {call : FleetCall}
    (h : Fleet.Bounded fleet) (step : (simulator T routes).step fleet call fleet')
    (lone : LoneStarts fleet call) : Fleet.Bounded fleet' := by
  obtain ⟨duration, rfl⟩ := step
  cases call with
  | add draws req => exact h.add T routes draws req
  | update locoId req => exact h.update T routes locoId req lone
  | remove locoId => exact h.remove locoId
  | tick locoId draws dt =>
      unfold Fleet.call
      dsimp only
      split
      · exact h
      case h_2 s found =>
        exact h.set locoId ((h locoId s found).tick T draws (duration locoId draws dt rfl))

end Fleet.Bounded

/-- **Every locomotive stays within its segment**, and the segment within the route, in
every run whose lone new starts do not pass the end. -/
theorem position_invariant {T : Trig} {routes : List Route} {fleet : Fleet}
    (reach : ((simulator T routes).where' LoneStarts).Reachable fleet) :
    ∀ locoId s, fleet.get? locoId = some s →
      0 ≤ s.startDistanceM ∧ s.startDistanceM ≤ s.distanceM ∧
        s.distanceM ≤ s.endDistanceM ∧ s.endDistanceM ≤ s.route.lengthM := by
  have bounded : Fleet.Bounded fleet := by
    apply reach.invariant
    · intro fleet start locoId s found
      obtain rfl : fleet = Dict.empty := start
      cases found
    · intro fleet call fleet' h step
      exact h.step step.2 step.1
  intro locoId s found
  have h := bounded locoId s found
  exact ⟨h.start, h.low, h.high, h.stop⟩

/-! ## Two runs -/

/-- The small-angle approximations, with square roots that are exact on squares. -/
def smallAngles : Trig where
  radians x := x * 314159 / 18000000
  degrees x := x * 18000000 / 314159
  sin x := x
  cos _ := 1
  asin x := x
  atan2 _ _ := 0
  sqrt x := (x.num.toNat.sqrt : PyFloat) / (x.den.sqrt : PyFloat)
  sqrt_nonneg _ := div_nonneg (Nat.cast_nonneg _) (Nat.cast_nonneg _)
  asin_nonneg _ h := h

/-- One degree along the equator, about 111 km. -/
def equator : Route := Route.create smallAngles "Equator" [(0, 0), (0, 1)]

theorem shortest_mem (lo hi : Nat) (h : lo ≤ hi) : lo ≤ lo ∧ lo ≤ hi := ⟨le_rfl, h⟩

theorem five_mem : 5 ∈ [5, 6, 7] := List.mem_cons_self

/-- The shortest durations, and no noise. -/
def calm : Draws := ⟨5, five_mem, 0, fun lo _ => lo, shortest_mem⟩

/-- A locomotive on the first 10 km, in motion. -/
def firstTrip : FleetCall :=
  .add calm
    { locoId := 1, locoType := .te33a, routeName := "Equator", endKm := some 10
      initialSpeedKmh := 72 }

/-- The fleet after these calls. -/
def equatorFleet (calls : List FleetCall) : Fleet :=
  calls.foldl (Fleet.call smallAngles [equator]) Dict.empty

theorem run_equatorFleet (calls : List FleetCall)
    (duration : ∀ call ∈ calls, ∀ locoId draws dt, call = .tick locoId draws dt → 0 ≤ dt) :
    (simulator smallAngles [equator]).Run Dict.empty calls (equatorFleet calls) := by
  induction calls using List.reverseRecOn with
  | nil => exact .nil _
  | append_singleton calls call ih =>
      have before := ih fun c mem => duration c (List.mem_append_left _ mem)
      have last : equatorFleet (calls ++ [call]) =
          (equatorFleet calls).call smallAngles [equator] call := by
        simp [equatorFleet]
      rw [last]
      exact .snoc before ⟨duration call (by simp), rfl⟩

/-- The segment is moved, then the locomotive. -/
theorem position_invariant_moved : ∃ fleet s,
    ((simulator smallAngles [equator]).where' LoneStarts).Reachable fleet ∧
    fleet.get? 1 = some s ∧ 0 ≤ s.startDistanceM ∧ s.startDistanceM ≤ s.distanceM ∧
      s.distanceM ≤ s.endDistanceM ∧ s.endDistanceM ≤ s.route.lengthM := by
  have initial : ((simulator smallAngles [equator]).where' LoneStarts).Reachable
      (equatorFleet []) := .init rfl
  have added : ((simulator smallAngles [equator]).where' LoneStarts).Reachable
      (equatorFleet [firstTrip]) := by
    refine initial.step (l := firstTrip) ⟨trivial, ?_, rfl⟩
    intro _ _ _ h
    cases h
  have updated : ((simulator smallAngles [equator]).where' LoneStarts).Reachable
      (equatorFleet [firstTrip, .update 1 { startKm := some 50, endKm := some 60 }]) := by
    refine added.step (l := .update 1 { startKm := some 50, endKm := some 60 }) ⟨?_, ?_, rfl⟩
    · intro _ _ _ _ none'
      cases none'
    · intro _ _ _ h
      cases h
  have ticked : ((simulator smallAngles [equator]).where' LoneStarts).Reachable
      (equatorFleet [firstTrip, .update 1 { startKm := some 50, endKm := some 60 },
        .tick 1 calm locoTickSeconds]) := by
    refine updated.step (l := .tick 1 calm locoTickSeconds) ⟨trivial, ?_, rfl⟩
    intro _ _ _ h
    cases h
    exact zero_le_one
  obtain ⟨s, found⟩ : ∃ s, (equatorFleet [firstTrip,
      .update 1 { startKm := some 50, endKm := some 60 },
      .tick 1 calm locoTickSeconds]).get? 1 = some s :=
    Option.isSome_iff_exists.mp (by decide +kernel)
  exact ⟨_, s, ticked, found, position_invariant ticked 1 s found⟩

/-- The start is moved to kilometre 50 and the end stays at kilometre 10: the locomotive
stands past its end. -/
theorem start_past_end : ∃ fleet s,
    (simulator smallAngles [equator]).Reachable fleet ∧ fleet.get? 1 = some s ∧
    ¬ s.distanceM ≤ s.endDistanceM := by
  have updated := run_equatorFleet [firstTrip, .update 1 { startKm := some 50 }]
    (by simp [firstTrip])
  have past : ((equatorFleet [firstTrip, .update 1 { startKm := some 50 }]).get? 1).map
      (fun s => decide (s.distanceM ≤ s.endDistanceM)) = some false := by
    decide +kernel
  obtain ⟨s, found, above⟩ := Option.map_eq_some_iff.mp past
  exact ⟨_, s, updated.reachable (.init rfl), found, of_decide_eq_false above⟩

end LocoTwin.Simulator
