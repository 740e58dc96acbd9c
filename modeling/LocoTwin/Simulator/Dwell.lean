/-
# Simulator.Dwell -- how long a mode lasts

`_enter_mode` draws the duration of the mode it enters from `MODE_DURATIONS` and starts its
count.  Three other places assign the mode and keep the duration: an update, the EMERGENCY
scenario and the arrival of a STOP trip.  The duration then is one of the mode before.

* `lasts_of_within`: with a duration of its mode, a mode in AUTO lasts just that long;
* `dwell_iff`: over a run, every mode has a duration of its own exactly when those three
  never meet a duration that is not one of the new mode as well;
* `dwell_of_another_mode`: a locomotive in DEPOT that is put in CRUISING keeps the
  duration of DEPOT.
-/
import LocoTwin.Simulator.EmergencyStop
import LocoTwin.Simulator.UpdateFrame

namespace LocoTwin.Simulator

open LocoTwin.Lib LocoTwin.Shared LocomotiveState

set_option autoImplicit false

/-- A duration in `MODE_DURATIONS[mode]`. -/
def Within (mode : LocomotiveMode) (duration : Nat) : Prop :=
  (modeDurations mode).1 ≤ duration ∧ duration ≤ (modeDurations mode).2

instance (mode : LocomotiveMode) (duration : Nat) : Decidable (Within mode duration) :=
  inferInstanceAs (Decidable (_ ∧ _))

theorem modeDurations_le (mode : LocomotiveMode) :
    (modeDurations mode).1 ≤ (modeDurations mode).2 := by
  cases mode <;> decide

theorem modeDurations_pos (mode : LocomotiveMode) : 0 < (modeDurations mode).1 := by
  cases mode <;> decide

/-- What `_enter_mode` draws. -/
theorem within_randint (draws : Draws) (mode : LocomotiveMode) :
    Within mode (draws.randint (modeDurations mode).1 (modeDurations mode).2) :=
  draws.randint_mem _ _ (modeDurations_le mode)

/-- A mode that has just been entered in AUTO lasts for a duration in its range, unless the
scenario or an arrival interrupts it. -/
def Lasts (T : Trig) (s : LocomotiveState) : Prop :=
  s.autoMode = true → s.modeTicks = 0 → s.scenario ≠ .emergency →
  ∃ duration, Within s.mode duration ∧
    ∀ (draws : Nat → Draws) (n : Nat), n ≤ duration →
      (∀ m ≤ n, (ticks T draws s m).autoMode = true) →
      ((ticks T draws s n).mode = s.mode ↔ n < duration)

namespace LocomotiveState

/-! ## One tick -/

theorem nextMode_ne (mode : LocomotiveMode) : nextMode mode ≠ mode := by
  cases mode <;> decide

/-- Without the EMERGENCY scenario, the modes are those of the mode machine. -/
theorem applyScenario_drive {s : LocomotiveState} (calm : s.scenario ≠ .emergency) :
    s.applyScenario.mode = s.mode ∧ s.applyScenario.modeTicks = s.modeTicks ∧
      s.applyScenario.modeDuration = s.modeDuration ∧
      s.applyScenario.autoMode = s.autoMode ∧ s.applyScenario.scenario = s.scenario := by
  unfold applyScenario
  dsimp only
  split
  case h_1 => exact ⟨rfl, rfl, rfl, rfl, rfl⟩
  case h_2 => exact ⟨rfl, rfl, rfl, rfl, rfl⟩
  case h_3 emergency => exact absurd emergency calm

/-- Motion keeps the count of the mode, and the mode but for the end of a STOP trip. -/
theorem move_dwell (dt : PyFloat) (s : LocomotiveState) :
    (s.move dt).modeTicks = s.modeTicks ∧ (s.move dt).modeDuration = s.modeDuration ∧
      (s.move dt).mode = if s.onArrival = .stop ∧ s.ReachesEnd dt then .depot else s.mode := by
  rcases move_cases dt s with ⟨reached, atEnd⟩ | ⟨short, -, atStart⟩ | ⟨short, distanceM, -, moved⟩
  · rw [atEnd]
    unfold onSegmentBoundHit
    dsimp only
    cases policy : s.onArrival with
    | loop => exact ⟨rfl, rfl, by simp⟩
    | stop => exact ⟨rfl, rfl, by simp [reached]⟩
    | remove => exact ⟨rfl, rfl, by simp⟩
  · rw [atStart]
    unfold onSegmentBoundHit
    dsimp only
    cases s.onArrival <;> exact ⟨rfl, rfl, by simp [short]⟩
  · rw [moved]
    exact ⟨rfl, rfl, by simp [short]⟩

/-- Motion never turns AUTO on. -/
theorem move_auto {dt : PyFloat} {s : LocomotiveState} (auto : (s.move dt).autoMode = true) :
    s.autoMode = true := by
  revert auto
  refine move_keeps (P := fun t => t.autoMode = true → s.autoMode = true) dt ?_ fun _ auto => auto
  intro atEnd distanceM auto
  unfold onSegmentBoundHit at auto
  cases policy : s.onArrival <;> cases atEnd <;> simp [policy] at auto <;> exact auto

/-- A tick after which AUTO is still on, outside the EMERGENCY scenario: the mode is the one
of the mode machine. -/
theorem tick_drive (T : Trig) (draws : Draws) (dt : PyFloat) {s : LocomotiveState}
    (calm : s.scenario ≠ .emergency) (still : (s.tick T draws dt).autoMode = true) :
    s.autoMode = true ∧ (s.tick T draws dt).mode = (s.transition draws).mode ∧
      (s.tick T draws dt).modeTicks = (s.transition draws).modeTicks ∧
      (s.tick T draws dt).modeDuration = (s.transition draws).modeDuration ∧
      (s.tick T draws dt).scenario = s.scenario := by
  have machine := sameScenario_transition draws s
  obtain ⟨mode, modeTicks, modeDuration, auto, scenario⟩ :=
    applyScenario_drive (s := s.transition draws) (machine.scenario.symm ▸ calm)
  have moved := move_dwell dt (s.transition draws).applyScenario
  have on : (s.transition draws).autoMode = true := auto ▸ move_auto still
  refine ⟨?_, ?_, ?_, ?_, ?_⟩
  · cases manual : s.autoMode with
    | true => rfl
    | false =>
        rw [transition_manual draws manual, manual] at on
        cases on
  · exact ((move_drive dt _).2 still).trans mode
  · exact moved.1.trans modeTicks
  · exact moved.2.1.trans modeDuration
  · exact (sameScenario_move dt _).scenario.trans (scenario.trans machine.scenario)

end LocomotiveState

/-! ## A stretch of ticks -/

section

variable {T : Trig} {draws : Nat → Draws} {s : LocomotiveState}

/-- Until the mode is due, its ticks are counted. -/
theorem ticks_counted (fresh : s.modeTicks = 0) (calm : s.scenario ≠ .emergency) {n : Nat}
    (early : n < s.modeDuration) (auto : ∀ m ≤ n, (ticks T draws s m).autoMode = true) :
    (ticks T draws s n).mode = s.mode ∧ (ticks T draws s n).modeTicks = n ∧
      (ticks T draws s n).modeDuration = s.modeDuration ∧
      (ticks T draws s n).scenario = s.scenario := by
  induction n with
  | zero => exact ⟨rfl, fresh, rfl, rfl⟩
  | succ n ih =>
      obtain ⟨mode, modeTicks, modeDuration, scenario⟩ :=
        ih (Nat.lt_of_succ_lt early) fun m le => auto m (Nat.le_succ_of_le le)
      obtain ⟨on, mode', modeTicks', modeDuration', scenario'⟩ :=
        tick_drive T (draws n) locoTickSeconds (scenario.symm ▸ calm) (auto (n + 1) le_rfl)
      obtain ⟨speed, notch, forward, -, ⟨-, lasts⟩ | ⟨due, -⟩⟩ := transition_auto (draws n) on
      · rw [lasts] at mode' modeTicks' modeDuration'
        exact ⟨mode'.trans mode, modeTicks'.trans (congrArg (· + 1) modeTicks),
          modeDuration'.trans modeDuration, scenario'.trans scenario⟩
      · rw [modeTicks, modeDuration] at due
        exact absurd early (not_lt.mpr due)

/-- **A mode lasts for its duration**, which is in its range. -/
theorem lasts_of_within (T : Trig) (within : Within s.mode s.modeDuration) : Lasts T s := by
  intro _ fresh calm
  refine ⟨s.modeDuration, within, ?_⟩
  intro draws n le auto
  rcases Nat.lt_or_eq_of_le le with early | rfl
  · exact iff_of_true (ticks_counted fresh calm early auto).1 early
  · -- the last tick of the mode finds it due
    refine iff_of_false ?_ (lt_irrefl _)
    obtain ⟨n, last⟩ := Nat.exists_eq_add_of_lt ((modeDurations_pos s.mode).trans_le within.1)
    rw [Nat.zero_add] at last
    rw [last] at auto ⊢
    have early : n < s.modeDuration := by omega
    obtain ⟨mode, modeTicks, modeDuration, scenario⟩ :=
      ticks_counted fresh calm early fun m le => auto m (Nat.le_succ_of_le le)
    obtain ⟨on, mode', -⟩ := tick_drive T (draws n) locoTickSeconds (scenario.symm ▸ calm)
      (auto (n + 1) le_rfl)
    obtain ⟨speed, notch, forward, -, ⟨short, -⟩ | ⟨-, next⟩⟩ := transition_auto (draws n) on
    · rw [modeTicks, modeDuration, last] at short
      exact absurd le_rfl short
    · rw [next] at mode'
      intro same
      exact nextMode_ne s.mode ((congrArg nextMode mode).symm.trans (mode'.symm.trans same))

end

/-! ## Who assigns a mode -/

namespace LocomotiveState

/-- `mode_duration` in a tick: that of the mode the tick enters, if it enters one. -/
def durationInForce (draws : Draws) (s : LocomotiveState) : Nat :=
  if s.autoMode = true ∧ s.modeDuration ≤ s.modeTicks + 1 then
    draws.randint (modeDurations (nextMode s.mode)).1 (modeDurations (nextMode s.mode)).2
  else s.modeDuration

/-- A tick that assigns a mode finds a duration of that mode: DEPOT where a STOP trip
arrives, EMERGENCY elsewhere in the scenario of that name. -/
def TickRefits (draws : Draws) (dt : PyFloat) (s : LocomotiveState) : Prop :=
  let arrives := s.onArrival = .stop ∧ (s.transition draws).applyScenario.ReachesEnd dt
  (arrives → Within .depot (s.durationInForce draws)) ∧
    (¬ arrives → s.scenario = .emergency → Within .emergency (s.durationInForce draws))

instance (draws : Draws) (dt : PyFloat) (s : LocomotiveState) :
    Decidable (s.TickRefits draws dt) :=
  inferInstanceAs (Decidable ((_ → _) ∧ (_ → _ → _)))

/-- The mode machine draws the duration with the mode. -/
theorem transition_within (draws : Draws) {s : LocomotiveState}
    (within : Within s.mode s.modeDuration) :
    (s.transition draws).modeDuration = s.durationInForce draws ∧
      Within (s.transition draws).mode (s.transition draws).modeDuration := by
  unfold durationInForce
  cases auto : s.autoMode with
  | false =>
      rw [transition_manual draws auto]
      exact ⟨rfl, within⟩
  | true =>
      obtain ⟨speed, notch, forward, -, ⟨early, lasts⟩ | ⟨due, next⟩⟩ := transition_auto draws auto
      · rw [lasts, if_neg fun h => early h.2]
        exact ⟨rfl, within⟩
      · rw [next, if_pos ⟨rfl, due⟩]
        exact ⟨rfl, within_randint draws _⟩

theorem applyScenario_dwell (s : LocomotiveState) :
    s.applyScenario.modeDuration = s.modeDuration ∧
      s.applyScenario.mode = if s.scenario = .emergency then .emergency else s.mode := by
  unfold applyScenario
  dsimp only
  split
  case h_1 normal => exact ⟨rfl, by simp [normal]⟩
  case h_2 degradation => exact ⟨rfl, by simp [degradation]⟩
  case h_3 emergency => exact ⟨rfl, by simp [emergency]⟩

/-- **One tick, exactly.** -/
theorem within_tick_iff (T : Trig) (draws : Draws) (dt : PyFloat) {s : LocomotiveState}
    (within : Within s.mode s.modeDuration) :
    Within (s.tick T draws dt).mode (s.tick T draws dt).modeDuration ↔
      s.TickRefits draws dt := by
  obtain ⟨force, machine⟩ := transition_within draws within
  obtain ⟨kept, scenario⟩ := applyScenario_dwell (s.transition draws)
  obtain ⟨-, moved, arrival⟩ := move_dwell dt (s.transition draws).applyScenario
  have duration : (s.tick T draws dt).modeDuration = s.durationInForce draws :=
    moved.trans (kept.trans force)
  have mode : (s.tick T draws dt).mode = _ := arrival
  have place := (samePlace_transition draws s).trans (steady_applyScenario _).toSamePlace
  rw [duration, mode, scenario, place.onArrival, (sameScenario_transition draws s).scenario]
  unfold TickRefits
  by_cases arrives : s.onArrival = .stop ∧ (s.transition draws).applyScenario.ReachesEnd dt
  · rw [if_pos arrives]
    exact ⟨fun h => ⟨fun _ => h, fun away => absurd arrives away⟩, fun h => h.1 arrives⟩
  · rw [if_neg arrives]
    by_cases emergency : s.scenario = .emergency
    · rw [if_pos emergency]
      exact ⟨fun h => ⟨fun at' => absurd at' arrives, fun _ _ => h⟩, fun h => h.2 arrives emergency⟩
    · -- the mode is the one of the mode machine
      rw [if_neg emergency]
      exact iff_of_true (force ▸ machine)
        ⟨fun at' => absurd at' arrives, fun _ on => absurd on emergency⟩

end LocomotiveState

/-- What a call that assigns a mode has to find: a duration that is in the range of the new
mode too. -/
def Refits (T : Trig) (routes : List Route) (fleet : Fleet) : FleetCall → Prop
  | .update locoId req => ∀ s s' mode, fleet.get? locoId = some s →
      updateState T routes s req = .ok s' → req.mode = some mode → Within mode s.modeDuration
  | .tick locoId draws dt => ∀ s, fleet.get? locoId = some s → s.TickRefits draws dt
  | _ => True

/-- Every mode of the fleet has a duration in its range, and one that has just been entered
lasts for such a duration. -/
def Fleet.Dwells (T : Trig) (fleet : Fleet) : Prop :=
  ∀ locoId s, fleet.get? locoId = some s → Within s.mode s.modeDuration ∧ Lasts T s

theorem dwells_iff (T : Trig) (s : LocomotiveState) :
    (Within s.mode s.modeDuration ∧ Lasts T s) ↔ Within s.mode s.modeDuration :=
  ⟨And.left, fun within => ⟨within, lasts_of_within T within⟩⟩

theorem updateState_mode {T : Trig} {routes : List Route} {s s' : LocomotiveState}
    {req : UpdateLocomotive} (updated : updateState T routes s req = .ok s') :
    s'.mode = req.mode.getD s.mode ∧ s'.modeDuration = s.modeDuration := by
  obtain ⟨t, moved, rfl⟩ := updateState_eq updated
  have same : t.mode = s.mode ∧ t.modeDuration = s.modeDuration := by
    rcases rerouted_eq moved with ⟨-, rfl⟩ | ⟨-, -, -, -, rfl⟩ <;> exact ⟨rfl, rfl⟩
  rw [setRest_eq]
  exact ⟨congrArg req.mode.getD same.1, same.2⟩

/-! ## Runs -/

section

variable {T : Trig} {routes : List Route} {fleet : Fleet}

/-- A locomotive is put in the simulator with a duration of its mode. -/
theorem within_postInit (T : Trig) (draws : Draws) {s : LocomotiveState}
    (unset : s.modeDuration = 0) :
    Within (s.postInit T draws).mode (s.postInit T draws).modeDuration := by
  have drawn : (s.postInit T draws).modeDuration =
      draws.randint (modeDurations s.mode).1 (modeDurations s.mode).2 := if_pos unset
  rw [drawn]
  exact within_randint draws s.mode

theorem dwells_set_iff (all : fleet.Dwells T) (locoId : UUID) (s : LocomotiveState) :
    Fleet.Dwells T (fleet.set locoId s) ↔ Within s.mode s.modeDuration :=
  (Dict.forall_set_iff all locoId s).trans (dwells_iff T s)

/-- **One call, exactly.** -/
theorem dwells_call_iff (all : fleet.Dwells T) (call : FleetCall) :
    Fleet.Dwells T (fleet.call T routes call) ↔ Refits T routes fleet call := by
  cases call with
  | add draws req =>
      refine iff_of_true ?_ trivial
      unfold Fleet.call addLocomotive
      dsimp only
      split
      · exact all
      · split
        · exact all
        · exact (dwells_set_iff all _ _).mpr (within_postInit T draws rfl)
  | update locoId req =>
      unfold Fleet.call updateLocomotive Refits
      dsimp only
      split
      case h_1 missing =>
        refine iff_of_true all ?_
        intro s _ _ found
        rw [missing] at found
        cases found
      case h_2 s found =>
        split
        case h_1 e raised =>
          refine iff_of_true all ?_
          intro t _ _ found' updated
          cases found.symm.trans found'
          rw [raised] at updated
          cases updated
        case h_2 s' updated =>
          obtain ⟨mode, duration⟩ := updateState_mode updated
          refine (dwells_set_iff all locoId s').trans ?_
          rw [mode, duration]
          constructor
          · intro within t _ m found' _ given
            cases found.symm.trans found'
            rw [given] at within
            exact within
          · intro refits
            cases given : req.mode with
            | none => exact (all locoId s found).1
            | some m => exact refits s s' m found updated given
  | remove locoId =>
      refine iff_of_true ?_ trivial
      unfold Fleet.call removeLocomotive
      dsimp only
      split
      · exact Dict.forall_pop all locoId
      · exact all
  | tick locoId draws dt =>
      unfold Fleet.call Refits
      dsimp only
      split
      case h_1 missing =>
        refine iff_of_true all ?_
        intro s found
        rw [missing] at found
        cases found
      case h_2 s found =>
        refine (dwells_set_iff all locoId _).trans ?_
        refine (within_tick_iff T draws dt (all locoId s found).1).trans ?_
        constructor
        · intro refits t found'
          cases found.symm.trans found'
          exact refits
        · intro refits
          exact refits s found

/-- **Every mode keeps to its durations, exactly when no call gives it another one's**: for
any calls on an empty fleet and whatever is drawn. -/
theorem dwell_iff {calls : List FleetCall}
    (run : (simulator T routes).Run Dict.empty calls fleet) :
    (∀ pre fleet', pre <+: calls → (simulator T routes).Run Dict.empty pre fleet' →
      Fleet.Dwells T fleet') ↔
    ((simulator T routes).where' (Refits T routes)).Run Dict.empty calls fleet := by
  refine run.where'_iff (I := fun _ => True) ?_ trivial ?_ (fun _ _ _ _ _ _ => trivial) ?_
  · rintro s l t u ⟨-, rfl⟩ ⟨-, rfl⟩
    rfl
  · intro locoId s found
    cases found
  · rintro s l t - - all ⟨-, rfl⟩
    exact dwells_call_iff all l

end

/-- A locomotive in CRUISING, driven by AUTO. -/
def cruise : FleetCall :=
  .add calm
    { locoId := 1, locoType := .te33a, routeName := "Equator", mode := .cruising, autoMode := true
      initialSpeedKmh := 72 }

/-- It goes on as long as its mode lasts. -/
theorem dwell_iff_cruise :
    Fleet.Dwells smallAngles (equatorFleet [cruise, .tick 1 calm locoTickSeconds]) := by
  have run := run_equatorFleet [cruise, .tick 1 calm locoTickSeconds]
    (by simp [cruise, locoTickSeconds])
  refine (dwell_iff run).mpr ?_ _ _ (List.prefix_refl _) run
  have add : ∀ locoId draws dt, cruise = .tick locoId draws dt → 0 ≤ dt := by simp [cruise]
  have tick : ∀ locoId draws dt,
      FleetCall.tick 1 calm locoTickSeconds = .tick locoId draws dt → 0 ≤ dt := by
    simp [locoTickSeconds]
  refine .cons ⟨trivial, add, rfl⟩ (.cons ⟨?_, tick, rfl⟩ (.nil _))
  have refits : ((equatorFleet [cruise]).get? 1).all
      (fun s => decide (s.TickRefits calm locoTickSeconds)) = true := by
    decide +kernel
  intro s found
  rw [show (equatorFleet [cruise]).get? 1 = some s from found] at refits
  exact of_decide_eq_true refits

/-- A locomotive waits in DEPOT for 600 s and is put in CRUISING: the 600 s stay, where
CRUISING is to last for 1800 s at least. -/
theorem dwell_of_another_mode : ∃ fleet s,
    (simulator smallAngles [equator]).Reachable fleet ∧ fleet.get? 1 = some s ∧
    s.mode = .cruising ∧ s.modeDuration = 600 ∧ ¬ Within s.mode s.modeDuration := by
  have updated := run_equatorFleet [firstTrip, .update 1 { mode := some .cruising }]
    (by simp [firstTrip])
  have kept : ((equatorFleet [firstTrip, .update 1 { mode := some .cruising }]).get? 1).map
      (fun s => (s.mode, s.modeDuration)) = some (.cruising, 600) := by
    decide +kernel
  obtain ⟨s, found, same⟩ := Option.map_eq_some_iff.mp kept
  obtain ⟨mode, duration⟩ := Prod.mk.inj same
  refine ⟨_, s, updated.reachable (.init rfl), found, mode, duration, ?_⟩
  rw [mode, duration]
  decide

end LocoTwin.Simulator
