/-
# Simulator.EmergencyStop -- the EMERGENCY scenario stops the train

Three parts of a tick write the speed: the mode machine, the scenario and the policy at a
bound.  The scenario puts the locomotive in EMERGENCY in every tick, where the mode machine
brakes too; the policy that takes it out again also turns AUTO off.  So after the first tick
nothing accelerates (`Braking`), and every tick takes 2 km/h at least.

* `emergency_stops`: speed, place and both overrides, after any number of ticks.
-/
import LocoTwin.Simulator.OneShot

namespace LocoTwin.Simulator

open LocoTwin.Shared LocomotiveState

set_option autoImplicit false

namespace LocomotiveState

/-! ## The scenario of a tick -/

/-- What only the scenario writes. -/
structure SameScenario (s s' : LocomotiveState) : Prop where
  scenario : s'.scenario = s.scenario
  scenarioTick : s'.scenarioTick = s.scenarioTick
  igbtOverride : s'.igbtOverride = s.igbtOverride
  brakeOverride : s'.brakeOverride = s.brakeOverride

theorem sameScenario_transition (draws : Draws) (s : LocomotiveState) :
    SameScenario s (s.transition draws) := by
  apply transition_keeps draws
  · exact ⟨rfl, rfl, rfl, rfl⟩
  · exact fun _ _ _ => ⟨rfl, rfl, rfl, rfl⟩
  · exact fun _ _ _ _ => ⟨rfl, rfl, rfl, rfl⟩

theorem sameScenario_boundHit (atEnd : Bool) (s : LocomotiveState) :
    SameScenario s (onSegmentBoundHit atEnd s) := by
  unfold onSegmentBoundHit
  cases s.onArrival <;> cases atEnd <;> exact ⟨rfl, rfl, rfl, rfl⟩

theorem sameScenario_move (dt : PyFloat) (s : LocomotiveState) : SameScenario s (s.move dt) := by
  apply move_keeps dt
  · intro atEnd distanceM
    obtain ⟨scenario, scenarioTick, igbtOverride, brakeOverride⟩ :=
      sameScenario_boundHit atEnd { s with distanceM }
    exact ⟨scenario, scenarioTick, igbtOverride, brakeOverride⟩
  · exact fun _ => ⟨rfl, rfl, rfl, rfl⟩

/-- The brake pipe pressure of the scenario, `n` ticks after it began. -/
def brakePressure (n : Nat) : PyFloat := if n ≤ 10 then 5.1 - 3.3 * n / 10 else 1.8

theorem applyScenario_emergency {s : LocomotiveState} (emergency : s.scenario = .emergency) :
    s.applyScenario =
      { s with
        scenarioTick := s.scenarioTick + 1
        brakeOverride := some (brakePressure (s.scenarioTick + 1))
        mode := .emergency
        speed := max 0 (s.speed - 2)
        igbtOverride := none } := by
  have pressure : (if s.scenarioTick + 1 ≤ emergencyDurationTicks then
      brakeNormal + (brakeFault - brakeNormal) *
        (((s.scenarioTick + 1 : Nat) : PyFloat) / (emergencyDurationTicks : PyFloat))
      else brakeFault) = brakePressure (s.scenarioTick + 1) := by
    unfold brakePressure emergencyDurationTicks brakeNormal brakeFault
    split
    · push_cast
      ring
    · rfl
  unfold applyScenario
  simp only [emergency, pressure]

/-- The scenario counts its ticks, whatever moves the locomotive. -/
theorem tick_emergency (T : Trig) (draws : Draws) (dt : PyFloat) {s : LocomotiveState}
    (emergency : s.scenario = .emergency) :
    (s.tick T draws dt).scenario = .emergency ∧
      (s.tick T draws dt).scenarioTick = s.scenarioTick + 1 ∧
      (s.tick T draws dt).igbtOverride = none ∧
      (s.tick T draws dt).brakeOverride = some (brakePressure (s.scenarioTick + 1)) := by
  have machine := sameScenario_transition draws s
  have applied := applyScenario_emergency (machine.scenario.trans emergency)
  have moved := sameScenario_move dt (s.transition draws).applyScenario
  refine ⟨?_, ?_, ?_, ?_⟩
  · exact moved.scenario.trans (by rw [applied]; exact machine.scenario.trans emergency)
  · exact moved.scenarioTick.trans (by rw [applied, machine.scenarioTick])
  · exact moved.igbtOverride.trans (by rw [applied])
  · exact moved.brakeOverride.trans (by rw [applied, machine.scenarioTick])

/-! ## Nothing accelerates -/

/-- The mode machine brakes or rests. -/
structure Braking (s : LocomotiveState) : Prop where
  emergency : s.scenario = .emergency
  driven : s.autoMode = true → s.mode = .emergency
  speed : 0 ≤ s.speed

theorem boundHit_drive (atEnd : Bool) (s : LocomotiveState) :
    ((onSegmentBoundHit atEnd s).speed = s.speed ∨ (onSegmentBoundHit atEnd s).speed = 0) ∧
      ((onSegmentBoundHit atEnd s).autoMode = true →
        (onSegmentBoundHit atEnd s).mode = s.mode) := by
  unfold onSegmentBoundHit
  cases s.onArrival <;> cases atEnd <;> simp

theorem move_drive (dt : PyFloat) (s : LocomotiveState) :
    ((s.move dt).speed = s.speed ∨ (s.move dt).speed = 0) ∧
      ((s.move dt).autoMode = true → (s.move dt).mode = s.mode) := by
  refine move_keeps (P := fun t => (t.speed = s.speed ∨ t.speed = 0) ∧
    (t.autoMode = true → t.mode = s.mode)) dt ?_ ?_
  · intro atEnd distanceM
    exact boundHit_drive atEnd { s with distanceM }
  · exact fun _ => ⟨.inl rfl, fun _ => rfl⟩

/-- After one tick of the scenario the locomotive brakes. -/
theorem braking_tick (T : Trig) (draws : Draws) (dt : PyFloat) {s : LocomotiveState}
    (emergency : s.scenario = .emergency) : Braking (s.tick T draws dt) := by
  have applied :=
    applyScenario_emergency ((sameScenario_transition draws s).scenario.trans emergency)
  obtain ⟨speed, driven⟩ := move_drive dt (s.transition draws).applyScenario
  refine ⟨(tick_emergency T draws dt emergency).1, ?_, ?_⟩
  · intro auto
    rw [show (s.tick T draws dt).mode = _ from driven auto, applied]
  · rcases speed with same | zero
    · rw [show (s.tick T draws dt).speed = _ from same, applied]
      exact le_max_left _ _
    · exact (show (s.tick T draws dt).speed = 0 from zero).ge

theorem Braking.transition {s : LocomotiveState} (h : Braking s) (draws : Draws) :
    (s.transition draws).speed ≤ s.speed := by
  cases auto : s.autoMode with
  | false => rw [transition_manual draws auto]
  | true =>
      obtain ⟨speed, notch, forward, braked, cases⟩ := transition_auto draws auto
      have slower : speed ≤ s.speed := by
        rw [braked (h.driven auto)]
        exact max_le h.speed (by linarith)
      rcases cases with ⟨-, lasts⟩ | ⟨-, next⟩
      · rw [lasts]
        exact slower
      · rw [next]
        exact slower

/-- A locomotive that brakes loses 2 km/h in a tick, down to 0. -/
theorem Braking.tick_speed {s : LocomotiveState} (h : Braking s) (T : Trig) (draws : Draws)
    (dt : PyFloat) : (s.tick T draws dt).speed ≤ max 0 (s.speed - 2) := by
  have applied :=
    applyScenario_emergency ((sameScenario_transition draws s).scenario.trans h.emergency)
  have scenario : (s.transition draws).applyScenario.speed ≤ max 0 (s.speed - 2) := by
    rw [applied]
    exact max_le_max le_rfl (sub_le_sub_right (h.transition draws) 2)
  rcases (move_drive dt (s.transition draws).applyScenario).1 with same | zero
  · exact (show (s.tick T draws dt).speed = _ from same).trans_le scenario
  · exact (show (s.tick T draws dt).speed = 0 from zero).trans_le (le_max_left _ _)

/-- A locomotive at rest that brakes stays where it is. -/
theorem Braking.tick_place {s : LocomotiveState} (h : Braking s) (rest : s.speed = 0) (T : Trig)
    (draws : Draws) (dt : PyFloat) : (s.tick T draws dt).distanceM = s.distanceM := by
  have place := (samePlace_transition draws s).trans (steady_applyScenario _).toSamePlace
  have still : (s.transition draws).applyScenario.speed ≤ 0 := by
    rw [applyScenario_emergency
      ((sameScenario_transition draws s).scenario.trans h.emergency)]
    have slower := h.transition draws
    rw [rest] at slower
    exact max_le le_rfl (by linarith)
  rcases move_cases dt (s.transition draws).applyScenario with
    ⟨reached, -⟩ | ⟨-, moving, -⟩ | ⟨-, distanceM, same, moved⟩
  · exact absurd reached.1 (not_lt.mpr still)
  · exact absurd moving (not_lt.mpr still)
  · calc (s.tick T draws dt).distanceM
        = ((s.transition draws).applyScenario.move dt).distanceM := rfl
      _ = distanceM := by rw [moved]
      _ = (s.transition draws).applyScenario.distanceM := same still
      _ = s.distanceM := place.distanceM

end LocomotiveState

/-! ## Runs -/

/-- What the scenario does to a locomotive, tick by tick. -/
structure StopsTrain (T : Trig) (draws : Nat → Draws) (s : LocomotiveState) : Prop where
  bound : ∀ N, 1 ≤ N →
    (ticks T draws s N).speed ≤ max 0 ((ticks T draws s 1).speed - 2 * ((N : PyFloat) - 1))
  slower : ∀ N, 1 ≤ N → (ticks T draws s (N + 1)).speed ≤ (ticks T draws s N).speed
  stands : ∀ m n, 1 ≤ m → m ≤ n → (ticks T draws s m).speed = 0 →
    (ticks T draws s n).distanceM = (ticks T draws s m).distanceM
  brake : ∀ n, 1 ≤ n → (ticks T draws s n).brakeOverride =
    some (if n ≤ 10 then 5.1 - 3.3 * (n : PyFloat) / 10 else 1.8)
  igbt : ∀ n, 1 ≤ n → (ticks T draws s n).igbtOverride = none

section

variable {T : Trig} {draws : Nat → Draws} {s : LocomotiveState}

variable (T draws) in
theorem ticks_emergency (emergency : s.scenario = .emergency) (armed : s.scenarioTick = 0) (n : Nat) :
    (ticks T draws s n).scenario = .emergency ∧ (ticks T draws s n).scenarioTick = n := by
  induction n with
  | zero => exact ⟨emergency, armed⟩
  | succ n ih =>
      obtain ⟨scenario, count, -, -⟩ := tick_emergency T (draws n) locoTickSeconds ih.1
      exact ⟨scenario, count.trans (congrArg (· + 1) ih.2)⟩

variable (T draws) in
theorem ticks_braking (emergency : s.scenario = .emergency) (armed : s.scenarioTick = 0) {n : Nat}
    (pos : 1 ≤ n) : Braking (ticks T draws s n) := by
  obtain ⟨n, rfl⟩ := Nat.exists_eq_add_of_le' pos
  exact braking_tick T (draws n) locoTickSeconds (ticks_emergency T draws emergency armed n).1

/-- **The EMERGENCY scenario stops the train**: from any state in which it has just been set,
whatever is drawn. -/
theorem emergency_stops (emergency : s.scenario = .emergency) (armed : s.scenarioTick = 0) :
    StopsTrain T draws s where
  bound N pos := by
    induction N, pos using Nat.le_induction with
    | base => exact le_max_of_le_right (by norm_num)
    | succ N pos ih =>
        have braking := ticks_braking T draws emergency armed pos
        refine (braking.tick_speed T (draws N) locoTickSeconds).trans ?_
        -- 2 km/h less than a bound that stops at 0
        refine max_le (le_max_left _ _) ?_
        rcases le_max_iff.mp ih with zero | above
        · exact le_max_of_le_left (by linarith)
        · refine le_max_of_le_right ?_
          push_cast
          linarith
  slower N pos := by
    have braking := ticks_braking T draws emergency armed pos
    refine (braking.tick_speed T (draws N) locoTickSeconds).trans ?_
    exact max_le braking.speed (by linarith)
  stands m n pos le rest := by
    have both : (ticks T draws s n).speed = 0 ∧
        (ticks T draws s n).distanceM = (ticks T draws s m).distanceM := by
      induction n, le using Nat.le_induction with
      | base => exact ⟨rest, rfl⟩
      | succ n le ih =>
          have braking := ticks_braking T draws emergency armed (pos.trans le)
          have slower := braking.tick_speed T (draws n) locoTickSeconds
          rw [ih.1] at slower
          have later := ticks_braking T draws emergency armed
            (pos.trans (le.trans n.le_succ))
          refine ⟨le_antisymm (slower.trans (by norm_num)) later.speed, ?_⟩
          exact (braking.tick_place ih.1 T (draws n) locoTickSeconds).trans ih.2
    exact both.2
  brake n pos := by
    obtain ⟨n, rfl⟩ := Nat.exists_eq_add_of_le' pos
    obtain ⟨scenario, count⟩ := ticks_emergency T draws emergency armed n
    have pressure := (tick_emergency T (draws n) locoTickSeconds scenario).2.2.2
    rw [count] at pressure
    exact pressure
  igbt n pos := by
    obtain ⟨n, rfl⟩ := Nat.exists_eq_add_of_le' pos
    obtain ⟨scenario, -⟩ := ticks_emergency T draws emergency armed n
    exact (tick_emergency T (draws n) locoTickSeconds scenario).2.2.1

end

/-- A locomotive that cruises in AUTO when the scenario is set. -/
theorem emergency_stops_cruising :
    StopsTrain smallAngles (fun _ => calm)
      { stopTrip .cruising with scenario := .emergency, scenarioTick := 0 } :=
  emergency_stops rfl rfl

end LocoTwin.Simulator
