/-
# Simulator.LocomotiveState -- one locomotive, its modes and its motion

A tick advances the mode machine, applies the scenario, and moves the locomotive within its
segment.  Every random number of a tick is a field of `Draws`, with the range it is drawn
from.  The thermal state and the fuel are with the sensor generators, which alone touch them.

The mode machine and the scenario never move a locomotive (`SamePlace`), and only the end of
ARRIVAL turns one round (`steady_transition`, `transition_leavesArrival`).
-/
import LocoTwin.Shared.Enums
import LocoTwin.Shared.RouteGeometry
import Mathlib.Tactic.Linarith
import Mathlib.Tactic.Positivity

namespace LocoTwin.Simulator

open LocoTwin.Shared

set_option autoImplicit false

inductive LocomotiveMode where
  | depot | departure | cruising | arrival | aessSleep | emergency | recovery
  deriving DecidableEq, Repr

inductive LocomotiveScenario where
  | normal | degradation | emergency
  deriving DecidableEq, Repr

/-- What happens at `end_distance_m`. -/
inductive OnArrival where
  | loop | stop | remove
  deriving DecidableEq, Repr

def modeDurations : LocomotiveMode → Nat × Nat
  | .depot => (600, 7200)
  | .departure => (180, 600)
  | .cruising => (1800, 10800)
  | .arrival => (180, 600)
  | .aessSleep => (300, 1800)
  | .emergency => (60, 300)
  | .recovery => (300, 900)

def locoTickSeconds : PyFloat := 1

def degradationDurationTicks : PyFloat := 1200
def degradationStartTemp : PyFloat := 57
def degradationEndTemp : PyFloat := 87
def emergencyDurationTicks : Nat := 10
def brakeNormal : PyFloat := 5.1
def brakeFault : PyFloat := 1.8

structure Draws where
  /-- `random.choice([5, 6, 7])` -/
  notch : Nat
  notch_mem : notch ∈ [5, 6, 7]
  /-- `random.gauss(0, 1)` -/
  gauss : PyFloat
  randint : Nat → Nat → Nat
  randint_mem : ∀ lo hi, lo ≤ hi → lo ≤ randint lo hi ∧ randint lo hi ≤ hi

structure LocomotiveState where
  id : UUID
  locoType : LocomotiveType
  route : Route
  name : String := ""
  mode : LocomotiveMode := .depot
  scenario : LocomotiveScenario := .normal
  autoMode : Bool := false
  speed : PyFloat := 0
  notch : Nat := 0
  distanceM : PyFloat := 0
  startDistanceM : PyFloat := 0
  endDistanceM : PyFloat := 0
  onArrival : OnArrival := .loop
  arrived : Bool := false
  pose : Pose := ⟨0, 0, 0⟩
  modeTicks : Nat := 0
  modeDuration : Nat := 0
  igbtOverride : Option PyFloat := none
  brakeOverride : Option PyFloat := none
  scenarioTick : Nat := 0
  forward : Bool := true

namespace LocomotiveState

/-- `__post_init__`: no end means the whole route, and the bounds are clamped. -/
def postInit (T : Trig) (draws : Draws) (s : LocomotiveState) : LocomotiveState :=
  let modeDuration :=
    if s.modeDuration = 0 then
      draws.randint (modeDurations s.mode).1 (modeDurations s.mode).2
    else s.modeDuration
  let stop := if s.endDistanceM ≤ 0 then s.route.lengthM else s.endDistanceM
  let startDistanceM := max 0 (min s.startDistanceM s.route.lengthM)
  let endDistanceM := max startDistanceM (min stop s.route.lengthM)
  let distanceM := max startDistanceM (min s.distanceM endDistanceM)
  { s with
    modeDuration, startDistanceM, endDistanceM, distanceM
    pose := s.route.positionAt T distanceM }

/-! ## Modes -/

def enterMode (draws : Draws) (s : LocomotiveState) (mode : LocomotiveMode) : LocomotiveState :=
  { s with
    mode
    modeTicks := 0
    modeDuration := draws.randint (modeDurations mode).1 (modeDurations mode).2 }

/-- The mode has lasted for its duration, the current tick included. -/
def due (s : LocomotiveState) : Prop := s.modeDuration ≤ s.modeTicks

instance (s : LocomotiveState) : Decidable s.due := inferInstanceAs (Decidable (_ ≤ _))

/-- Enter the mode when the current one is due. -/
def enterWhenDue (draws : Draws) (s : LocomotiveState) (mode : LocomotiveMode) :
    LocomotiveState :=
  if s.due then s.enterMode draws mode else s

def depot (draws : Draws) (s : LocomotiveState) : LocomotiveState :=
  s.enterWhenDue draws .departure

def departure (draws : Draws) (s : LocomotiveState) : LocomotiveState :=
  let targetNotch := min 8 (s.notch + 1)
  let notch :=
    if s.locoType = .te33a ∧ s.modeTicks % 20 = 0 ∧ s.notch < targetNotch then targetNotch
    else s.notch
  enterWhenDue draws { s with notch, speed := min 100 (s.speed + 0.5) } .cruising

def cruising (draws : Draws) (s : LocomotiveState) : LocomotiveState :=
  let notch := if s.locoType = .te33a then draws.notch else s.notch
  enterWhenDue draws { s with notch, speed := max 50 (min 110 (s.speed + draws.gauss)) } .arrival

/-- The only mode that turns the locomotive round when it ends. -/
def arrival (draws : Draws) (s : LocomotiveState) : LocomotiveState :=
  let notch := if s.locoType = .te33a then s.notch - 1 else s.notch
  let s := { s with notch, speed := max 0 (s.speed - 0.8) }
  if s.due then
    enterMode draws { s with speed := 0, notch := 0, forward := !s.forward } .depot
  else s

def aessSleep (draws : Draws) (s : LocomotiveState) : LocomotiveState :=
  enterWhenDue draws { s with speed := 0, notch := 0 } .departure

def emergency (draws : Draws) (s : LocomotiveState) : LocomotiveState :=
  enterWhenDue draws { s with speed := max 0 (s.speed - 2) } .recovery

def recovery (draws : Draws) (s : LocomotiveState) : LocomotiveState :=
  let notch :=
    if s.locoType = .te33a then min 4 (s.notch + if s.modeTicks % 30 = 0 then 1 else 0)
    else s.notch
  enterWhenDue draws { s with notch, speed := min 60 (s.speed + 0.3) } .cruising

/-- `_transition`, a branch of its `match` to each mode. -/
def transition (draws : Draws) (s : LocomotiveState) : LocomotiveState :=
  if s.autoMode then
    let s := { s with modeTicks := s.modeTicks + 1 }
    match s.mode with
    | .depot => s.depot draws
    | .departure => s.departure draws
    | .cruising => s.cruising draws
    | .arrival => s.arrival draws
    | .aessSleep => s.aessSleep draws
    | .emergency => s.emergency draws
    | .recovery => s.recovery draws
  else s

/-! ## Scenarios -/

def applyScenario (s : LocomotiveState) : LocomotiveState :=
  let s := { s with scenarioTick := s.scenarioTick + 1 }
  match s.scenario with
  | .normal => { s with igbtOverride := none, brakeOverride := none }
  | .degradation =>
      let progress := min 1 ((s.scenarioTick : PyFloat) / degradationDurationTicks)
      { s with
        igbtOverride :=
          some (degradationStartTemp + (degradationEndTemp - degradationStartTemp) * progress)
        brakeOverride := none }
  | .emergency =>
      let brake :=
        if s.scenarioTick ≤ emergencyDurationTicks then
          brakeNormal + (brakeFault - brakeNormal) *
            ((s.scenarioTick : PyFloat) / (emergencyDurationTicks : PyFloat))
        else brakeFault
      { s with
        brakeOverride := some brake
        mode := .emergency
        speed := max 0 (s.speed - 2)
        igbtOverride := none }

/-! ## Motion -/

def onSegmentBoundHit (atEnd : Bool) (s : LocomotiveState) : LocomotiveState :=
  match s.onArrival, atEnd with
  | .loop, _ => { s with forward := !s.forward }
  | .stop, true => { s with speed := 0, mode := .depot, autoMode := false, arrived := true }
  | .remove, true => { s with speed := 0, arrived := true }
  | _, false => { s with speed := 0, forward := true }

/-- `_update_gps` but for the cached pose. -/
def move (dt : PyFloat) (s : LocomotiveState) : LocomotiveState :=
  if 0 < s.speed then
    let deltaM := s.speed * 1000 / 3600 * dt
    if s.forward then
      let distanceM := s.distanceM + deltaM
      if s.endDistanceM ≤ distanceM then
        onSegmentBoundHit true { s with distanceM := s.endDistanceM }
      else { s with distanceM }
    else
      let distanceM := s.distanceM - deltaM
      if distanceM ≤ s.startDistanceM then
        onSegmentBoundHit false { s with distanceM := s.startDistanceM }
      else { s with distanceM }
  else s

def updateGps (T : Trig) (dt : PyFloat) (s : LocomotiveState) : LocomotiveState :=
  let s := s.move dt
  { s with pose := s.route.positionAt T s.distanceM }

def tick (T : Trig) (draws : Draws) (dt : PyFloat) (s : LocomotiveState) : LocomotiveState :=
  ((s.transition draws).applyScenario).updateGps T dt

/-! ## What each part leaves alone -/

/-- The fields a tick only changes by moving. -/
structure SamePlace (s s' : LocomotiveState) : Prop where
  route : s'.route = s.route
  distanceM : s'.distanceM = s.distanceM
  startDistanceM : s'.startDistanceM = s.startDistanceM
  endDistanceM : s'.endDistanceM = s.endDistanceM
  onArrival : s'.onArrival = s.onArrival
  arrived : s'.arrived = s.arrived

theorem SamePlace.trans {s t u : LocomotiveState} (first : SamePlace s t)
    (second : SamePlace t u) : SamePlace s u where
  route := second.route.trans first.route
  distanceM := second.distanceM.trans first.distanceM
  startDistanceM := second.startDistanceM.trans first.startDistanceM
  endDistanceM := second.endDistanceM.trans first.endDistanceM
  onArrival := second.onArrival.trans first.onArrival
  arrived := second.arrived.trans first.arrived

/-- Nor does the locomotive turn round, or its speed become negative. -/
structure Steady (s s' : LocomotiveState) : Prop extends SamePlace s s' where
  forward : s'.forward = s.forward
  speed : 0 ≤ s.speed → 0 ≤ s'.speed

theorem Steady.trans {s t u : LocomotiveState} (first : Steady s t) (second : Steady t u) :
    Steady s u where
  toSamePlace := first.toSamePlace.trans second.toSamePlace
  forward := second.forward.trans first.forward
  speed h := second.speed (first.speed h)

/-- A new speed and a new notch, then perhaps a new mode. -/
theorem steady_enterWhenDue (draws : Draws) {s : LocomotiveState} (mode : LocomotiveMode)
    {speed : PyFloat} (notch : Nat) (h : 0 ≤ s.speed → 0 ≤ speed) :
    Steady s (enterWhenDue draws { s with notch, speed } mode) := by
  unfold enterWhenDue
  split
  · exact ⟨⟨rfl, rfl, rfl, rfl, rfl, rfl⟩, rfl, h⟩
  · exact ⟨⟨rfl, rfl, rfl, rfl, rfl, rfl⟩, rfl, h⟩

theorem steady_depot (draws : Draws) (s : LocomotiveState) : Steady s (s.depot draws) :=
  steady_enterWhenDue draws .departure s.notch fun h => h

theorem steady_departure (draws : Draws) (s : LocomotiveState) :
    Steady s (s.departure draws) := by
  apply steady_enterWhenDue
  intro h
  exact le_min (by norm_num) (by linarith)

theorem steady_cruising (draws : Draws) (s : LocomotiveState) : Steady s (s.cruising draws) := by
  apply steady_enterWhenDue
  intro _
  exact le_max_of_le_left (by norm_num)

theorem steady_aessSleep (draws : Draws) (s : LocomotiveState) :
    Steady s (s.aessSleep draws) := by
  apply steady_enterWhenDue
  intro _
  exact le_rfl

theorem steady_emergency (draws : Draws) (s : LocomotiveState) :
    Steady s (s.emergency draws) := by
  apply steady_enterWhenDue draws .recovery s.notch
  intro _
  exact le_max_left _ _

theorem steady_recovery (draws : Draws) (s : LocomotiveState) : Steady s (s.recovery draws) := by
  apply steady_enterWhenDue
  intro h
  exact le_min (by norm_num) (by linarith)

/-- The mode machine is about to turn the locomotive round. -/
def LeavesArrival (s : LocomotiveState) : Prop :=
  s.autoMode = true ∧ s.mode = .arrival ∧ s.modeDuration ≤ s.modeTicks + 1

instance (s : LocomotiveState) : Decidable s.LeavesArrival :=
  inferInstanceAs (Decidable (_ ∧ _ ∧ _))

/-- Short of the end of ARRIVAL the mode machine is steady. -/
theorem steady_transition (draws : Draws) {s : LocomotiveState} (h : ¬ s.LeavesArrival) :
    Steady s (s.transition draws) := by
  have ticked : Steady s { s with modeTicks := s.modeTicks + 1 } :=
    ⟨⟨rfl, rfl, rfl, rfl, rfl, rfl⟩, rfl, fun h => h⟩
  unfold transition
  split
  case isTrue auto =>
    dsimp only
    split
    case h_1 => exact ticked.trans (steady_depot draws _)
    case h_2 => exact ticked.trans (steady_departure draws _)
    case h_3 => exact ticked.trans (steady_cruising draws _)
    case h_4 mode =>
      have lasts : ¬ s.modeDuration ≤ s.modeTicks + 1 := fun due => h ⟨auto, mode, due⟩
      simp only [arrival, due, if_neg lasts]
      exact ⟨⟨rfl, rfl, rfl, rfl, rfl, rfl⟩, rfl, fun _ => le_max_left _ _⟩
    case h_5 => exact ticked.trans (steady_aessSleep draws _)
    case h_6 => exact ticked.trans (steady_emergency draws _)
    case h_7 => exact ticked.trans (steady_recovery draws _)
  case isFalse => exact ⟨⟨rfl, rfl, rfl, rfl, rfl, rfl⟩, rfl, fun h => h⟩

/-- The end of ARRIVAL stops the locomotive and turns it round. -/
theorem transition_leavesArrival (draws : Draws) {s : LocomotiveState} (h : s.LeavesArrival) :
    SamePlace s (s.transition draws) ∧ (s.transition draws).speed = 0 ∧
      (s.transition draws).forward = !s.forward := by
  obtain ⟨auto, mode, due⟩ := h
  simp only [transition, auto, if_true, mode, arrival, LocomotiveState.due, if_pos due]
  exact ⟨⟨rfl, rfl, rfl, rfl, rfl, rfl⟩, rfl, rfl⟩

theorem steady_applyScenario (s : LocomotiveState) : Steady s s.applyScenario := by
  unfold applyScenario
  dsimp only
  split
  case h_1 => exact ⟨⟨rfl, rfl, rfl, rfl, rfl, rfl⟩, rfl, fun h => h⟩
  case h_2 => exact ⟨⟨rfl, rfl, rfl, rfl, rfl, rfl⟩, rfl, fun h => h⟩
  case h_3 => exact ⟨⟨rfl, rfl, rfl, rfl, rfl, rfl⟩, rfl, fun _ => le_max_left _ _⟩

/-- A locomotive at rest stays at rest. -/
theorem applyScenario_speed_zero {s : LocomotiveState} (h : s.speed = 0) :
    s.applyScenario.speed = 0 := by
  unfold applyScenario
  dsimp only
  split
  case h_1 => exact h
  case h_2 => exact h
  case h_3 =>
    rw [h]
    norm_num

/-! ## What each part can do -/

/-- The mode that follows when a mode is due. -/
def nextMode : LocomotiveMode → LocomotiveMode
  | .depot => .departure
  | .departure => .cruising
  | .cruising => .arrival
  | .arrival => .depot
  | .aessSleep => .departure
  | .emergency => .recovery
  | .recovery => .cruising

/-- The locomotive with one more tick in its mode. -/
def ticked (s : LocomotiveState) (speed : PyFloat) (notch : Nat) (forward : Bool) :
    LocomotiveState :=
  { s with modeTicks := s.modeTicks + 1, speed, notch, forward }

theorem enterWhenDue_cases (draws : Draws) (s : LocomotiveState) (mode : LocomotiveMode)
    (speed : PyFloat) (notch : Nat) :
    (¬ s.modeDuration ≤ s.modeTicks + 1 ∧
      enterWhenDue draws { s with modeTicks := s.modeTicks + 1, notch, speed } mode =
        s.ticked speed notch s.forward) ∨
    (s.modeDuration ≤ s.modeTicks + 1 ∧
      enterWhenDue draws { s with modeTicks := s.modeTicks + 1, notch, speed } mode =
        (s.ticked speed notch s.forward).enterMode draws mode) := by
  by_cases due : s.modeDuration ≤ s.modeTicks + 1
  · exact .inr ⟨due, if_pos due⟩
  · exact .inl ⟨due, if_neg due⟩

/-- The mode machine in AUTO: a tick more in the mode, and the next mode when that is due. -/
theorem transition_auto (draws : Draws) {s : LocomotiveState} (auto : s.autoMode = true) :
    ∃ speed notch forward, (s.mode = .emergency → speed = max 0 (s.speed - 2)) ∧
      ((¬ s.modeDuration ≤ s.modeTicks + 1 ∧
          s.transition draws = s.ticked speed notch forward) ∨
        (s.modeDuration ≤ s.modeTicks + 1 ∧
          s.transition draws =
            (s.ticked speed notch forward).enterMode draws (nextMode s.mode))) := by
  unfold transition
  rw [if_pos auto]
  dsimp only
  split
  case h_1 mode =>
    have next : nextMode s.mode = .departure := congrArg nextMode mode
    rw [next]
    exact ⟨s.speed, s.notch, s.forward, (fun h => nomatch mode.symm.trans h),
      enterWhenDue_cases draws s .departure _ _⟩
  case h_2 mode =>
    have next : nextMode s.mode = .cruising := congrArg nextMode mode
    rw [next]
    exact ⟨_, _, s.forward, (fun h => nomatch mode.symm.trans h),
      enterWhenDue_cases draws s .cruising _ _⟩
  case h_3 mode =>
    have next : nextMode s.mode = .arrival := congrArg nextMode mode
    rw [next]
    exact ⟨_, _, s.forward, (fun h => nomatch mode.symm.trans h),
      enterWhenDue_cases draws s .arrival _ _⟩
  case h_4 mode =>
    have next : nextMode s.mode = .depot := congrArg nextMode mode
    rw [next]
    unfold arrival
    by_cases due : s.modeDuration ≤ s.modeTicks + 1
    · exact ⟨0, 0, !s.forward, (fun h => nomatch mode.symm.trans h), .inr ⟨due, if_pos due⟩⟩
    · exact ⟨_, _, s.forward, (fun h => nomatch mode.symm.trans h), .inl ⟨due, if_neg due⟩⟩
  case h_5 mode =>
    have next : nextMode s.mode = .departure := congrArg nextMode mode
    rw [next]
    exact ⟨0, 0, s.forward, (fun h => nomatch mode.symm.trans h),
      enterWhenDue_cases draws s .departure _ _⟩
  case h_6 mode =>
    have next : nextMode s.mode = .recovery := congrArg nextMode mode
    rw [next]
    exact ⟨_, s.notch, s.forward, fun _ => rfl, enterWhenDue_cases draws s .recovery _ _⟩
  case h_7 mode =>
    have next : nextMode s.mode = .cruising := congrArg nextMode mode
    rw [next]
    exact ⟨_, _, s.forward, (fun h => nomatch mode.symm.trans h),
      enterWhenDue_cases draws s .cruising _ _⟩

/-- Without AUTO the mode machine rests. -/
theorem transition_manual (draws : Draws) {s : LocomotiveState} (manual : s.autoMode = false) :
    s.transition draws = s := by
  unfold transition
  rw [if_neg (by rw [manual]; decide)]

/-- What holds of a tick more in a mode, of the next mode and of the locomotive itself holds
after the mode machine. -/
theorem transition_keeps {P : LocomotiveState → Prop} (draws : Draws) {s : LocomotiveState}
    (rests : P s) (lasts : ∀ speed notch forward, P (s.ticked speed notch forward))
    (enters : ∀ speed notch forward mode,
      P ((s.ticked speed notch forward).enterMode draws mode)) :
    P (s.transition draws) := by
  cases auto : s.autoMode with
  | false =>
      rw [transition_manual draws auto]
      exact rests
  | true =>
      obtain ⟨speed, notch, forward, -, ⟨-, same⟩ | ⟨-, next⟩⟩ := transition_auto draws auto
      · rw [same]
        exact lasts speed notch forward
      · rw [next]
        exact enters speed notch forward (nextMode s.mode)

theorem samePlace_transition (draws : Draws) (s : LocomotiveState) :
    SamePlace s (s.transition draws) := by
  apply transition_keeps draws
  · exact ⟨rfl, rfl, rfl, rfl, rfl, rfl⟩
  · exact fun _ _ _ => ⟨rfl, rfl, rfl, rfl, rfl, rfl⟩
  · exact fun _ _ _ _ => ⟨rfl, rfl, rfl, rfl, rfl, rfl⟩

/-- The motion of a tick comes to the end of the segment. -/
def ReachesEnd (s : LocomotiveState) (dt : PyFloat) : Prop :=
  0 < s.speed ∧ s.forward = true ∧ s.endDistanceM ≤ s.distanceM + s.speed * 1000 / 3600 * dt

instance (s : LocomotiveState) (dt : PyFloat) : Decidable (s.ReachesEnd dt) :=
  inferInstanceAs (Decidable (_ ∧ _ ∧ _))

/-- Motion applies the policy at the end, or the one at the start, or changes the place
only. -/
theorem move_cases (dt : PyFloat) (s : LocomotiveState) :
    (s.ReachesEnd dt ∧
      s.move dt = onSegmentBoundHit true { s with distanceM := s.endDistanceM }) ∨
    (¬ s.ReachesEnd dt ∧ 0 < s.speed ∧
      s.move dt = onSegmentBoundHit false { s with distanceM := s.startDistanceM }) ∨
    (¬ s.ReachesEnd dt ∧ ∃ distanceM, (s.speed ≤ 0 → distanceM = s.distanceM) ∧
      s.move dt = { s with distanceM }) := by
  unfold ReachesEnd move
  by_cases moving : 0 < s.speed
  · rw [if_pos moving]
    cases forward : s.forward with
    | true =>
        by_cases reached : s.endDistanceM ≤ s.distanceM + s.speed * 1000 / 3600 * dt
        · exact .inl ⟨⟨moving, rfl, reached⟩, if_pos reached⟩
        · exact .inr (.inr ⟨fun h => reached h.2.2, _,
            fun still => absurd moving (not_lt.mpr still), if_neg reached⟩)
    | false =>
        by_cases reached : s.distanceM - s.speed * 1000 / 3600 * dt ≤ s.startDistanceM
        · exact .inr (.inl ⟨fun h => Bool.noConfusion h.2.1, moving, if_pos reached⟩)
        · exact .inr (.inr ⟨fun h => Bool.noConfusion h.2.1, _,
            fun still => absurd moving (not_lt.mpr still), if_neg reached⟩)
  · rw [if_neg moving]
    exact .inr (.inr ⟨fun h => moving h.1, s.distanceM, fun _ => rfl, rfl⟩)

/-- What holds of every policy at a bound and of every place holds after motion. -/
theorem move_keeps {P : LocomotiveState → Prop} (dt : PyFloat) {s : LocomotiveState}
    (hit : ∀ atEnd distanceM, P (onSegmentBoundHit atEnd { s with distanceM }))
    (moved : ∀ distanceM, P { s with distanceM }) : P (s.move dt) := by
  rcases move_cases dt s with ⟨-, atEnd⟩ | ⟨-, -, atStart⟩ | ⟨-, distanceM, -, same⟩
  · rw [atEnd]
    exact hit true s.endDistanceM
  · rw [atStart]
    exact hit false s.startDistanceM
  · rw [same]
    exact moved distanceM

/-! ## Where a locomotive is -/

/-- `0 <= start_distance_m <= distance_m <= end_distance_m <= route.length_m` -/
structure Bounded (s : LocomotiveState) : Prop where
  start : 0 ≤ s.startDistanceM
  low : s.startDistanceM ≤ s.distanceM
  high : s.distanceM ≤ s.endDistanceM
  stop : s.endDistanceM ≤ s.route.lengthM

theorem Bounded.congr {s s' : LocomotiveState} (h : s.Bounded) (same : SamePlace s s') :
    s'.Bounded where
  start := same.startDistanceM ▸ h.start
  low := by
    rw [same.startDistanceM, same.distanceM]
    exact h.low
  high := by
    rw [same.distanceM, same.endDistanceM]
    exact h.high
  stop := by
    rw [same.endDistanceM, same.route]
    exact h.stop

/-- The policy at a bound leaves the place alone. -/
theorem onSegmentBoundHit_place (atEnd : Bool) (s : LocomotiveState) :
    (onSegmentBoundHit atEnd s).route = s.route ∧
      (onSegmentBoundHit atEnd s).distanceM = s.distanceM ∧
      (onSegmentBoundHit atEnd s).startDistanceM = s.startDistanceM ∧
      (onSegmentBoundHit atEnd s).endDistanceM = s.endDistanceM := by
  unfold onSegmentBoundHit
  cases s.onArrival <;> cases atEnd <;> exact ⟨rfl, rfl, rfl, rfl⟩

theorem Bounded.boundHit {s : LocomotiveState} (h : s.Bounded) (atEnd : Bool) :
    (onSegmentBoundHit atEnd s).Bounded := by
  obtain ⟨route, distanceM, startDistanceM, endDistanceM⟩ := onSegmentBoundHit_place atEnd s
  refine ⟨?_, ?_, ?_, ?_⟩
  · rw [startDistanceM]
    exact h.start
  · rw [startDistanceM, distanceM]
    exact h.low
  · rw [distanceM, endDistanceM]
    exact h.high
  · rw [endDistanceM, route]
    exact h.stop

theorem deltaM_nonneg {s : LocomotiveState} {dt : PyFloat} (moving : 0 < s.speed) (hdt : 0 ≤ dt) :
    0 ≤ s.speed * 1000 / 3600 * dt := by
  apply mul_nonneg _ hdt
  positivity

/-- Motion stays within the segment. -/
theorem Bounded.move {s : LocomotiveState} (h : s.Bounded) {dt : PyFloat} (hdt : 0 ≤ dt) :
    (s.move dt).Bounded := by
  have segment : s.startDistanceM ≤ s.endDistanceM := h.low.trans h.high
  unfold LocomotiveState.move
  by_cases moving : 0 < s.speed
  · have delta := deltaM_nonneg moving hdt
    rw [if_pos moving]
    cases s.forward with
    | true =>
        dsimp only
        rw [if_pos rfl]
        split
        case isTrue reached =>
          apply Bounded.boundHit
          exact ⟨h.start, segment, le_rfl, h.stop⟩
        case isFalse short =>
          have low := h.low
          exact ⟨h.start, by show s.startDistanceM ≤ _; linarith, (not_le.mp short).le, h.stop⟩
    | false =>
        dsimp only
        rw [if_neg (by decide)]
        split
        case isTrue reached =>
          apply Bounded.boundHit
          exact ⟨h.start, le_rfl, segment, h.stop⟩
        case isFalse short =>
          have high := h.high
          exact ⟨h.start, (not_le.mp short).le, by show _ ≤ s.endDistanceM; linarith, h.stop⟩
  · rw [if_neg moving]
    exact h

theorem Bounded.tick {s : LocomotiveState} (h : s.Bounded) (T : Trig) (draws : Draws)
    {dt : PyFloat} (hdt : 0 ≤ dt) : (s.tick T draws dt).Bounded := by
  have moved : ((s.transition draws).applyScenario.move dt).Bounded := by
    apply Bounded.move _ hdt
    exact h.congr ((samePlace_transition draws s).trans (steady_applyScenario _).toSamePlace)
  exact ⟨moved.start, moved.low, moved.high, moved.stop⟩

theorem bounded_postInit (T : Trig) (draws : Draws) (s : LocomotiveState) :
    (s.postInit T draws).Bounded where
  start := le_max_left _ _
  low := le_max_left _ _
  high := max_le (le_max_left _ _) (min_le_right _ _)
  stop := max_le (max_le s.route.lengthM_nonneg (min_le_right _ _)) (min_le_right _ _)

end LocomotiveState

end LocoTwin.Simulator
