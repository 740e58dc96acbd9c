/-
# Simulator.OneShot -- trips that end at their destination

With STOP or REMOVE a locomotive is meant to end its trip at the end of its segment.  Two
places change its direction: the policy at a bound, which these two never turn round, and
the mode machine, which turns round whatever leaves ARRIVAL.

* `one_way_iff`: a trip never turns back exactly when no tick finds the end of ARRIVAL due;
* `turned_back`: a STOP trip that brakes short of its end is turned round.
-/
import LocoTwin.Simulator.Position

namespace LocoTwin.Simulator

open LocoTwin.Lib LocoTwin.Shared LocomotiveState

set_option autoImplicit false

/-- The locomotive after each tick of the runner. -/
def ticks (T : Trig) (draws : Nat → Draws) (s : LocomotiveState) : Nat → LocomotiveState
  | 0 => s
  | n + 1 => (ticks T draws s n).tick T (draws n) locoTickSeconds

/-- Up to tick `N` the trip goes forward, and if it is over, it is at the end. -/
structure OneWay (T : Trig) (draws : Nat → Draws) (s : LocomotiveState) (N : Nat) : Prop where
  forward : ∀ n ≤ N, (ticks T draws s n).forward = true
  onward : ∀ m n, m ≤ n → n ≤ N →
    (ticks T draws s m).distanceM ≤ (ticks T draws s n).distanceM
  arrived : ∀ n ≤ N, (ticks T draws s n).arrived = true →
    s.arrived = true ∨ (ticks T draws s n).distanceM = s.endDistanceM

namespace LocomotiveState

/-- A one-shot trip under way towards `dest`. -/
structure Outbound (dest : PyFloat) (was : Bool) (s : LocomotiveState) : Prop where
  policy : s.onArrival ≠ .loop
  forward : s.forward = true
  speed : 0 ≤ s.speed
  stop : s.endDistanceM = dest
  high : s.distanceM ≤ dest
  arrived : s.arrived = true → was = true ∨ s.distanceM = dest

variable {dest : PyFloat} {was : Bool} {s : LocomotiveState}

theorem Outbound.steady {s' : LocomotiveState} (h : Outbound dest was s) (steady : Steady s s') :
    Outbound dest was s' where
  policy := steady.onArrival ▸ h.policy
  forward := steady.forward.trans h.forward
  speed := steady.speed h.speed
  stop := steady.endDistanceM.trans h.stop
  high := steady.distanceM ▸ h.high
  arrived := by
    rw [steady.arrived, steady.distanceM]
    exact h.arrived

/-- At the end a one-shot trip is over; it is not turned round. -/
theorem Outbound.boundHit (h : Outbound dest was s) (there : s.distanceM = dest) :
    Outbound dest was (onSegmentBoundHit true s) ∧
      (onSegmentBoundHit true s).distanceM = dest := by
  unfold onSegmentBoundHit
  cases policy : s.onArrival with
  | loop => exact absurd policy h.policy
  | stop =>
      refine ⟨⟨?_, h.forward, le_rfl, h.stop, h.high, fun _ => .inr there⟩, there⟩
      intro loop
      cases loop
  | remove =>
      refine ⟨⟨?_, h.forward, le_rfl, h.stop, h.high, fun _ => .inr there⟩, there⟩
      intro loop
      cases loop

/-- Motion forward. -/
theorem Outbound.move (h : Outbound dest was s) {dt : PyFloat} (hdt : 0 ≤ dt) :
    Outbound dest was (s.move dt) ∧ s.distanceM ≤ (s.move dt).distanceM := by
  unfold LocomotiveState.move
  by_cases moving : 0 < s.speed
  · have delta := deltaM_nonneg moving hdt
    rw [if_pos moving, if_pos h.forward]
    dsimp only
    split
    case isTrue reached =>
      have outbound : Outbound dest was { s with distanceM := s.endDistanceM } :=
        ⟨h.policy, h.forward, h.speed, h.stop, h.stop.le, fun _ => .inr h.stop⟩
      obtain ⟨hit, there⟩ := outbound.boundHit h.stop
      refine ⟨hit, ?_⟩
      rw [there]
      exact h.high
    case isFalse short =>
      have below : s.distanceM + s.speed * 1000 / 3600 * dt < dest := h.stop ▸ not_le.mp short
      refine ⟨⟨h.policy, h.forward, h.speed, h.stop, below.le, ?_⟩, ?_⟩
      · intro arrived
        -- a trip that is over is at the end, so it has not moved on
        rcases h.arrived arrived with before | there
        · exact .inl before
        · refine absurd below (not_lt.mpr ?_)
          linarith
      · show s.distanceM ≤ s.distanceM + s.speed * 1000 / 3600 * dt
        linarith
  · rw [if_neg moving]
    exact ⟨h, le_rfl⟩

/-- **A tick of a one-shot trip** goes forward unless the end of ARRIVAL is due. -/
theorem Outbound.tick (h : Outbound dest was s) (T : Trig) (draws : Draws) {dt : PyFloat}
    (hdt : 0 ≤ dt) (stays : ¬ s.LeavesArrival) :
    Outbound dest was (s.tick T draws dt) ∧ s.distanceM ≤ (s.tick T draws dt).distanceM := by
  have steady : Steady s (s.transition draws).applyScenario :=
    (steady_transition draws stays).trans (steady_applyScenario _)
  obtain ⟨moved, onward⟩ := (h.steady steady).move hdt
  rw [steady.distanceM] at onward
  exact ⟨⟨moved.policy, moved.forward, moved.speed, moved.stop, moved.high, moved.arrived⟩,
    onward⟩

/-- The end of ARRIVAL turns the locomotive round, and it stands still in that tick. -/
theorem tick_leavesArrival (T : Trig) (draws : Draws) (dt : PyFloat) (leaves : s.LeavesArrival) :
    (s.tick T draws dt).forward = !s.forward := by
  obtain ⟨-, speed, turned⟩ := transition_leavesArrival draws leaves
  have rest := applyScenario_speed_zero speed
  have still : (s.transition draws).applyScenario.move dt =
      (s.transition draws).applyScenario := by
    unfold LocomotiveState.move
    rw [if_neg (by rw [rest]; exact lt_irrefl 0)]
  show ((s.transition draws).applyScenario.move dt).forward = !s.forward
  rw [still, (steady_applyScenario _).forward, turned]

end LocomotiveState

theorem outbound_ticks {T : Trig} {draws : Nat → Draws} {s : LocomotiveState} {dest : PyFloat}
    {was : Bool} (start : Outbound dest was s) {n : Nat}
    (stays : ∀ m < n, ¬ (ticks T draws s m).LeavesArrival) :
    Outbound dest was (ticks T draws s n) := by
  induction n with
  | zero => exact start
  | succ n ih =>
      have before := ih fun m lt => stays m (Nat.lt_succ_of_lt lt)
      exact (before.tick T (draws n) zero_le_one (stays n (Nat.lt_succ_self n))).1

theorem onward_ticks {T : Trig} {draws : Nat → Draws} {s : LocomotiveState} {dest : PyFloat}
    {was : Bool} (start : Outbound dest was s) {m n : Nat} (le : m ≤ n)
    (stays : ∀ k < n, ¬ (ticks T draws s k).LeavesArrival) :
    (ticks T draws s m).distanceM ≤ (ticks T draws s n).distanceM := by
  induction n, le using Nat.le_induction with
  | base => exact le_rfl
  | succ n _ ih =>
      have before := outbound_ticks start fun k lt => stays k (Nat.lt_succ_of_lt lt)
      have step := (before.tick T (draws n) zero_le_one (stays n (Nat.lt_succ_self n))).2
      exact (ih fun k lt => stays k (Nat.lt_succ_of_lt lt)).trans step

/-- **A one-shot trip never turns back exactly when no tick finds the end of ARRIVAL due**:
for any locomotive with STOP or REMOVE that is headed for its end, any draws and any number
of ticks. -/
theorem one_way_iff {T : Trig} {s : LocomotiveState} (policy : s.onArrival ≠ .loop)
    (forward : s.forward = true) (speed : 0 ≤ s.speed)
    (high : s.distanceM ≤ s.endDistanceM) (draws : Nat → Draws) (N : Nat) :
    OneWay T draws s N ↔ ∀ n < N, ¬ (ticks T draws s n).LeavesArrival := by
  have start : Outbound s.endDistanceM s.arrived s :=
    ⟨policy, forward, speed, rfl, high, .inl⟩
  constructor
  · intro oneWay n lt leaves
    have turned := tick_leavesArrival T (draws n) locoTickSeconds leaves
    rw [oneWay.forward n lt.le] at turned
    have still := oneWay.forward (n + 1) lt
    exact absurd (still.symm.trans turned) (by decide)
  · intro stays
    have upTo {n : Nat} (le : n ≤ N) : ∀ m < n, ¬ (ticks T draws s m).LeavesArrival :=
      fun m lt => stays m (lt.trans_le le)
    refine ⟨?_, ?_, ?_⟩
    · intro n le
      exact (outbound_ticks start (upTo le)).forward
    · intro m n le leN
      exact onward_ticks start le (upTo leN)
    · intro n le
      exact (outbound_ticks start (upTo le)).arrived

/-- A STOP trip along the equator, in motion. -/
def stopTrip (mode : LocomotiveMode) : LocomotiveState :=
  postInit smallAngles calm
    { id := 1, locoType := .te33a, route := equator, mode, autoMode := true, speed := 72
      endDistanceM := 10000, onArrival := .stop }

/-- Twenty seconds after the start the trip is under way. -/
theorem one_way_cruising : OneWay smallAngles (fun _ => calm) (stopTrip .cruising) 20 := by
  apply (one_way_iff (by decide) rfl (by decide +kernel) (by decide +kernel) _ 20).mpr
  decide +kernel

/-- The trip starts in ARRIVAL, brakes and stops short of its end.  Three minutes after the
start it is turned round. -/
theorem turned_back :
    (stopTrip .arrival).onArrival = .stop ∧ (stopTrip .arrival).autoMode = true ∧
    (stopTrip .arrival).forward = true ∧
    (ticks smallAngles (fun _ => calm) (stopTrip .arrival) 180).forward = false := by
  refine ⟨rfl, rfl, rfl, ?_⟩
  decide +kernel

end LocoTwin.Simulator
