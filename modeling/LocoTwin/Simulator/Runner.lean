/-
# Simulator.Runner -- the fleet, as operators build it

The fleet maps ids to locomotives.  A call that fails raises before it changes anything.
Kilometre marks come in, metres are stored.  The delivery of readings is the subject of
another module.
-/
import LocoTwin.Lib.Dict
import LocoTwin.Lib.Transition
import LocoTwin.Simulator.LocomotiveState

namespace LocoTwin.Simulator

open LocoTwin.Lib LocoTwin.Shared

set_option autoImplicit false

abbrev Fleet := Dict UUID LocomotiveState

inductive RunnerError where
  /-- `ValueError("Unknown route: ...")` -/
  | unknownRoute (routeName : String)
  /-- `ValueError("Locomotive ... already in simulator")` -/
  | alreadyInSimulator (locoId : UUID)
  | locomotiveNotFound (locoId : UUID)
  deriving DecidableEq, Repr

structure AddLocomotive where
  locoId : UUID
  locoType : LocomotiveType
  routeName : String
  name : String := ""
  startKm : PyFloat := 0
  endKm : Option PyFloat := none
  mode : LocomotiveMode := .depot
  scenario : LocomotiveScenario := .normal
  onArrival : OnArrival := .loop
  autoMode : Bool := false
  initialSpeedKmh : PyFloat := 0

structure UpdateLocomotive where
  routeName : Option String := none
  startKm : Option PyFloat := none
  endKm : Option PyFloat := none
  mode : Option LocomotiveMode := none
  scenario : Option LocomotiveScenario := none
  onArrival : Option OnArrival := none
  autoMode : Option Bool := none
  speedKmh : Option PyFloat := none
  name : Option String := none

def addLocomotive (T : Trig) (routes : List Route) (draws : Draws) (fleet : Fleet)
    (req : AddLocomotive) : Except RunnerError Fleet :=
  match getRoute routes req.routeName with
  | none => .error (.unknownRoute req.routeName)
  | some route =>
      let endKm := req.endKm.getD (route.lengthM / 1000)
      let startM := max 0 (min req.startKm (route.lengthM / 1000)) * 1000
      let endM := max (startM / 1000) (min endKm (route.lengthM / 1000)) * 1000
      if req.locoId ∈ fleet.keys then .error (.alreadyInSimulator req.locoId)
      else
        let state : LocomotiveState :=
          { id := req.locoId
            locoType := req.locoType
            route
            name := req.name
            mode := req.mode
            scenario := req.scenario
            autoMode := req.autoMode
            speed := req.initialSpeedKmh
            distanceM := startM
            startDistanceM := startM
            endDistanceM := endM
            onArrival := req.onArrival
            forward := true }
        .ok (fleet.set req.locoId (state.postInit T draws))

namespace LocomotiveState

/-- A new route snaps the position back to its start. -/
def setRoute (s : LocomotiveState) (route : Route) : LocomotiveState :=
  { s with route, startDistanceM := 0, endDistanceM := route.lengthM, distanceM := 0 }

/-- `start_km` and `end_km`, each where it is given, and the position clamped to both. -/
def setBounds (s : LocomotiveState) (startKm endKm : Option PyFloat) : LocomotiveState :=
  let startDistanceM :=
    match startKm with
    | some km => max 0 (min (km * 1000) s.route.lengthM)
    | none => s.startDistanceM
  let endDistanceM :=
    match endKm with
    | some km => max startDistanceM (min (km * 1000) s.route.lengthM)
    | none => s.endDistanceM
  { s with
    startDistanceM, endDistanceM
    distanceM := max startDistanceM (min s.distanceM endDistanceM) }

def setMode (s : LocomotiveState) : Option LocomotiveMode → LocomotiveState
  | some mode => { s with mode, modeTicks := 0 }
  | none => s

def setScenario (s : LocomotiveState) : Option LocomotiveScenario → LocomotiveState
  | some scenario =>
      if scenario = s.scenario then s
      else if scenario = .normal then
        { s with scenario, scenarioTick := 0, igbtOverride := none, brakeOverride := none }
      else { s with scenario, scenarioTick := 0 }
  | none => s

/-- The rest of an update, which leaves the place alone. -/
def setRest (s : LocomotiveState) (req : UpdateLocomotive) : LocomotiveState :=
  let s := (s.setMode req.mode).setScenario req.scenario
  { s with
    onArrival := req.onArrival.getD s.onArrival
    autoMode := req.autoMode.getD s.autoMode
    speed := match req.speedKmh with
      | some kmh => max 0 kmh
      | none => s.speed
    name := req.name.getD s.name }

def refreshPose (T : Trig) (s : LocomotiveState) : LocomotiveState :=
  { s with pose := s.route.positionAt T s.distanceM }

end LocomotiveState

/-- The locomotive, moved to the route that is asked for. -/
def rerouted (routes : List Route) (s : LocomotiveState) :
    Option String → Except RunnerError LocomotiveState
  | none => .ok s
  | some routeName =>
      match getRoute routes routeName with
      | none => .error (.unknownRoute routeName)
      | some route => .ok (s.setRoute route)

def updateState (T : Trig) (routes : List Route) (s : LocomotiveState) (req : UpdateLocomotive) :
    Except RunnerError LocomotiveState :=
  match rerouted routes s req.routeName with
  | .error e => .error e
  | .ok s => .ok (((s.setBounds req.startKm req.endKm).setRest req).refreshPose T)

def updateLocomotive (T : Trig) (routes : List Route) (fleet : Fleet) (locoId : UUID)
    (req : UpdateLocomotive) : Except RunnerError Fleet :=
  match fleet.get? locoId with
  | none => .error (.locomotiveNotFound locoId)
  | some s =>
      match updateState T routes s req with
      | .error e => .error e
      | .ok s' => .ok (fleet.set locoId s')

def removeLocomotive (fleet : Fleet) (locoId : UUID) : Except RunnerError Fleet :=
  if locoId ∈ fleet.keys then .ok (fleet.pop locoId) else .error (.locomotiveNotFound locoId)

/-- The part of `_do_tick` that changes the fleet: every locomotive is ticked, then those
that finished a one-shot REMOVE trip are dropped. -/
def doTick (T : Trig) (draws : UUID → Draws) (fleet : Fleet) : Fleet :=
  (fleet.mapValues fun locoId s => s.tick T (draws locoId) locoTickSeconds).filterValues
    fun s => !(s.arrived && s.onArrival == .remove)

/-! ## What happens to a fleet -/

inductive FleetCall where
  | add (draws : Draws) (req : AddLocomotive)
  | update (locoId : UUID) (req : UpdateLocomotive)
  | remove (locoId : UUID)
  | tick (locoId : UUID) (draws : Draws) (dt : PyFloat)

/-- The fleet after a call, the same one where the call raises. -/
def Fleet.after (fleet : Fleet) : Except RunnerError Fleet → Fleet
  | .ok fleet' => fleet'
  | .error _ => fleet

def Fleet.call (T : Trig) (routes : List Route) (fleet : Fleet) : FleetCall → Fleet
  | .add draws req => fleet.after (addLocomotive T routes draws fleet req)
  | .update locoId req => fleet.after (updateLocomotive T routes fleet locoId req)
  | .remove locoId => fleet.after (removeLocomotive fleet locoId)
  | .tick locoId draws dt =>
      match fleet.get? locoId with
      | none => fleet
      | some s => fleet.set locoId (s.tick T draws dt)

/-- Calls on an empty fleet, with ticks of a duration that is not negative. -/
def simulator (T : Trig) (routes : List Route) : System Fleet FleetCall where
  init fleet := fleet = Dict.empty
  step fleet call fleet' :=
    (∀ locoId draws dt, call = .tick locoId draws dt → 0 ≤ dt) ∧
      fleet' = fleet.call T routes call

end LocoTwin.Simulator
