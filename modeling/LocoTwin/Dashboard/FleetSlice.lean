/-
# Dashboard.FleetSlice -- the state behind the fleet page

The summaries and the changes come on two channels and update different fields: the numbers
and the list of the worst locomotives are those of the last summary, and the marker of a
locomotive on the map is that of its last change.  `stateOf` is the state after any summaries
and any changes, however the two are interleaved.

`new Date(text).getTime()`, of the text of a time, is the parameter `getTime`.
-/
import LocoTwin.Analytics.Aggregator

namespace LocoTwin.Dashboard

open LocoTwin.Lib LocoTwin.Shared
open LocoTwin.Analytics (Change)
open LocoTwin.Analytics.FleetAggregator (Summary Worst)

set_option autoImplicit false

structure FleetCategories where
  norma : Nat
  vnimanie : Nat
  kritichno : Nat
  deriving DecidableEq

structure LocomotiveMapState where
  score : PyFloat
  category : String
  locomotiveType : String
  updatedAt : Int
  deriving DecidableEq

structure FleetState where
  fleetSize : Nat
  avgScore : PyFloat
  categories : FleetCategories
  worst10 : List Worst
  lastUpdated : Option Int
  locomotiveStates : Dict String LocomotiveMapState
  deriving DecidableEq

namespace FleetState

/-- `initialState` -/
def initial : FleetState where
  fleetSize := 0
  avgScore := 0
  categories := ⟨0, 0, 0⟩
  worst10 := []
  lastUpdated := none
  locomotiveStates := Dict.empty

variable (getTime : Datetime → Int)

def fleetSummaryUpdated (state : FleetState) (summary : Summary) : FleetState :=
  { state with
    fleetSize := summary.fleetSize
    avgScore := summary.avgScore
    categories := ⟨summary.norma, summary.vnimanie, summary.kritichno⟩
    worst10 := summary.worst10
    lastUpdated := some (getTime summary.timestamp) }

/-- The marker a change puts on the map. -/
def marker (change : Change) : LocomotiveMapState where
  score := change.score
  category := change.newCategory
  locomotiveType := change.locomotiveType
  updatedAt := getTime change.timestamp

/-- The body of the loop over `changes`. -/
def mark (state : FleetState) (change : Change) : FleetState :=
  { state with
    locomotiveStates := state.locomotiveStates.set change.locomotiveId (marker getTime change) }

def fleetChangesReceived (state : FleetState) (changes : List Change) : FleetState :=
  changes.foldl (mark getTime) state

def fleetReset : FleetState := initial

/-! ## The state after any messages -/

/-- The map after the changes. -/
def markers (changes : List Change) : Dict String LocomotiveMapState :=
  changes.foldl (fun states c => states.set c.locomotiveId (marker getTime c)) Dict.empty

/-- The numbers of the last summary, and the map after the changes. -/
def stateOf (last : Option Summary) (changes : List Change) : FleetState :=
  { last.elim initial (fleetSummaryUpdated getTime initial) with
    locomotiveStates := markers getTime changes }

theorem markers_append (before changes : List Change) :
    markers getTime (before ++ changes) =
      changes.foldl (fun states c => states.set c.locomotiveId (marker getTime c))
        (markers getTime before) :=
  List.foldl_append

/-- The marker of a locomotive is that of its last change. -/
theorem get?_markers (changes : List Change) (loco : String) :
    (markers getTime changes).get? loco =
      (changes.filter fun c => c.locomotiveId == loco).getLast?.map (marker getTime) := by
  induction changes using List.reverseRecOn with
  | nil => rfl
  | append_singleton changes c ih =>
      rw [markers_append, List.filter_append]
      show ((markers getTime changes).set c.locomotiveId (marker getTime c)).get? loco = _
      by_cases same : c.locomotiveId = loco
      · have own : [c].filter (fun c => c.locomotiveId == loco) = [c] := by simp [same]
        rw [own, List.getLast?_concat, ← same, Dict.get?_set_self]
        rfl
      · have other : [c].filter (fun c => c.locomotiveId == loco) = [] := by simp [same]
        rw [other, List.append_nil, Dict.get?_set_ne _ (Ne.symm same), ih]

theorem fleetSummaryUpdated_stateOf (last : Option Summary) (changes : List Change)
    (summary : Summary) :
    (stateOf getTime last changes).fleetSummaryUpdated getTime summary =
      stateOf getTime (some summary) changes := by
  cases last <;> rfl

theorem fleetChangesReceived_stateOf (last : Option Summary) (before changes : List Change) :
    (stateOf getTime last before).fleetChangesReceived getTime changes =
      stateOf getTime last (before ++ changes) := by
  induction changes using List.reverseRecOn with
  | nil => rw [List.append_nil]; rfl
  | append_singleton changes c ih =>
      have split : (stateOf getTime last before).fleetChangesReceived getTime (changes ++ [c]) =
          mark getTime ((stateOf getTime last before).fleetChangesReceived getTime changes) c :=
        List.foldl_concat _ _ _ _
      rw [split, ih, ← List.append_assoc]
      simp only [stateOf, markers_append _ _ [c]]
      rfl

end FleetState

end LocoTwin.Dashboard
