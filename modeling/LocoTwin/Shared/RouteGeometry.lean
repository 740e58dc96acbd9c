/-
# Shared.RouteGeometry -- polylines, and where a distance along one lies

A route is a polyline with the prefix sums of its segment lengths; a position is found by a
scan of the prefix sums.  The functions of `math` that are not rational are the fields of a
`Trig`, with the two facts the lengths rest on: square roots, and arc sines of what is not
negative, are not negative.  The waypoints themselves are data, loaded or generated when the
module is imported.

The arithmetic of the prefix sums and of the interpolation is a parameter `F`; a `Route` has
exact ones.
-/
import LocoTwin.Lib.FloatArith
import LocoTwin.Lib.PathSums
import LocoTwin.Shared.Python
import Mathlib.Algebra.Order.Floor.Ring

namespace LocoTwin.Shared

open LocoTwin.Lib

set_option autoImplicit false

structure Trig where
  radians : PyFloat → PyFloat
  degrees : PyFloat → PyFloat
  sin : PyFloat → PyFloat
  cos : PyFloat → PyFloat
  asin : PyFloat → PyFloat
  atan2 : PyFloat → PyFloat → PyFloat
  sqrt : PyFloat → PyFloat
  sqrt_nonneg : ∀ x, 0 ≤ sqrt x
  asin_nonneg : ∀ x, 0 ≤ x → 0 ≤ asin x

/-- Latitude and longitude. -/
abbrev Waypoint := PyFloat × PyFloat

/-- Latitude, longitude and bearing. -/
structure Pose where
  lat : PyFloat
  lon : PyFloat
  bearingDeg : PyFloat
  deriving DecidableEq

def earthRadiusM : PyFloat := 6371000

section

variable (T : Trig)

def haversineM (p q : Waypoint) : PyFloat :=
  let phi1 := T.radians p.1
  let phi2 := T.radians q.1
  let dphi := T.radians (q.1 - p.1)
  let dlambda := T.radians (q.2 - p.2)
  let a := T.sin (dphi / 2) ^ 2 + T.cos phi1 * T.cos phi2 * T.sin (dlambda / 2) ^ 2
  2 * earthRadiusM * T.asin (T.sqrt a)

/-- `x % m` on floats, for a positive `m`. -/
def floatMod (x m : PyFloat) : PyFloat := x - m * ⌊x / m⌋

def bearingDeg (p q : Waypoint) : PyFloat :=
  let phi1 := T.radians p.1
  let phi2 := T.radians q.1
  let dlambda := T.radians (q.2 - p.2)
  let x := T.sin dlambda * T.cos phi2
  let y := T.cos phi1 * T.sin phi2 - T.sin phi1 * T.cos phi2 * T.cos dlambda
  floatMod (T.degrees (T.atan2 x y) + 360) 360

end

section

variable (F : FloatArith)

/-- The next prefix sum, with `dist` in place of the haversine. -/
def nextSum (dist : Waypoint → Waypoint → PyFloat) (total : PyFloat) (p q : Waypoint) : PyFloat :=
  F.add total (dist p q)

def cumulativeDistances (dist : Waypoint → Waypoint → PyFloat) (points : List Waypoint) :
    List PyFloat :=
  pathSums (nextSum F dist) 0 points

variable (T : Trig)

/-- The pose a fraction `t` into the segment from `p` to `q`. -/
def along (p q : Waypoint) (t : PyFloat) : Pose where
  lat := F.add p.1 (F.mul (F.sub q.1 p.1) t)
  lon := F.add p.2 (F.mul (F.sub q.2 p.2) t)
  bearingDeg := bearingDeg T p q

/-- The first segment that reaches the distance. -/
def scanSegments (distanceM : PyFloat) : List (Waypoint × PyFloat) → Option Pose
  | (p, start) :: (q, stop) :: points =>
      if distanceM ≤ stop then
        let length := F.sub stop start
        some (along F T p q (if 0 < length then F.div (F.sub distanceM start) length else 0))
      else scanSegments distanceM ((q, stop) :: points)
  | _ => none

def positionAtDistance (points : List Waypoint) (cum : List PyFloat) (distanceM : PyFloat) :
    Pose :=
  match points.head?, points.getLast? with
  | some first, some last =>
      if distanceM ≤ 0 then
        match points with
        | p :: q :: _ => ⟨first.1, first.2, bearingDeg T p q⟩
        | _ => ⟨first.1, first.2, 0⟩
      else if cum.getLastD 0 ≤ distanceM then
        match points.reverse with
        | q :: p :: _ => ⟨last.1, last.2, bearingDeg T p q⟩
        | _ => ⟨last.1, last.2, 0⟩
      else (scanSegments F T distanceM (points.zip cum)).getD ⟨last.1, last.2, 0⟩
  | _, _ => ⟨0, 0, 0⟩

end

section

variable (T : Trig)

theorem haversineM_nonneg (p q : Waypoint) : 0 ≤ haversineM T p q := by
  apply mul_nonneg
  · norm_num [earthRadiusM]
  · exact T.asin_nonneg _ (T.sqrt_nonneg _)

/-- A sum that is added to does not fall. -/
theorem grows_nextSum {F : FloatArith} {dist : Waypoint → Waypoint → PyFloat}
    (nonneg : ∀ p q, 0 ≤ dist p q) : Grows (nextSum F dist) F.IsFloat where
  keeps _ _ _ _ := F.isFloat_round _
  le _ p q float := FloatArith.le_add_right float (nonneg p q)

theorem getLastD_cumulativeDistances_nonneg (points : List Waypoint) :
    0 ≤ (cumulativeDistances .exact (haversineM T) points).getLastD 0 := by
  cases points with
  | nil => exact le_refl _
  | cons p points =>
      exact (le_of_pathSums (grows_nextSum (haversineM_nonneg T)) FloatArith.exact.isFloat_zero
        (getLast_pathSums 0 0 p points)).1

end

structure Route where
  name : String
  waypoints : List Waypoint
  cumDistancesM : List PyFloat
  lengthM : PyFloat
  lengthM_nonneg : 0 ≤ lengthM

namespace Route

def create (T : Trig) (name : String) (waypoints : List Waypoint) : Route where
  name
  waypoints
  cumDistancesM := cumulativeDistances .exact (haversineM T) waypoints
  lengthM := (cumulativeDistances .exact (haversineM T) waypoints).getLastD 0
  lengthM_nonneg := getLastD_cumulativeDistances_nonneg T waypoints

def positionAt (T : Trig) (route : Route) (distanceM : PyFloat) : Pose :=
  positionAtDistance .exact T route.waypoints route.cumDistancesM distanceM

end Route

/-- The route of that name among `ROUTES`. -/
def getRoute (routes : List Route) (name : String) : Option Route :=
  routes.find? fun route => route.name == name

end LocoTwin.Shared
