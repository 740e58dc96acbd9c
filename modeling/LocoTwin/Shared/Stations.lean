/-
# Shared.Stations -- routes and the stations on them

A route without stations gets km-posts: six of them, evenly spaced along its length, each
shifted by at most a fifth of the spacing and named after its kilometre, rounded.  The
shifts are the draws of a generator seeded with the name of the route.

* `kmFromStart_stationAt`: a post stands where its draw puts it, never at an end;
* `postAt_add_lt`: two neighbours are more than three fifths of the spacing apart;
* `stationName_inj`: a name tells the rounded kilometre, and no more.
-/
import LocoTwin.Lib.Rounding
import LocoTwin.Shared.RouteGeometry

namespace LocoTwin.Shared

open LocoTwin.Lib

set_option autoImplicit false

/-- `_seeded_rng(seed)`: `random seed i` is the `i`-th `random()` of it, from 1. -/
structure SeededRng where
  random : String → ℕ → PyFloat
  nonneg : ∀ seed i, 0 ≤ random seed i
  lt_one : ∀ seed i, random seed i < 1

/-- The `i`-th `uniform(a, b)` -/
def SeededRng.uniform (rng : SeededRng) (seed : String) (i : ℕ) (a b : PyFloat) : PyFloat :=
  a + (b - a) * rng.random seed i

structure Station where
  name : String
  lat : PyFloat
  lon : PyFloat
  kmFromStart : PyFloat
  deriving DecidableEq

/-! ## Waypoints -/

/-- What a route is built from besides its arguments: `math`, the seeded generators, and
the geometry files. -/
structure Sources where
  trig : Trig
  pi : PyFloat
  hypot : PyFloat → PyFloat → PyFloat
  rng : SeededRng
  /-- `_load_geojson_route(name)` -/
  loadGeojsonRoute : String → Option (List Waypoint × List Station)

/-- Point `i` of the walk, before smoothing. -/
def jitteredPoint (S : Sources) (name : String) (start stop : Waypoint) (nSegments : ℕ)
    (jitterDeg : PyFloat) (i : ℕ) : Waypoint :=
  let dlat := stop.1 - start.1
  let dlon := stop.2 - start.2
  let length := S.hypot dlat dlon
  let t : PyFloat := i / nSegments
  let baseLat := start.1 + dlat * t
  let baseLon := start.2 + dlon * t
  if 0 < i ∧ i < nSegments then
    let offset := S.rng.uniform name i (-jitterDeg) jitterDeg * S.trig.sin (S.pi * t)
    (baseLat + -dlon / length * offset, baseLon + dlat / length * offset)
  else (baseLat, baseLon)

/-- The interior points of a smoothing pass. -/
def smoothInner : List Waypoint → List Waypoint
  | a :: b :: c :: points =>
      ((a.1 + 2 * b.1 + c.1) / 4, (a.2 + 2 * b.2 + c.2) / 4) :: smoothInner (b :: c :: points)
  | _ => []

/-- One smoothing pass; the ends stay. -/
def smooth (points : List Waypoint) : List Waypoint :=
  points.head?.toList ++ smoothInner points ++ points.getLast?.toList

def generatePolyline (S : Sources) (name : String) (start stop : Waypoint) (nSegments : ℕ)
    (jitterDeg : PyFloat) : List Waypoint :=
  if S.hypot (stop.1 - start.1) (stop.2 - start.2) = 0 then [start, stop]
  else
    smooth (smooth ((List.range (nSegments + 1)).map
      (jitteredPoint S name start stop nSegments jitterDeg)))

/-! ## Stations -/

def stationName (km : ℤ) : String := "Разъезд " ++ toString km ++ " км"

/-- Post `i`, from 1. -/
def stationAt (S : Sources) (name : String) (points : List Waypoint) (cum : List PyFloat)
    (totalM spacingM : PyFloat) (i : ℕ) : Station :=
  let nominal := i * spacingM
  let shift := S.rng.uniform (name ++ "::stations") i (-spacingM * 0.2) (spacingM * 0.2)
  let d := max 0 (min totalM (nominal + shift))
  let pose := positionAtDistance .exact S.trig points cum d
  { name := stationName (roundHalfEven (d / 1000))
    lat := pose.lat
    lon := pose.lon
    kmFromStart := d / 1000 }

def generateStations (S : Sources) (name : String) (points : List Waypoint) (cum : List PyFloat)
    (targetCount : ℕ) : List Station :=
  if targetCount = 0 ∨ points.length < 2 then []
  else
    let totalM := cum.getLastD 0
    if totalM ≤ 0 then []
    else
      (List.range' 1 targetCount).map
        (stationAt S name points cum totalM (totalM / (targetCount + 1)))

/-! ## Routes -/

/-- The arguments of `Route`. -/
structure RouteArgs where
  name : String
  start : Waypoint
  stop : Waypoint
  waypoints : List Waypoint := []
  stations : List Station := []

structure StationedRoute extends Route where
  stations : List Station

/-- The waypoints of a route, and the stations it has before any are generated: explicit
ones first, then those of its geometry file. -/
def resolveGeometry (S : Sources) (args : RouteArgs) : List Waypoint × List Station :=
  if args.waypoints ≠ [] then (args.waypoints, args.stations)
  else
    match S.loadGeojsonRoute args.name with
    | some (waypoints, geoStations) =>
        (waypoints,
          if args.stations = [] ∧ geoStations ≠ [] then geoStations else args.stations)
    | none => (generatePolyline S args.name args.start args.stop 14 0.35, args.stations)

/-- `__post_init__` -/
def postInit (S : Sources) (args : RouteArgs) : StationedRoute :=
  let (waypoints, stations) := resolveGeometry S args
  let route := Route.create S.trig args.name waypoints
  { toRoute := route
    stations :=
      if stations = [] then generateStations S args.name waypoints route.cumDistancesM 6
      else stations }

/-- A polyline of some length has two points. -/
theorem two_le_of_pos {T : Trig} {points : List Waypoint}
    (pos : 0 < (cumulativeDistances .exact (haversineM T) points).getLastD 0) : 2 ≤ points.length := by
  cases points with
  | nil => exact absurd pos (lt_irrefl 0)
  | cons p rest =>
      cases rest with
      | nil => exact absurd pos (lt_irrefl 0)
      | cons q rest => simp

/-! ## Where the posts stand -/

/-- Where post `i` of `n` stands along the length. -/
def postAt (rng : SeededRng) (name : String) (lengthM : PyFloat) (n i : ℕ) : PyFloat :=
  lengthM / (n + 1) * (i - 1 / 5 + 2 / 5 * rng.random (name ++ "::stations") i)

section

variable (rng : SeededRng) (name : String) {lengthM : PyFloat} (n : ℕ) {i j : ℕ}

theorem postAt_nonneg (pos : 0 ≤ lengthM) (first : 1 ≤ i) : 0 ≤ postAt rng name lengthM n i := by
  have low := rng.nonneg (name ++ "::stations") i
  have first' : (1 : PyFloat) ≤ i := by exact_mod_cast first
  exact mul_nonneg (div_nonneg pos (by positivity)) (by linarith)

variable {n} in
theorem postAt_le (pos : 0 ≤ lengthM) (last : i ≤ n) : postAt rng name lengthM n i ≤ lengthM := by
  have high := rng.lt_one (name ++ "::stations") i
  have last' : (i : PyFloat) ≤ n := by exact_mod_cast last
  have whole : (0 : PyFloat) < n + 1 := by positivity
  rw [postAt, div_mul_eq_mul_div, div_le_iff₀ whole]
  exact mul_le_mul_of_nonneg_left (by linarith) pos

/-- Neighbours are more than three fifths of the spacing apart. -/
theorem postAt_add_lt (pos : 0 < lengthM) (lt : i < j) :
    postAt rng name lengthM n i + lengthM / (n + 1) * (3 / 5) < postAt rng name lengthM n j := by
  have high := rng.lt_one (name ++ "::stations") i
  have low := rng.nonneg (name ++ "::stations") j
  have next : (i : PyFloat) + 1 ≤ j := by exact_mod_cast lt
  have spacing : 0 < lengthM / (n + 1) := div_pos pos (by positivity)
  rw [postAt, postAt, ← mul_add]
  exact mul_lt_mul_of_pos_left (by linarith) spacing

theorem postAt_lt (pos : 0 < lengthM) (lt : i < j) :
    postAt rng name lengthM n i < postAt rng name lengthM n j := by
  have gap : 0 < lengthM / (n + 1) * (3 / 5) := by positivity
  have apart := postAt_add_lt rng name n pos lt
  linarith

end

/-- A post stands where its draw puts it: the clamping to the ends never acts. -/
theorem kmFromStart_stationAt (S : Sources) (name : String) (points : List Waypoint)
    (cum : List PyFloat) {lengthM : PyFloat} (pos : 0 ≤ lengthM) {n i : ℕ} (first : 1 ≤ i)
    (last : i ≤ n) :
    (stationAt S name points cum lengthM (lengthM / (n + 1)) i).kmFromStart =
      postAt S.rng name lengthM n i / 1000 := by
  have drawn : i * (lengthM / (n + 1)) + S.rng.uniform (name ++ "::stations") i
      (-(lengthM / (n + 1)) * 0.2) (lengthM / (n + 1) * 0.2) =
        postAt S.rng name lengthM n i := by
    rw [SeededRng.uniform, postAt]
    ring
  simp only [stationAt, drawn]
  rw [min_eq_right (postAt_le _ _ pos last), max_eq_right (postAt_nonneg _ _ _ pos first)]

theorem name_stationAt (S : Sources) (name : String) (points : List Waypoint)
    (cum : List PyFloat) (lengthM spacingM : PyFloat) (i : ℕ) :
    (stationAt S name points cum lengthM spacingM i).name =
      stationName (roundHalfEven (stationAt S name points cum lengthM spacingM i).kmFromStart) :=
  rfl

/-! ## Names -/

theorem natRepr_inj {m n : ℕ} (same : Nat.repr m = Nat.repr n) : m = n := by
  have digits := String.ofList_injective same
  rw [← Nat.ofDigitChars_ten_toDigits (n := m), digits, Nat.ofDigitChars_ten_toDigits]

/-- Names of posts are equal exactly where their kilometres are. -/
theorem stationName_inj {a b : ℤ} (nonneg : 0 ≤ a) (nonneg' : 0 ≤ b) :
    stationName a = stationName b ↔ a = b := by
  refine ⟨fun same => ?_, congrArg stationName⟩
  obtain ⟨m, rfl⟩ := Int.eq_ofNat_of_zero_le nonneg
  obtain ⟨n, rfl⟩ := Int.eq_ofNat_of_zero_le nonneg'
  have middle := (String.append_left_inj " км").mp same
  exact congrArg Int.ofNat (natRepr_inj ((String.append_right_inj "Разъезд ").mp middle))

end LocoTwin.Shared
