/-
# Simulator.StationLookup -- is a station found under its name?

`_resolve_station_km` takes the first station of that name.  The name of a generated post
has its kilometre rounded to a whole one, so two posts of a short route may share it, and
the later one is then taken for the earlier.

* **`lookup_inverts_iff`**: every post is found under its name exactly when no two
  neighbours round to the same kilometre;
* `apartInKm_of_long`: so they are on every route of 35000/3 m or more;
* `not_apartInKm_of_short`: and on no route of 5 km or less.
-/
import LocoTwin.Lib.FirstMatch
import LocoTwin.Shared.PolylineLookup
import LocoTwin.Shared.Stations

namespace LocoTwin.Simulator

open LocoTwin.Lib LocoTwin.Shared

set_option autoImplicit false

inductive StationError where
  /-- `HTTPException(400, "Unknown route: ...")` -/
  | unknownRoute (routeName : String)
  /-- `HTTPException(400, "Station ... not found on route ...")` -/
  | notFound (stationName routeName : String)
  deriving DecidableEq

/-- `_resolve_station_km`, with the `ROUTES` that `get_route` searches. -/
def resolveStationKm (routes : List StationedRoute) (routeName : String)
    (stationName : Option String) : Except StationError (Option PyFloat) :=
  match stationName with
  | none => .ok none
  | some stationName =>
      if stationName = "" then .ok none
      else
        match routes.find? fun route => route.name == routeName with
        | none => .error (.unknownRoute routeName)
        | some route =>
            match route.stations.find? fun s => s.name == stationName with
            | none => .error (.notFound stationName routeName)
            | some s => .ok (some s.kmFromStart)

/-- Every station of the route is found under its name. -/
def LookupInverts (routes : List StationedRoute) (route : StationedRoute) : Prop :=
  ∀ s ∈ route.stations, resolveStationKm routes route.name (some s.name) =
    .ok (some s.kmFromStart)

instance (routes : List StationedRoute) (route : StationedRoute) :
    Decidable (LookupInverts routes route) :=
  inferInstanceAs (Decidable (∀ s ∈ route.stations, _))

theorem resolveStationKm_eq {routes : List StationedRoute} {route : StationedRoute}
    (listed : (routes.find? fun r => r.name == route.name) = some route) {s : Station}
    (named : s.name ≠ "") :
    resolveStationKm routes route.name (some s.name) = .ok (some s.kmFromStart) ↔
      (route.stations.find? fun t => t.name == s.name).map Station.kmFromStart =
        some s.kmFromStart := by
  simp only [resolveStationKm, if_neg named, listed]
  cases route.stations.find? fun t => t.name == s.name with
  | none => simp
  | some t => simp

/-! ## Rounded kilometres -/

/-- Neighbouring posts round to different kilometres. -/
def ApartInKm (rng : SeededRng) (name : String) (lengthM : PyFloat) : Prop :=
  ∀ i, 1 ≤ i → i ≤ 5 → roundHalfEven (postAt rng name lengthM 6 i / 1000) ≠
    roundHalfEven (postAt rng name lengthM 6 (i + 1) / 1000)

section

variable {rng : SeededRng} {name : String} {lengthM : PyFloat}

theorem roundHalfEven_ne {x y : PyFloat} (apart : x + 1 < y) :
    roundHalfEven x ≠ roundHalfEven y := by
  intro same
  have low := (roundHalfEven_near x).2
  have high := (roundHalfEven_near y).1
  rw [same] at low
  linarith

variable (rng name) in
/-- On a long route the posts are more than a kilometre apart. -/
theorem apartInKm_of_long (long : 35000 / 3 ≤ lengthM) : ApartInKm rng name lengthM := by
  intro i _ _
  apply roundHalfEven_ne
  have apart := postAt_add_lt rng name 6 (i := i) (j := i + 1)
    (show 0 < lengthM by linarith) (by omega)
  push_cast at apart
  linarith

/-- Each post of a route whose posts are apart has a kilometre of its own below it. -/
theorem le_rounded (apart : ApartInKm rng name lengthM) (pos : 0 < lengthM) {i : ℕ}
    (last : i ≤ 5) : (i : ℤ) ≤ roundHalfEven (postAt rng name lengthM 6 (i + 1) / 1000) := by
  induction i with
  | zero =>
      rw [Nat.cast_zero]
      exact roundHalfEven_nonneg (div_nonneg (postAt_nonneg _ _ _ pos.le le_rfl) (by norm_num))
  | succ i ih =>
      have below := ih (by omega)
      have other := apart (i + 1) (by omega) (by omega)
      have le : roundHalfEven (postAt rng name lengthM 6 (i + 1) / 1000) ≤
          roundHalfEven (postAt rng name lengthM 6 (i + 1 + 1) / 1000) :=
        roundHalfEven_mono
          (div_le_div_of_nonneg_right (postAt_lt _ _ _ pos (Nat.lt_succ_self _)).le (by norm_num))
      push_cast
      omega

variable (rng name) in
/-- On a short route there are not six kilometres for six posts. -/
theorem not_apartInKm_of_short (pos : 0 < lengthM) (short : lengthM ≤ 5000) :
    ¬ApartInKm rng name lengthM := by
  intro apart
  have five : (5 : ℤ) ≤ roundHalfEven (postAt rng name lengthM 6 6 / 1000) :=
    le_rounded apart pos le_rfl
  have near := (roundHalfEven_near (postAt rng name lengthM 6 6 / 1000)).2
  have five' : (5 : PyFloat) ≤ roundHalfEven (postAt rng name lengthM 6 6 / 1000) := by
    exact_mod_cast five
  have drawn := rng.lt_one (name ++ "::stations") 6
  have top : postAt rng name lengthM 6 6 ≤ 5000 / 7 * (31 / 5) := by
    have factor : ((6 : ℕ) : PyFloat) - 1 / 5 + 2 / 5 * rng.random (name ++ "::stations") 6 ≤
        31 / 5 := by
      push_cast
      linarith
    have spacing : lengthM / (((6 : ℕ) : PyFloat) + 1) ≤ 5000 / 7 := by
      push_cast
      linarith
    have low := rng.nonneg (name ++ "::stations") 6
    exact mul_le_mul spacing factor (by push_cast; linarith) (by norm_num)
  linarith

end

/-! ## The posts of a route -/

section

variable {S : Sources} {args : RouteArgs}

/-- A route of some length without stations of its own has six posts. -/
theorem stations_postInit (plain : (resolveGeometry S args).2 = [])
    (pos : 0 < (postInit S args).lengthM) :
    (postInit S args).stations = (List.range' 1 6).map
      (stationAt S args.name (postInit S args).waypoints (postInit S args).cumDistancesM
        (postInit S args).lengthM ((postInit S args).lengthM / ((6 : ℕ) + 1))) := by
  have two : 2 ≤ (postInit S args).waypoints.length := two_le_of_pos pos
  have generated : (postInit S args).stations = generateStations S args.name
      (postInit S args).waypoints (postInit S args).cumDistancesM 6 := if_pos plain
  rw [generated, generateStations, if_neg (by omega)]
  exact if_neg (not_le.mpr pos)

theorem name_ne_empty (km : ℤ) : stationName km ≠ "" := by
  intro empty
  have unit : " км" = "" := (String.append_eq_empty_iff.mp empty).2
  exact absurd unit (by decide)

variable (S args) in
/-- The posts of a route, by where they stand. -/
def posts : List PyFloat :=
  (List.range' 1 6).map (postAt S.rng args.name (postInit S args).lengthM 6)

theorem mem_range'_six {i : ℕ} : i ∈ List.range' 1 6 ↔ 1 ≤ i ∧ i ≤ 6 := by
  rw [List.mem_range'_1]
  omega

theorem map_km_stations (plain : (resolveGeometry S args).2 = [])
    (pos : 0 < (postInit S args).lengthM) :
    (postInit S args).stations.map Station.kmFromStart = (posts S args).map (· / 1000) := by
  rw [stations_postInit plain pos, posts, List.map_map, List.map_map]
  refine List.map_congr_left fun i mem => ?_
  obtain ⟨first, last⟩ := mem_range'_six.mp mem
  exact kmFromStart_stationAt S args.name _ _ pos.le first last

theorem map_name_stations (plain : (resolveGeometry S args).2 = [])
    (pos : 0 < (postInit S args).lengthM) :
    (postInit S args).stations.map Station.name =
      ((posts S args).map fun d => roundHalfEven (d / 1000)).map stationName := by
  have names : (postInit S args).stations.map Station.name =
      ((postInit S args).stations.map Station.kmFromStart).map
        fun km => stationName (roundHalfEven km) := by
    rw [List.map_map, stations_postInit plain pos, List.map_map, List.map_map]
    exact List.map_congr_left fun i _ => name_stationAt S args.name _ _ _ _ i
  rw [names, map_km_stations plain pos, List.map_map, List.map_map]
  rfl

theorem posts_pairwise (pos : 0 < (postInit S args).lengthM) :
    (posts S args).Pairwise (· < ·) :=
  List.pairwise_map.mpr ((List.pairwise_lt_range').imp fun lt => postAt_lt _ _ _ pos lt)

/-- The rounded kilometres are in order. -/
theorem rounded_pairwise (pos : 0 < (postInit S args).lengthM) :
    ((posts S args).map fun d => roundHalfEven (d / 1000)).Pairwise (· ≤ ·) :=
  List.pairwise_map.mpr ((posts_pairwise pos).imp fun lt =>
    roundHalfEven_mono (div_le_div_of_nonneg_right lt.le (by norm_num)))

theorem rounded_nonneg (pos : 0 < (postInit S args).lengthM) :
    ∀ km ∈ (posts S args).map fun d => roundHalfEven (d / 1000), 0 ≤ km := by
  intro km mem
  obtain ⟨d, post, rfl⟩ := List.mem_map.mp mem
  obtain ⟨i, range, rfl⟩ := List.mem_map.mp post
  have nonneg := postAt_nonneg S.rng args.name 6 pos.le (mem_range'_six.mp range).1
  exact roundHalfEven_nonneg (div_nonneg nonneg (by norm_num))

/-- Names repeat where rounded kilometres do. -/
theorem names_nodup_iff (plain : (resolveGeometry S args).2 = [])
    (pos : 0 < (postInit S args).lengthM) :
    ((postInit S args).stations.map Station.name).Nodup ↔
      ((posts S args).map fun d => roundHalfEven (d / 1000)).Nodup := by
  rw [map_name_stations plain pos]
  refine ⟨List.Nodup.of_map _, List.Nodup.map_on fun a ha b hb same => ?_⟩
  exact (stationName_inj (rounded_nonneg pos a ha) (rounded_nonneg pos b hb)).mp same

theorem rounded_nodup_iff (pos : 0 < (postInit S args).lengthM) :
    ((posts S args).map fun d => roundHalfEven (d / 1000)).Nodup ↔
      ApartInKm S.rng args.name (postInit S args).lengthM := by
  rw [nodup_iff_isChain_ne (rounded_pairwise pos), List.isChain_map, posts, List.isChain_map,
    List.isChain_iff_getElem]
  simp only [List.length_range', List.getElem_range']
  constructor
  · intro apart i first last
    have here := apart (i - 1) (by omega)
    rwa [show 1 + 1 * (i - 1) = i by omega, show 1 + 1 * (i - 1 + 1) = i + 1 by omega] at here
  · intro apart i lt
    rw [show 1 + 1 * i = i + 1 by omega, show 1 + 1 * (i + 1) = i + 1 + 1 by omega]
    exact apart (i + 1) (by omega) (by omega)

/-- **Every station of a route with generated posts is found under its name exactly when no
two neighbouring posts round to the same kilometre.** -/
theorem lookup_inverts_iff (plain : (resolveGeometry S args).2 = [])
    (pos : 0 < (postInit S args).lengthM) {routes : List StationedRoute}
    (listed : (routes.find? fun r => r.name == args.name) = some (postInit S args)) :
    LookupInverts routes (postInit S args) ↔
      ApartInKm S.rng args.name (postInit S args).lengthM := by
  have named : ∀ s ∈ (postInit S args).stations, s.name ≠ "" := by
    intro s mem
    rw [stations_postInit plain pos] at mem
    obtain ⟨i, _, rfl⟩ := List.mem_map.mp mem
    exact name_ne_empty _
  have scans : LookupInverts routes (postInit S args) ↔ ∀ s ∈ (postInit S args).stations,
      ((postInit S args).stations.find? fun t => t.name == s.name).map Station.kmFromStart =
        some s.kmFromStart :=
    forall₂_congr fun s mem => resolveStationKm_eq listed (named s mem)
  have apart : ((postInit S args).stations.map Station.kmFromStart).Nodup := by
    rw [map_km_stations plain pos]
    refine List.Nodup.map_on (fun a _ b _ same => ?_) ((posts_pairwise pos).imp ne_of_lt)
    exact (div_left_inj' (by norm_num)).mp same
  rw [scans, find?_own_iff_nodup apart, names_nodup_iff plain pos, rounded_nodup_iff pos]

end

/-- A generator whose draws are all in the middle, and no geometry files. -/
def steady : Sources where
  trig := meridian
  pi := 3.14159
  hypot x y := |x| + |y|
  rng := ⟨fun _ _ => 1 / 2, fun _ _ => by norm_num, fun _ _ => by norm_num⟩
  loadGeojsonRoute _ := none

/-- A line due north. -/
def northLine (lat : PyFloat) : RouteArgs where
  name := "Siding"
  start := (43, 77)
  stop := (lat, 77)
  waypoints := [(43, 77), (lat, 77)]

theorem lookup_inverts_degree :
    LookupInverts [postInit steady (northLine 44)] (postInit steady (northLine 44)) := by
  have long : 0 < (postInit steady (northLine 44)).lengthM := by decide +kernel
  have listed : ([postInit steady (northLine 44)].find? fun r => r.name == (northLine 44).name) =
      some (postInit steady (northLine 44)) := rfl
  exact (lookup_inverts_iff rfl long listed).mpr (apartInKm_of_long _ _ (by decide +kernel))

/-- On a line of 222 m every post is named after kilometre 0, and the second one is taken
for the first. -/
theorem lookup_fails_short :
    (resolveGeometry steady (northLine 43.002)).2 = [] ∧
      0 < (postInit steady (northLine 43.002)).lengthM ∧
      ¬LookupInverts [postInit steady (northLine 43.002)] (postInit steady (northLine 43.002)) := by
  decide +kernel

end LocoTwin.Simulator
