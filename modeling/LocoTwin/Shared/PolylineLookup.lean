/-
# Shared.PolylineLookup -- where on its polyline a distance lies

`position_at_distance` clamps a distance to the ends and scans the prefix sums for the first
segment that reaches it.  Points that repeat give segments of no length, and so do steps that
are lost in the sum before them; the scan never stops in one, since the point before reaches
the distance too.

* `scan_between`: strictly between the ends the scan succeeds, in a segment of positive
  length that the distance lies in;
* `position_on_polyline`: the position of any distance, for any arithmetic and any distance
  function that is zero exactly on equal points;
* `second_point_missed`: in doubles, the position of the prefix sum of a point is not that
  point.
-/
import LocoTwin.Lib.Binary64
import LocoTwin.Shared.RouteGeometry
import Mathlib.Data.Rat.Sqrt

namespace LocoTwin.Shared

open LocoTwin.Lib

set_option autoImplicit false

/-- The part of the segment from `start` to `stop` that lies before `x`. -/
def fraction (F : FloatArith) (start stop x : PyFloat) : PyFloat :=
  F.div (F.sub x start) (F.sub stop start)

/-- Segment `i` of the polyline holds the distance `x`. -/
def OnSegment (F : FloatArith) (T : Trig) (points : List Waypoint) (cum : List PyFloat)
    (x : PyFloat) (i : Nat) (pose : Pose) : Prop :=
  ∃ p q start stop, points[i]? = some p ∧ points[i + 1]? = some q ∧
    cum[i]? = some start ∧ cum[i + 1]? = some stop ∧ start < x ∧ x ≤ stop ∧
    0 < F.sub stop start ∧ 0 < F.sub x start / F.sub stop start ∧
    0 ≤ fraction F start stop x ∧ fraction F start stop x ≤ 1 ∧
    pose = along F T p q (fraction F start stop x)

/-- A pose is at a point, whatever its bearing. -/
def At (pose : Pose) (p : Waypoint) : Prop := pose.lat = p.1 ∧ pose.lon = p.2

instance (pose : Pose) (p : Waypoint) : Decidable (At pose p) :=
  inferInstanceAs (Decidable (_ ∧ _))

/-- A pose that is reached from `p` is at `q`, up to two roundings. -/
def NearPoint (ε : PyFloat) (pose : Pose) (p q : Waypoint) : Prop :=
  |pose.lat - q.1| ≤ ε * |q.1| + ε * (1 + ε) * |q.1 - p.1| ∧
    |pose.lon - q.2| ≤ ε * |q.2| + ε * (1 + ε) * |q.2 - p.2|

/-- Each step between points `i` and `j` is lost in the sum `x`. -/
def Absorbed (F : FloatArith) (dist : Waypoint → Waypoint → PyFloat) (points : List Waypoint)
    (x : PyFloat) (i j : Nat) : Prop :=
  ∀ k, min i j ≤ k → k < max i j → ∀ p q, points[k]? = some p → points[k + 1]? = some q →
    F.add x (dist p q) = x

/-- Where `position_at_distance` puts any distance along the points. -/
structure LiesOn (F : FloatArith) (T : Trig) (ε : PyFloat)
    (dist : Waypoint → Waypoint → PyFloat) (points : List Waypoint) (cum : List PyFloat) :
    Prop where
  first : ∀ x p, x ≤ 0 → points.head? = some p → At (positionAtDistance F T points cum x) p
  last : ∀ x q, cum.getLastD 0 ≤ x → points.getLast? = some q →
    At (positionAtDistance F T points cum x) q
  /-- The only segment that holds the distance. -/
  between : ∀ x, F.IsFloat x → 0 < x → x < cum.getLastD 0 →
    ∃ i, OnSegment F T points cum x i (positionAtDistance F T points cum x) ∧
      ∀ (j : Nat) start stop, cum[j]? = some start → cum[j + 1]? = some stop → start < x →
        x ≤ stop → j = i
  /-- The scan never runs out of segments. -/
  scanned : ∀ x, F.IsFloat x → 0 < x → x < cum.getLastD 0 →
    scanSegments F T x (points.zip cum) = some (positionAtDistance F T points cum x)
  /-- A prefix sum is that of the point returned. -/
  vertex : ∀ (j : Nat) x, j < points.length → cum[j]? = some x →
    ∃ (k : Nat) (p q : Waypoint), points[k]? = some q ∧ cum[k]? = some x ∧
      Absorbed F dist points x j k ∧ p ∈ points ∧
      NearPoint ε (positionAtDistance F T points cum x) p q
  exact' : F = .exact → ∀ (j : Nat) p x, points[j]? = some p → cum[j]? = some x →
    At (positionAtDistance F T points cum x) p

section

variable {F : FloatArith} {T : Trig} {ε : PyFloat}

/-! ## Poses -/

theorem nearPoint_of_at {pose : Pose} {q : Waypoint} (nonneg : 0 ≤ ε) (here : At pose q) :
    NearPoint ε pose q q := by
  unfold NearPoint
  rw [here.1, here.2]
  simp only [sub_self, abs_zero, mul_zero, add_zero]
  exact ⟨mul_nonneg nonneg (abs_nonneg _), mul_nonneg nonneg (abs_nonneg _)⟩

/-- The whole of a segment leads to its end. -/
theorem nearPoint_along (law : F.Roundoff ε) (T : Trig) {p q : Waypoint}
    (floats : F.IsFloat p.1 ∧ F.IsFloat p.2) (floats' : F.IsFloat q.1 ∧ F.IsFloat q.2) :
    NearPoint ε (along F T p q 1) p q := by
  have whole (x y : PyFloat) : F.mul (F.sub y x) 1 = F.sub y x := by
    rw [FloatArith.mul, mul_one]
    exact F.isFloat_round _
  constructor
  · show |F.add p.1 (F.mul (F.sub q.1 p.1) 1) - q.1| ≤ _
    rw [whole]
    exact law.add_sub_near floats.1 floats'.1
  · show |F.add p.2 (F.mul (F.sub q.2 p.2) 1) - q.2| ≤ _
    rw [whole]
    exact law.add_sub_near floats.2 floats'.2

theorem fraction_self {start x : PyFloat} (pos : 0 < F.sub x start) : fraction F start x x = 1 := by
  rw [fraction, FloatArith.div, div_self pos.ne']
  exact F.one

/-! ## The scan -/

variable {dist : Waypoint → Waypoint → PyFloat} {x : PyFloat}

variable (T) in
/-- Past the first sum and up to the last, the scan ends in a segment that holds the
distance. -/
theorem scan_between (law : F.Roundoff ε) (small : ε < 1) (float : F.IsFloat x)
    {total : PyFloat} (start : F.IsFloat total) {p : Waypoint} {points : List Waypoint}
    (low : total < x) (high : x ≤ (pathSums (nextSum F dist) total (p :: points)).getLastD 0) :
    ∃ i pose, OnSegment F T (p :: points) (pathSums (nextSum F dist) total (p :: points)) x i
        pose ∧
      scanSegments F T x ((p :: points).zip (pathSums (nextSum F dist) total (p :: points))) =
        some pose := by
  induction points generalizing total p with
  | nil => exact absurd high (not_le.mpr low)
  | cons q points ih =>
      let next := nextSum F dist total p q
      have sums : pathSums (nextSum F dist) total (p :: q :: points) =
          total :: pathSums (nextSum F dist) next (q :: points) := rfl
      obtain ⟨rest, rest_eq⟩ : ∃ rest, pathSums (nextSum F dist) next (q :: points) =
          next :: rest := by
        cases points with
        | nil => exact ⟨[], rfl⟩
        | cons r points => exact ⟨_, rfl⟩
      have float' : F.IsFloat next := F.isFloat_round _
      have scan : scanSegments F T x
          ((p :: q :: points).zip (pathSums (nextSum F dist) total (p :: q :: points))) =
          if x ≤ next then
            let length := F.sub next total
            some (along F T p q (if 0 < length then F.div (F.sub x total) length else 0))
          else scanSegments F T x
            ((q :: points).zip (pathSums (nextSum F dist) next (q :: points))) := by
        rw [sums, rest_eq]
        rfl
      rw [scan]
      by_cases reached : x ≤ next
      · have length : 0 < F.sub next total :=
          law.sub_pos small start float' (low.trans_le reached)
        have part : 0 < F.sub x total := law.sub_pos small start float low
        have le : F.sub x total ≤ F.sub next total := F.mono (by linarith)
        rw [if_pos reached]
        dsimp only
        rw [if_pos length]
        refine ⟨0, _, ⟨p, q, total, next, rfl, rfl, rfl, ?_, low, reached, length,
          div_pos part length, ?_, ?_, rfl⟩, rfl⟩
        · rw [sums, rest_eq]
          rfl
        · exact FloatArith.round_nonneg (div_pos part length).le
        · exact FloatArith.round_le F.isFloat_one ((div_le_one length).mpr le)
      · rw [if_neg reached]
        have last : (pathSums (nextSum F dist) total (p :: q :: points)).getLastD 0 =
            (pathSums (nextSum F dist) next (q :: points)).getLastD 0 := by
          rw [sums, rest_eq]
          simp
        rw [last] at high
        obtain ⟨i, pose, ⟨a, b, start, stop, hp, hq, hstart, hstop, within⟩, found⟩ :=
          ih float' (not_le.mp reached) high
        exact ⟨i + 1, pose, ⟨a, b, start, stop, hp, hq, hstart, hstop, within⟩, found⟩

end

/-! ## The clamps -/

section

variable {F : FloatArith} {T : Trig} {ε : PyFloat} {dist : Waypoint → Waypoint → PyFloat}
  {p : Waypoint} {points : List Waypoint}

theorem exists_last (p : Waypoint) (points : List Waypoint) :
    ∃ q, (p :: points).getLast? = some q :=
  ⟨_, List.getLast?_eq_some_getLast (List.cons_ne_nil p points)⟩

theorem position_first (F : FloatArith) (T : Trig) (p : Waypoint) (points : List Waypoint)
    (cum : List PyFloat) {x : PyFloat} (low : x ≤ 0) :
    At (positionAtDistance F T (p :: points) cum x) p := by
  obtain ⟨q, last⟩ := exists_last p points
  unfold positionAtDistance
  simp only [List.head?_cons, last, if_pos low]
  cases points <;> exact ⟨rfl, rfl⟩

theorem position_last (F : FloatArith) (T : Trig) {p q : Waypoint} {points : List Waypoint}
    {cum : List PyFloat} {x : PyFloat} (pos : ¬ x ≤ 0) (high : cum.getLastD 0 ≤ x)
    (last : (p :: points).getLast? = some q) :
    At (positionAtDistance F T (p :: points) cum x) q := by
  unfold positionAtDistance
  simp only [List.head?_cons, last, if_neg pos, if_pos high]
  split <;> exact ⟨rfl, rfl⟩

theorem position_between (law : F.Roundoff ε) (small : ε < 1) (T : Trig) {x : PyFloat}
    (float : F.IsFloat x) (low : 0 < x)
    (high : x < (cumulativeDistances F dist (p :: points)).getLastD 0) :
    scanSegments F T x ((p :: points).zip (cumulativeDistances F dist (p :: points))) =
        some (positionAtDistance F T (p :: points)
          (cumulativeDistances F dist (p :: points)) x) ∧
      ∃ i, OnSegment F T (p :: points) (cumulativeDistances F dist (p :: points)) x i
        (positionAtDistance F T (p :: points) (cumulativeDistances F dist (p :: points)) x) := by
  obtain ⟨q, last⟩ := exists_last p points
  have within : x ≤ (pathSums (nextSum F dist) 0 (p :: points)).getLastD 0 := high.le
  obtain ⟨i, pose, onSegment, scan⟩ :=
    scan_between T law small float F.isFloat_zero low within
  have found : scanSegments F T x
      ((p :: points).zip (cumulativeDistances F dist (p :: points))) = some pose := scan
  have position : positionAtDistance F T (p :: points)
      (cumulativeDistances F dist (p :: points)) x = pose := by
    unfold positionAtDistance
    simp only [List.head?_cons, last, if_neg (not_le.mpr low), if_neg (not_le.mpr high), found,
      Option.getD_some]
  rw [position]
  exact ⟨found, i, onSegment⟩

/-! ## Equal sums -/

theorem absorbed_of_sums (nonneg : ∀ p q, 0 ≤ dist p q) {x : PyFloat} {i j : Nat}
    (at_i : (cumulativeDistances F dist points)[i]? = some x)
    (at_j : (cumulativeDistances F dist points)[j]? = some x) :
    Absorbed F dist points x i j := by
  intro k low high p q here there
  have grows : Grows (nextSum F dist) F.IsFloat := grows_nextSum nonneg
  rcases Nat.le_total i j with le | le
  · rw [Nat.min_eq_left le] at low
    rw [Nat.max_eq_right le] at high
    exact absorbed grows F.isFloat_zero at_i at_j low high here there
  · rw [Nat.min_eq_right le] at low
    rw [Nat.max_eq_left le] at high
    exact absorbed grows F.isFloat_zero at_j at_i low high here there

/-- Where a step is lost only between equal points, so are the points with one sum. -/
theorem Absorbed.same {x : PyFloat} {i j : Nat} (lost : Absorbed F dist points x i j)
    (apart : ∀ p ∈ points, ∀ q ∈ points, F.add x (dist p q) = x → p = q)
    (inside : max i j < points.length) :
    points[i]? = points[j]? := by
  have walk (a n : Nat) (from' : min i j ≤ a) (upto : a + n ≤ max i j) :
      points[a]? = points[a + n]? := by
    induction n with
    | zero => rfl
    | succ n ih =>
        rw [ih (by omega)]
        have here := List.getElem?_eq_getElem (l := points) (i := a + n) (by omega)
        have there := List.getElem?_eq_getElem (l := points) (i := a + n + 1) (by omega)
        have same := apart _ (List.mem_of_getElem? here) _ (List.mem_of_getElem? there)
          (lost (a + n) (by omega) (by omega) _ _ here there)
        rw [here, ← Nat.add_assoc, there, same]
  rcases Nat.le_total i j with le | le
  · have all := walk i (j - i) (by omega) (by omega)
    rwa [Nat.add_sub_cancel' le] at all
  · have all := walk j (i - j) (by omega) (by omega)
    rw [Nat.add_sub_cancel' le] at all
    exact all.symm

/-- Nothing is lost in a sum of zero. -/
theorem eq_of_add_zero (zero : ∀ p ∈ points, ∀ q ∈ points, dist p q = 0 ↔ p = q)
    (floats : ∀ p q, F.IsFloat (dist p q)) :
    ∀ p ∈ points, ∀ q ∈ points, F.add 0 (dist p q) = 0 → p = q := by
  intro p mem q mem' lost
  rw [FloatArith.add, zero_add, floats p q] at lost
  exact (zero p mem q mem').mp lost

/-! ## The law -/

/-- The pose at a prefix sum. -/
theorem position_vertex (law : F.Roundoff ε) (small : ε < 1) (T : Trig)
    (nonneg : ∀ p q, 0 ≤ dist p q) (coords : ∀ p ∈ points, F.IsFloat p.1 ∧ F.IsFloat p.2)
    {j : Nat} {x : PyFloat} (inside : j < points.length)
    (sum : (cumulativeDistances F dist points)[j]? = some x) :
    ∃ (k : Nat) (p q : Waypoint), points[k]? = some q ∧
      (cumulativeDistances F dist points)[k]? = some x ∧ p ∈ points ∧
      NearPoint ε (positionAtDistance F T points (cumulativeDistances F dist points) x) p q := by
  cases points with
  | nil => exact absurd inside (Nat.not_lt_zero j)
  | cons p points =>
      have grows : Grows (nextSum F dist) F.IsFloat := grows_nextSum nonneg
      have float : F.IsFloat x := (le_of_pathSums grows F.isFloat_zero sum).2
      have start : (cumulativeDistances F dist (p :: points))[0]? = some 0 :=
        head_pathSums 0 (p :: points)
      have stop : (cumulativeDistances F dist (p :: points))[points.length]? =
          some ((cumulativeDistances F dist (p :: points)).getLastD 0) :=
        getLast_pathSums 0 0 p points
      by_cases low : x ≤ 0
      · obtain rfl : x = 0 := le_antisymm low (le_of_pathSums grows F.isFloat_zero sum).1
        exact ⟨0, p, p, rfl, start, List.mem_cons_self,
          nearPoint_of_at law.nonneg (position_first F T p points _ low)⟩
      have below := pathSums_mono grows F.isFloat_zero (Nat.le_of_lt_succ inside) sum stop
      by_cases high : (cumulativeDistances F dist (p :: points)).getLastD 0 ≤ x
      · obtain rfl := le_antisymm below high
        obtain ⟨q, last⟩ := exists_last p points
        have point : (p :: points)[points.length]? = some q := by
          rw [← last, List.getLast?_eq_getElem?, List.length_cons, Nat.add_sub_cancel]
        exact ⟨points.length, q, q, point, stop, List.mem_of_getElem? point,
          nearPoint_of_at law.nonneg (position_last F T low high last)⟩
      obtain ⟨-, i, a, b, c, d, here, next, at_i, at_i', low', high', length, -, -, -, pose⟩ :=
        position_between law small T float (not_le.mp low) (not_le.mp high)
      -- the segment that holds the sum ends with it
      have later : i + 1 ≤ j := by
        by_contra sooner
        have above := pathSums_mono grows F.isFloat_zero (Nat.le_of_lt_succ (not_le.mp sooner))
          sum at_i
        exact absurd low' (not_lt.mpr above)
      obtain rfl : d = x :=
        le_antisymm (pathSums_mono grows F.isFloat_zero later at_i' sum) high'
      have a_mem := List.mem_of_getElem? here
      rw [pose, fraction_self length]
      exact ⟨i + 1, a, b, next, at_i', a_mem,
        nearPoint_along law T (coords a a_mem) (coords b (List.mem_of_getElem? next))⟩

/-- **Every distance lies on the polyline**, for any arithmetic, and any distance function that
is not negative and zero exactly on equal points of the polyline. -/
theorem position_on_polyline (T : Trig) (law : F.Roundoff ε) (small : ε < 1)
    (floats : ∀ p q, F.IsFloat (dist p q)) (nonneg : ∀ p q, 0 ≤ dist p q)
    {points : List Waypoint} (zero : ∀ p ∈ points, ∀ q ∈ points, dist p q = 0 ↔ p = q)
    (two : 2 ≤ points.length) (coords : ∀ p ∈ points, F.IsFloat p.1 ∧ F.IsFloat p.2) :
    LiesOn F T ε dist points (cumulativeDistances F dist points) := by
  cases points with
  | nil => exact absurd two (by simp)
  | cons p points =>
      have grows : Grows (nextSum F dist) F.IsFloat := grows_nextSum nonneg
      have start : (cumulativeDistances F dist (p :: points))[0]? = some 0 :=
        head_pathSums 0 (p :: points)
      have stop : (cumulativeDistances F dist (p :: points))[points.length]? =
          some ((cumulativeDistances F dist (p :: points)).getLastD 0) :=
        getLast_pathSums 0 0 p points
      constructor
      case first =>
        intro x q low first
        cases first
        exact position_first F T p points _ low
      case last =>
        intro x q high last
        by_cases low : x ≤ 0
        · -- all sums are 0, so the first point is the last one
          have total : (cumulativeDistances F dist (p :: points)).getLastD 0 = 0 :=
            le_antisymm (high.trans low) (le_of_pathSums grows F.isFloat_zero stop).1
          rw [total] at stop
          have same := (absorbed_of_sums nonneg start stop).same
            (eq_of_add_zero zero floats) (by simp)
          have point : (p :: points)[points.length]? = some q := by
            rw [← last, List.getLast?_eq_getElem?, List.length_cons, Nat.add_sub_cancel]
          rw [point] at same
          cases same
          exact position_first F T p points _ low
        · exact position_last F T low high last
      case between =>
        intro x float low high
        obtain ⟨-, i, onSegment⟩ := position_between law small T float low high
        refine ⟨i, onSegment, ?_⟩
        intro j a b at_j at_j' above below
        obtain ⟨_, _, c, d, -, -, at_i, at_i', low', high', -⟩ := onSegment
        exact segment_unique grows F.isFloat_zero at_j at_j' at_i at_i' ⟨above, below⟩
          ⟨low', high'⟩
      case scanned =>
        intro x float low high
        exact (position_between law small T float low high).1
      case vertex =>
        intro j x inside sum
        obtain ⟨k, a, b, point, sum', mem, near⟩ :=
          position_vertex law small T nonneg coords inside sum
        exact ⟨k, a, b, point, sum', absorbed_of_sums nonneg sum sum', mem, near⟩
      case exact' =>
        rintro rfl j q x point sum
        have inside : j < (p :: points).length := (List.getElem?_eq_some_iff.mp point).1
        obtain ⟨k, a, b, point', sum', -, near⟩ :=
          position_vertex FloatArith.exact_roundoff (by norm_num) T nonneg
            (fun p _ => ⟨rfl, rfl⟩) inside sum
        have inside' : k < (p :: points).length := (List.getElem?_eq_some_iff.mp point').1
        have same := (absorbed_of_sums nonneg sum sum').same
          (fun p mem q mem' lost => (zero p mem q mem').mp (by simpa using lost))
          (max_lt inside inside')
        rw [point, point'] at same
        cases same
        simp only [NearPoint, zero_mul, add_zero, abs_nonpos_iff, sub_eq_zero] at near
        exact near

end

/-! ## Examples -/

/-- The difference of the coordinates. -/
def taxicab (p q : Waypoint) : PyFloat := |q.1 - p.1| + |q.2 - p.2|

def roundedTaxicab (p q : Waypoint) : PyFloat := binary64.round (taxicab p q)

/-- The functions of `math` on a meridian, to first order: every bearing is due north. -/
def northward : Trig where
  radians x := x * 314159 / 18000000
  degrees x := x * 18000000 / 314159
  sin x := x
  cos _ := 1
  asin x := x
  atan2 _ _ := 0
  sqrt x := |x|
  sqrt_nonneg := abs_nonneg
  asin_nonneg _ h := h

/-- The functions of `math` on a meridian, with the roots of squares exact. -/
def meridian : Trig := { northward with sqrt := Rat.sqrt, sqrt_nonneg := Rat.sqrt_nonneg }

/-- A polyline due north, with a point that repeats. -/
def repeating : List Waypoint := [(43, 77), (44, 77), (44, 77), (46, 77)]

theorem position_on_polyline_north :
    LiesOn binary64 northward (2 ^ (-53 : ℤ)) roundedTaxicab repeating
      (cumulativeDistances binary64 roundedTaxicab repeating) :=
  position_on_polyline northward binary64_roundoff (by norm_num)
    (fun _ _ => binary64.isFloat_round _)
    (fun _ _ => FloatArith.round_nonneg (add_nonneg (abs_nonneg _) (abs_nonneg _)))
    (by decide +kernel) (by decide) (by decide +kernel)

/-- Latitudes of 0.2, 0.9 and 1.9 degrees. -/
def threePoints : List Waypoint :=
  [(binary64.round 0.2, 10), (binary64.round 0.9, 10), (binary64.round 1.9, 10)]

/-- At the prefix sum of the second point the latitude is one double below its own. -/
theorem second_point_missed :
    let cum := cumulativeDistances binary64 roundedTaxicab threePoints
    cum[1]? = some (binary64.sub (binary64.round 0.9) (binary64.round 0.2)) ∧
      (positionAtDistance binary64 northward threePoints cum (cum.getD 1 0)).lat =
        binary64.round 0.8999999999999999 ∧
      ¬At (positionAtDistance binary64 northward threePoints cum (cum.getD 1 0))
        (threePoints.getD 1 (0, 0)) := by
  decide +kernel

end LocoTwin.Shared
