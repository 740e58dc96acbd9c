/-
# Tools.StitchedPath -- the polyline of a path is as long as the path

An edge is stored from one of its ends to the other, and a path may take it either way.  The
length of the polyline adds up the distances one by one, the weights of the edges add them up
edge by edge: where sums are rounded, the two are not the same.

* `segmentFrom_spec`: turned to start at the vertex the path is at, it ends at the next one;
* `stitchHop_spec`: what a hop appends;
* `stitchHop_keeps`: a hop keeps what `Stitched` says of the polyline so far;
* **`stitch_preserves_length`**: so the polyline of a path passes through its vertices in
  order, and is as long as the lightest edges along it together, up to the roundings;
* `two_ways_rounded`: in doubles, two ways of two distances each are not as long as the four.

Coordinates are a function `coord` of the node ids, and distances are symmetric floats.
-/
import LocoTwin.Tools.RailConnectivity

namespace LocoTwin.Tools

open LocoTwin.Lib LocoTwin.Shared

set_option autoImplicit false

/-- The smallest weight of parallel edges. -/
def lightest (edges : List RailEdge) : PyFloat := ((edges.map RailEdge.weight).min?).getD 0

/-- The length of a path through the graph, as its weights add up exactly. -/
def weightOf (G : MultiGraph ℤ RailEdge) (g : G.Graph) (path : List ℤ) : PyFloat :=
  pathLength (fun u v => lightest (G.edgeData g u v)) path

theorem bestEdge_spec {edges : List RailEdge} (nonempty : edges ≠ []) :
    ∃ e ∈ edges, bestEdge edges = some e ∧ e.weight = lightest edges := by
  have best : edges.minOn? RailEdge.weight = some (edges.minOn RailEdge.weight nonempty) :=
    List.minOn?_eq_some_minOn nonempty
  have mem : edges.minOn RailEdge.weight nonempty ∈ edges := List.minOn_mem
  refine ⟨_, mem, best, ?_⟩
  have least : (edges.map RailEdge.weight).min? =
      some (edges.minOn RailEdge.weight nonempty).weight := by
    refine List.min?_eq_some_iff.mpr ⟨List.mem_map_of_mem mem, fun x listed => ?_⟩
    obtain ⟨e, among, rfl⟩ := List.mem_map.mp listed
    exact List.apply_minOn_le_of_mem among
  rw [lightest, least, Option.getD_some]

section

variable {F : FloatArith} {dist : Waypoint → Waypoint → PyFloat} {rails : List RailWay}
  {coord : ℤ → Waypoint} {ε : PyFloat}

/-! ## Edges -/

/-- The geometry of a kept piece leads from one end to the other. -/
theorem keptPieces_geom (placed : ∀ w ∈ rails, w.nodes = w.nodeIds.map coord) {p : Piece}
    (mem : p ∈ keptPieces F dist rails) :
    p.geom.head? = some (coord p.u) ∧ p.geom.getLast? = some (coord p.v) ∧ 2 ≤ p.geom.length ∧
      p.u ≠ p.v := by
  obtain ⟨⟨w, way, piece⟩, long, -, open'⟩ := (mem_keptPieces F dist).mp mem
  obtain ⟨k, piece⟩ := List.getElem?_of_mem piece
  obtain ⟨i, j, cut, next, rfl⟩ := getElem?_pieces.mp piece
  have lt := splitIdx_lt cut next
  have inside := lt_of_splitIdx next
  obtain ⟨start, stop⟩ := pieceOf_ends lt.le inside
  have node : ∀ {k : ℕ}, k < w.nodeIds.length →
      w.nodes[k]? = some (coord (w.nodeIds.getD k 0)) := by
    intro k below
    rw [placed w way, List.getElem?_map, List.getElem?_eq_getElem below, Option.map_some,
      List.getD_eq_getElem?_getD, List.getElem?_eq_getElem below, Option.getD_some]
  refine ⟨?_, ?_, long, open'⟩
  · rw [start, ← node (lt.trans inside)]
    exact head?_slice lt.le
  · rw [stop, ← node inside]
    exact getLast?_slice lt.le (by rw [w.sameLength]; exact inside)

variable (dist) in
/-- The sizes of the distances along a polyline together. -/
def extent (points : List Waypoint) : PyFloat := ((strides dist points).map abs).sum

theorem extent_nonneg (points : List Waypoint) : 0 ≤ extent dist points :=
  FloatArith.sum_abs_nonneg _

theorem extent_join {l m : List Waypoint} {p : Waypoint} (ends : l.getLast? = some p)
    (starts : m.head? = some p) :
    extent dist (l ++ m.tail) = extent dist l + extent dist m := by
  rw [extent, strides_join ends starts, List.map_append, List.sum_append]
  rfl

variable (dist) in
/-- The distances along the polyline add up to `length`, save what as many roundings can lose
as there are distances. -/
def Near (ε : PyFloat) (points : List Waypoint) (length : PyFloat) : Prop :=
  |length - pathLength dist points| ≤
    gamma ε (strides dist points).length * extent dist points

theorem near_polylineLengthM (law : F.Roundoff ε)
    (floats : ∀ p q, F.IsFloat (dist p q)) (points : List Waypoint) :
    Near dist ε points (polylineLengthM F dist points) := by
  refine FloatArith.abs_sum_sub_le law fun d mem => ?_
  obtain ⟨e, -, rfl⟩ := List.mem_map.mp mem
  exact floats e.1 e.2

theorem Near.reverse {points : List Waypoint} {length : PyFloat}
    (near : Near dist ε points length) (symm : ∀ p q, dist p q = dist q p) :
    Near dist ε points.reverse length := by
  unfold Near pathLength extent at near ⊢
  rwa [strides_reverse symm, List.sum_reverse, List.map_reverse, List.sum_reverse,
    List.length_reverse]

/-- A polyline and its continuation lose no more than the two together. -/
theorem Near.join (nonneg : 0 ≤ ε) {l m : List Waypoint} {p : Waypoint}
    (ends : l.getLast? = some p) (starts : m.head? = some p) {a b : PyFloat}
    (near : Near dist ε l a) (near' : Near dist ε m b) : Near dist ε (l ++ m.tail) (a + b) := by
  unfold Near at near near' ⊢
  rw [pathLength, strides_join ends starts, extent_join ends starts, List.sum_append,
    List.length_append]
  have left := gamma_mono nonneg (Nat.le_add_right (strides dist l).length (strides dist m).length)
  have right := gamma_mono nonneg (Nat.le_add_left (strides dist m).length (strides dist l).length)
  have split : a + b - ((strides dist l).sum + (strides dist m).sum) =
      (a - pathLength dist l) + (b - pathLength dist m) := by
    unfold pathLength
    ring
  rw [split, mul_add]
  refine (abs_add_le _ _).trans (add_le_add (near.trans ?_) (near'.trans ?_))
  · exact mul_le_mul_of_nonneg_right left (extent_nonneg l)
  · exact mul_le_mul_of_nonneg_right right (extent_nonneg m)

/-- An edge between two vertices, turned to start at the first of them. -/
theorem segmentFrom_spec (law : F.Roundoff ε) (floats : ∀ p q, F.IsFloat (dist p q))
    (symm : ∀ p q, dist p q = dist q p)
    (placed : ∀ w ∈ rails, w.nodes = w.nodeIds.map coord) {G : MultiGraph ℤ RailEdge} {u v : ℤ}
    {e : RailEdge} (mem : e ∈ G.edgeData (buildGraph F dist G rails).1 u v) :
    (segmentFrom e u).head? = some (coord u) ∧ (segmentFrom e u).getLast? = some (coord v) ∧
      2 ≤ (segmentFrom e u).length ∧ Near dist ε (segmentFrom e u) e.weight := by
  rw [buildGraph_eq, G.edgeData_ofEdges] at mem
  obtain ⟨_, listed, rfl⟩ := List.mem_map.mp mem
  obtain ⟨listed, joins⟩ := List.mem_filter.mp listed
  obtain ⟨p, kept, rfl⟩ := List.mem_map.mp listed
  obtain ⟨first, last, long, open'⟩ := keptPieces_geom placed kept
  rcases of_decide_eq_true joins with ⟨rfl, rfl⟩ | ⟨rfl, rfl⟩
  · have forward : segmentFrom (edgeOf F dist p).2.2 p.u = p.geom := if_pos rfl
    show (segmentFrom (edgeOf F dist p).2.2 p.u).head? = _ ∧ _
    rw [show (edgeOf F dist p).1 = p.u from rfl, forward]
    exact ⟨first, last, long, near_polylineLengthM law floats p.geom⟩
  · have backward : segmentFrom (edgeOf F dist p).2.2 p.v = p.geom.reverse := by
      have start : (edgeOf F dist p).2.2.uId ≠ p.v := open'
      have stop : (edgeOf F dist p).2.2.vId = p.v := rfl
      rw [segmentFrom, if_neg start, if_pos stop]
      rfl
    show (segmentFrom (edgeOf F dist p).2.2 p.v).head? = _ ∧ _
    rw [show (edgeOf F dist p).2.1 = p.v from rfl, backward, List.head?_reverse,
      List.getLast?_reverse, List.length_reverse]
    exact ⟨last, first, long, (near_polylineLengthM law floats p.geom).reverse symm⟩

/-! ## Along the path -/

variable (dist coord) in
/-- The polyline of a path: through the vertices in order, and as long as the path. -/
structure Stitched (ε : PyFloat) (G : MultiGraph ℤ RailEdge) (g : G.Graph) (path : List ℤ)
    (out : List Waypoint) : Prop where
  starts : out.head? = path.head?.map coord
  ends : out.getLast? = path.getLast?.map coord
  through : (path.map coord).Sublist out
  length : Near dist ε out (weightOf G g path)

variable {G : MultiGraph ℤ RailEdge}

variable (G) in
/-- A hop appends the lightest edge, turned to start where the polyline ends, and leaves out
the joint; the first hop takes the whole of it. -/
theorem stitchHop_spec (law : F.Roundoff ε) (floats : ∀ p q, F.IsFloat (dist p q))
    (symm : ∀ p q, dist p q = dist q p)
    (placed : ∀ w ∈ rails, w.nodes = w.nodeIds.map coord) {u v : ℤ}
    (adj : G.Adj (buildGraph F dist G rails).1 u v) :
    ∃ segment, segment.head? = some (coord u) ∧ segment.tail.getLast? = some (coord v) ∧
      Near dist ε segment (weightOf G (buildGraph F dist G rails).1 [u, v]) ∧
      stitchHop G (buildGraph F dist G rails).1 [] (u, v) = segment ∧
      ∀ out ≠ [], stitchHop G (buildGraph F dist G rails).1 out (u, v) = out ++ segment.tail := by
  obtain ⟨e, mem, best, weight⟩ := bestEdge_spec adj
  obtain ⟨first, last, long, length⟩ := segmentFrom_spec law floats symm placed mem
  refine ⟨segmentFrom e u, first, ?_, ?_, ?_, fun out some' => ?_⟩
  · rw [getLast?_tail_of_two long, last]
  · rw [weightOf, pathLength_cons_cons, pathLength_singleton, add_zero, ← weight]
    exact length
  · simp only [stitchHop, best, if_true]
  · simp only [stitchHop, best, if_neg some']

theorem stitchHop_keeps (law : F.Roundoff ε) (floats : ∀ p q, F.IsFloat (dist p q))
    (symm : ∀ p q, dist p q = dist q p)
    (placed : ∀ w ∈ rails, w.nodes = w.nodeIds.map coord) {visited : List ℤ} {u v : ℤ}
    {out : List Waypoint}
    (stitched : Stitched dist coord ε G (buildGraph F dist G rails).1 (visited ++ [u]) out)
    (adj : G.Adj (buildGraph F dist G rails).1 u v) :
    Stitched dist coord ε G (buildGraph F dist G rails).1 (visited ++ [u] ++ [v])
      (stitchHop G (buildGraph F dist G rails).1 out (u, v)) := by
  obtain ⟨segment, first, last, length, -, appends⟩ :=
    stitchHop_spec G law floats symm placed adj
  have joint : out.getLast? = some (coord u) := by
    rw [stitched.ends, List.getLast?_concat]
    rfl
  have nonempty : out ≠ [] := by
    intro empty
    rw [empty] at joint
    cases joint
  have whole : weightOf G (buildGraph F dist G rails).1 (visited ++ [u] ++ [v]) =
      weightOf G (buildGraph F dist G rails).1 (visited ++ [u]) +
        weightOf G (buildGraph F dist G rails).1 [u, v] := by
    rw [List.append_assoc]
    exact pathLength_append visited u [v]
  rw [appends out nonempty]
  constructor
  case starts =>
    rw [List.head?_append_of_ne_nil _ nonempty, stitched.starts]
    cases visited <;> rfl
  case ends =>
    rw [List.getLast?_concat, List.getLast?_append, last]
    rfl
  case through =>
    rw [List.map_append]
    exact stitched.through.append (List.singleton_sublist.mpr (List.mem_of_getLast? last))
  case length =>
    rw [whole]
    exact stitched.length.join law.nonneg joint first length

theorem stitch_run (law : F.Roundoff ε) (floats : ∀ p q, F.IsFloat (dist p q))
    (symm : ∀ p q, dist p q = dist q p)
    (placed : ∀ w ∈ rails, w.nodes = w.nodeIds.map coord) {visited : List ℤ} {u : ℤ}
    {rest : List ℤ} {out : List Waypoint}
    (stitched : Stitched dist coord ε G (buildGraph F dist G rails).1 (visited ++ [u]) out)
    (walk : (u :: rest).IsChain (G.Adj (buildGraph F dist G rails).1)) :
    Stitched dist coord ε G (buildGraph F dist G rails).1 (visited ++ u :: rest)
      ((pairwise (u :: rest)).foldl (stitchHop G (buildGraph F dist G rails).1) out) := by
  induction rest generalizing visited u out with
  | nil => exact stitched
  | cons v rest ih =>
      obtain ⟨adj, walk⟩ := List.isChain_cons_cons.mp walk
      have next := ih (stitchHop_keeps law floats symm placed stitched adj) walk
      rwa [List.append_assoc, List.singleton_append] at next

/-- The first hop starts the polyline as if it were at the first vertex already. -/
theorem stitchHop_nil (law : F.Roundoff ε) (floats : ∀ p q, F.IsFloat (dist p q))
    (symm : ∀ p q, dist p q = dist q p)
    (placed : ∀ w ∈ rails, w.nodes = w.nodeIds.map coord) {u v : ℤ}
    (adj : G.Adj (buildGraph F dist G rails).1 u v) :
    stitchHop G (buildGraph F dist G rails).1 [] (u, v) =
      stitchHop G (buildGraph F dist G rails).1 [coord u] (u, v) := by
  obtain ⟨segment, first, -, -, whole, appends⟩ := stitchHop_spec G law floats symm placed adj
  obtain ⟨rest, rfl⟩ := List.head?_eq_some_iff.mp first
  rw [whole, appends _ (List.cons_ne_nil _ _)]
  rfl

theorem near_singleton {p : Waypoint} : Near dist ε [p] 0 := by simp [Near, extent, pathLength]

theorem stitched_path (law : F.Roundoff ε) (floats : ∀ p q, F.IsFloat (dist p q))
    (symm : ∀ p q, dist p q = dist q p)
    (placed : ∀ w ∈ rails, w.nodes = w.nodeIds.map coord) {path : List ℤ}
    (two : 2 ≤ path.length) (walk : path.IsChain (G.Adj (buildGraph F dist G rails).1)) :
    Stitched dist coord ε G (buildGraph F dist G rails).1 path
      (stitchPolyline G (buildGraph F dist G rails).1 path) := by
  cases path with
  | nil => simp at two
  | cons u tail =>
      cases tail with
      | nil => simp at two
      | cons v rest =>
          have adj := (List.isChain_cons_cons.mp walk).1
          have start :
              Stitched dist coord ε G (buildGraph F dist G rails).1 ([] ++ [u]) [coord u] :=
            ⟨rfl, rfl, List.Sublist.refl _, near_singleton⟩
          have run := stitch_run law floats symm placed start walk
          rw [stitchPolyline, if_neg (by omega), pairwise_cons_cons, List.foldl_cons,
            stitchHop_nil law floats symm placed adj]
          exact run

/-! ## The coordinates of the vertices -/

theorem coords_foldl (ps : List Piece)
    (geom : ∀ p ∈ ps, Kept F dist p →
      p.geom.head? = some (coord p.u) ∧ p.geom.getLast? = some (coord p.v))
    {state : G.Graph × Dict ℤ Waypoint} {v : ℤ}
    (known : (∃ p ∈ ps, Kept F dist p ∧ (v = p.u ∨ v = p.v)) ∨ state.2.get? v = some (coord v)) :
    (ps.foldl (addPiece F dist G) state).2.get? v = some (coord v) := by
  induction ps generalizing state with
  | nil => simpa using known
  | cons p ps ih =>
      have later := fun q mem => geom q (List.mem_cons_of_mem p mem)
      have here : (Kept F dist p ∧ (v = p.u ∨ v = p.v)) ∨ state.2.get? v = some (coord v) →
          (addPiece F dist G state p).2.get? v = some (coord v) := by
        intro known
        rw [addPiece_eq]
        by_cases kept : Kept F dist p
        · obtain ⟨first, last⟩ := geom p List.mem_cons_self kept
          rw [if_pos kept, List.headD_eq_head?_getD, first, List.getLastD_eq_getLast?, last]
          simp only [Option.getD_some, Dict.get?_set]
          split_ifs with stop start
          · rw [stop]
          · rw [start]
          · exact known.resolve_left fun ends => ends.2.elim start stop
        · rw [if_neg kept]
          exact known.resolve_left fun ends => kept ends.1
      rw [List.foldl_cons]
      rcases known with ⟨q, mem, kept, ends⟩ | before
      · rcases List.mem_cons.mp mem with rfl | behind
        · exact ih later (.inr (here (.inl ⟨kept, ends⟩)))
        · exact ih later (.inl ⟨q, behind, kept, ends⟩)
      · exact ih later (.inr (here (.inr before)))

/-- `coord_by_node` has the coordinates of every vertex. -/
theorem coordByNode_eq (placed : ∀ w ∈ rails, w.nodes = w.nodeIds.map coord) {v : ℤ}
    (node : G.HasNode (buildGraph F dist G rails).1 v) :
    (buildGraph F dist G rails).2.get? v = some (coord v) := by
  rw [buildGraph_flat]
  refine coords_foldl _ (fun p mem kept => ?_) (.inl ?_)
  · obtain ⟨w, way, piece⟩ := List.mem_flatMap.mp mem
    obtain ⟨first, last, -⟩ :=
      keptPieces_geom placed ((mem_keptPieces F dist).mpr ⟨⟨w, way, piece⟩, kept⟩)
    exact ⟨first, last⟩
  · obtain ⟨p, mem, ends⟩ := (hasNode_iff F dist G rails v).mp node
    obtain ⟨⟨w, way, piece⟩, kept⟩ := (mem_keptPieces F dist).mp mem
    exact ⟨p, List.mem_flatMap.mpr ⟨w, way, piece⟩, kept, ends⟩

/-- Neighbours are vertices. -/
theorem hasNode_of_adj {u v : ℤ} (adj : G.Adj (buildGraph F dist G rails).1 u v) :
    G.HasNode (buildGraph F dist G rails).1 u ∧ G.HasNode (buildGraph F dist G rails).1 v := by
  obtain ⟨p, mem, joins⟩ := (adj_iff F dist G rails u v).mp adj
  rw [hasNode_iff, hasNode_iff]
  rcases joins with ⟨rfl, rfl⟩ | ⟨rfl, rfl⟩
  · exact ⟨⟨p, mem, .inl rfl⟩, ⟨p, mem, .inr rfl⟩⟩
  · exact ⟨⟨p, mem, .inr rfl⟩, ⟨p, mem, .inl rfl⟩⟩

theorem hasNode_of_walk {path : List ℤ} (two : 2 ≤ path.length)
    (walk : path.IsChain (G.Adj (buildGraph F dist G rails).1)) :
    ∀ v ∈ path, G.HasNode (buildGraph F dist G rails).1 v := by
  rw [List.isChain_iff_getElem] at walk
  intro v mem
  obtain ⟨i, lt, rfl⟩ := List.getElem_of_mem mem
  by_cases more : i + 1 < path.length
  · exact (hasNode_of_adj (walk i more)).1
  · obtain ⟨j, rfl⟩ : ∃ j, i = j + 1 := ⟨i - 1, by omega⟩
    exact (hasNode_of_adj (walk j lt)).2

/-- **The polyline of a path through the graph starts and ends at the coordinates of its
ends, passes through its vertices in order, and is as long as the lightest edges along it**, up
to one rounding for each of its distances in either sum: without roundings the two are equal. -/
theorem stitch_preserves_length (G : MultiGraph ℤ RailEdge) (law : F.Roundoff ε)
    (floats : ∀ p q, F.IsFloat (dist p q)) (symm : ∀ p q, dist p q = dist q p)
    (placed : ∀ w ∈ rails, w.nodes = w.nodeIds.map coord) {path : List ℤ}
    (two : 2 ≤ path.length) (walk : path.IsChain (G.Adj (buildGraph F dist G rails).1)) :
    Stitched dist coord ε G (buildGraph F dist G rails).1 path
        (stitchPolyline G (buildGraph F dist G rails).1 path) ∧
      |polylineLengthM F dist (stitchPolyline G (buildGraph F dist G rails).1 path) -
          weightOf G (buildGraph F dist G rails).1 path| ≤
        2 * (gamma ε (strides dist (stitchPolyline G (buildGraph F dist G rails).1 path)).length *
          extent dist (stitchPolyline G (buildGraph F dist G rails).1 path)) ∧
      ∀ v ∈ path, (buildGraph F dist G rails).2.get? v = some (coord v) := by
  have stitched := stitched_path law floats symm placed two walk
  refine ⟨stitched, ?_, fun v mem => coordByNode_eq placed (hasNode_of_walk two walk v mem)⟩
  have weights := stitched.length
  have sum := near_polylineLengthM law floats
    (stitchPolyline G (buildGraph F dist G rails).1 path)
  unfold Near at weights sum
  rw [abs_sub_comm] at weights
  rw [two_mul]
  exact (abs_sub_le _ _ _).trans (add_le_add sum weights)

end

/-! ## In doubles -/

/-- A distance in doubles. -/
def roundedM (p q : Waypoint) : PyFloat := binary64.round (haversineM meridian p q)

theorem roundedM_comm (p q : Waypoint) : roundedM p q = roundedM q p := by
  simp only [roundedM, haversineM, meridian, northward]
  congr 3
  ring

/-- Against the direction of one way, then along another. -/
theorem stitch_preserves_length_back :
    let G := MultiGraph.edgeList ℤ RailEdge
    let g := buildGraph binary64 roundedM G doubledNode
    let out := stitchPolyline G g.1 [4, 3, 5]
    Stitched roundedM northNode (2 ^ (-53 : ℤ)) G g.1 [4, 3, 5] out ∧
      |polylineLengthM binary64 roundedM out - weightOf G g.1 [4, 3, 5]| ≤
        2 * (gamma (2 ^ (-53 : ℤ)) (strides roundedM out).length * extent roundedM out) ∧
      ∀ v ∈ [4, 3, 5], g.2.get? v = some (northNode v) := by
  have one : Track binary64 roundedM doubledNode 4 3 := by decide +kernel
  have two : Track binary64 roundedM doubledNode 3 5 := by decide +kernel
  exact stitch_preserves_length (MultiGraph.edgeList ℤ RailEdge) binary64_roundoff
    (fun p q => binary64.isFloat_round _) roundedM_comm (by decide +kernel) (by decide)
    (.cons_cons ((adj_iff _ _ _ _ _ _).mpr one)
      (.cons_cons ((adj_iff _ _ _ _ _ _).mpr two) (.singleton 5)))

/-- Five nodes due north of each other, in doubles. -/
def roundedNode (id : ℤ) : Waypoint :=
  (binary64.round ([43, 43.1, 43.25, 43.3, 43.7, 43.85].getD id.toNat 0), 77)

def roundedWay (osmId : ℤ) (nodeIds : List ℤ) : RailWay where
  osmId
  nodes := nodeIds.map roundedNode
  nodeIds
  sameLength := List.length_map _

def twoWays : List RailWay := [roundedWay 10 [1, 2, 3], roundedWay 11 [3, 4, 5]]

/-- Neither is the length of the polyline the sum of the weights, nor their double sum. -/
theorem two_ways_rounded :
    let G := MultiGraph.edgeList ℤ RailEdge
    let g := (buildGraph binary64 roundedM G twoWays).1
    let length := polylineLengthM binary64 roundedM (stitchPolyline G g [1, 3, 5])
    (∀ w ∈ twoWays, w.nodes = w.nodeIds.map roundedNode) ∧
      [1, 3, 5].IsChain (G.Adj g) ∧ length ≠ weightOf G g [1, 3, 5] ∧
      length ≠ binary64.sum (strides (fun u v => lightest (G.edgeData g u v)) [1, 3, 5]) := by
  have one : Track binary64 roundedM twoWays 1 3 := by decide +kernel
  have two : Track binary64 roundedM twoWays 3 5 := by decide +kernel
  refine ⟨by decide +kernel, .cons_cons ((adj_iff _ _ _ _ _ _).mpr one)
    (.cons_cons ((adj_iff _ _ _ _ _ _).mpr two) (.singleton 5)), ?_, ?_⟩ <;> decide +kernel

end LocoTwin.Tools
