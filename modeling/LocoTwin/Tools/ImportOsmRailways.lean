/-
# Tools.ImportOsmRailways -- the rail graph of a map extract

`buildGraph` cuts every way at its ends and at the nodes that occur more than once in all
ways together, and adds an edge for each piece, with its own geometry.  A piece without
length and a piece that closes on itself are dropped.  `stitchPolyline` puts the geometries
of the edges along a path together again, each turned to start where the last one ended.

The graph is any `MultiGraph`, `F` is the arithmetic of the lengths, and `dist` stands for
`haversine_m`.

* `vertices_of_pieces`: the pieces of a way lie between its cuts, in order;
* `buildGraph_eq`: the graph has the kept pieces for edges, in the order of the ways.
-/
import LocoTwin.Lib.Binary64
import LocoTwin.Lib.Dict
import LocoTwin.Lib.MultiGraph
import LocoTwin.Lib.Walks
import LocoTwin.Shared.RouteGeometry

namespace LocoTwin.Tools

open LocoTwin.Lib LocoTwin.Shared

set_option autoImplicit false

/-- A way, with the coordinates and the ids of its nodes. -/
structure RailWay where
  osmId : ℤ
  nodes : List Waypoint
  nodeIds : List ℤ
  sameLength : nodes.length = nodeIds.length
  deriving DecidableEq

/-- The attributes of an edge. -/
structure RailEdge where
  weight : PyFloat
  geom : List Waypoint
  uId : ℤ
  vId : ℤ
  deriving DecidableEq

section

variable (F : FloatArith) (dist : Waypoint → Waypoint → PyFloat)

def polylineLengthM (points : List Waypoint) : PyFloat := F.sum (strides dist points)

/-! ## Cutting the ways -/

/-- How often each node occurs in the ways. -/
def refcounts (rails : List RailWay) : Dict ℤ ℕ :=
  rails.foldl (fun refcount w =>
    w.nodeIds.foldl (fun refcount nid => refcount.set nid (refcount.getD nid 0 + 1)) refcount)
    Dict.empty

/-- Where a way is cut. -/
def splitIdx (refcount : Dict ℤ ℕ) (w : RailWay) : List ℕ :=
  (List.range w.nodeIds.length).filter fun i =>
    i = 0 ∨ i + 1 = w.nodeIds.length ∨ 2 ≤ refcount.getD (w.nodeIds.getD i 0) 0

/-- A piece of a way: `sub_geom`, `sub_ids[0]` and `sub_ids[-1]`. -/
structure Piece where
  geom : List Waypoint
  u : ℤ
  v : ℤ
  deriving DecidableEq

def pieceOf (w : RailWay) (cut : ℕ × ℕ) : Piece where
  geom := slice w.nodes cut.1 cut.2
  u := (slice w.nodeIds cut.1 cut.2).headD 0
  v := (slice w.nodeIds cut.1 cut.2).getLastD 0

def pieces (refcount : Dict ℤ ℕ) (w : RailWay) : List Piece :=
  (pairwise (splitIdx refcount w)).map (pieceOf w)

/-! ## The graph -/

variable (G : MultiGraph ℤ RailEdge)

/-- The body of the loop over the pieces of a way. -/
def addPiece (state : G.Graph × Dict ℤ Waypoint) (p : Piece) : G.Graph × Dict ℤ Waypoint :=
  if p.geom.length < 2 then state
  else
    let length := polylineLengthM F dist p.geom
    if length ≤ 0 then state
    else if p.u = p.v then state
    else
      (G.addEdge state.1 p.u p.v { weight := length, geom := p.geom, uId := p.u, vId := p.v },
        (state.2.set p.u (p.geom.headD (0, 0))).set p.v (p.geom.getLastD (0, 0)))

def buildGraph (rails : List RailWay) : G.Graph × Dict ℤ Waypoint :=
  rails.foldl (fun state w => (pieces (refcounts rails) w).foldl (addPiece F dist G) state)
    (G.empty, Dict.empty)

/-! ## Along a path -/

/-- The lightest of the edges between two vertices, the first of equal ones. -/
def bestEdge (edges : List RailEdge) : Option RailEdge := edges.minOn? RailEdge.weight

/-- The geometry of an edge, from its end `u` on. -/
def segmentFrom (edge : RailEdge) (u : ℤ) : List Waypoint :=
  if edge.uId = u then edge.geom
  else if edge.vId = u then edge.geom.reverse
  else edge.geom

/-- One hop of the loop over the path. -/
def stitchHop (g : G.Graph) (out : List Waypoint) (hop : ℤ × ℤ) : List Waypoint :=
  match bestEdge (G.edgeData g hop.1 hop.2) with
  | none => out
  | some edge =>
      let segment := segmentFrom edge hop.1
      if out = [] then segment else out ++ segment.tail

def stitchPolyline (g : G.Graph) (path : List ℤ) : List Waypoint :=
  if path.length < 2 then [] else (pairwise path).foldl (stitchHop G g) []

end

/-! ## How often a node occurs -/

theorem getD_refcount (ids : List ℤ) (refcount : Dict ℤ ℕ) (nid : ℤ) :
    (ids.foldl (fun refcount nid => refcount.set nid (refcount.getD nid 0 + 1)) refcount).getD
      nid 0 = refcount.getD nid 0 + ids.count nid := by
  induction ids generalizing refcount with
  | nil => rfl
  | cons id ids ih =>
      rw [List.foldl_cons, ih, Dict.getD_set]
      by_cases same : nid = id
      · subst same
        simp only [if_true, List.count_cons_self]
        omega
      · rw [if_neg same, List.count_cons_of_ne (Ne.symm same)]

theorem getD_refcounts (rails : List RailWay) (nid : ℤ) :
    (refcounts rails).getD nid 0 = (rails.flatMap RailWay.nodeIds).count nid := by
  have folded : refcounts rails = (rails.flatMap RailWay.nodeIds).foldl
      (fun refcount nid => refcount.set nid (refcount.getD nid 0 + 1)) Dict.empty := by
    rw [List.foldl_flatMap]
    rfl
  rw [folded, getD_refcount]
  exact Nat.zero_add _

/-! ## Pieces -/

theorem lt_of_splitIdx {refcount : Dict ℤ ℕ} {w : RailWay} {k i : ℕ}
    (cut : (splitIdx refcount w)[k]? = some i) : i < w.nodeIds.length :=
  List.mem_range.mp (List.mem_of_mem_filter (List.mem_of_getElem? cut))

theorem splitIdx_lt {refcount : Dict ℤ ℕ} {w : RailWay} {k i j : ℕ}
    (cut : (splitIdx refcount w)[k]? = some i) (next : (splitIdx refcount w)[k + 1]? = some j) :
    i < j := by
  have sorted : (splitIdx refcount w).Pairwise (· < ·) := List.pairwise_lt_range.filter _
  obtain ⟨lt, rfl⟩ := List.getElem?_eq_some_iff.mp cut
  obtain ⟨lt', rfl⟩ := List.getElem?_eq_some_iff.mp next
  exact List.pairwise_iff_getElem.mp sorted k (k + 1) lt lt' (Nat.lt_succ_self k)

theorem getElem?_pieces {refcount : Dict ℤ ℕ} {w : RailWay} {k : ℕ} {p : Piece} :
    (pieces refcount w)[k]? = some p ↔ ∃ i j, (splitIdx refcount w)[k]? = some i ∧
      (splitIdx refcount w)[k + 1]? = some j ∧ pieceOf w (i, j) = p := by
  rw [pieces, List.getElem?_map, Option.map_eq_some_iff]
  simp only [Prod.exists, getElem?_pairwise, and_assoc]

/-- The ids where a way is cut, in order. -/
def vertices (refcount : Dict ℤ ℕ) (w : RailWay) : List ℤ :=
  (splitIdx refcount w).map fun i => w.nodeIds.getD i 0

/-- The ends of a piece. -/
theorem pieceOf_ends {w : RailWay} {i j : ℕ} (le : i ≤ j) (lt : j < w.nodeIds.length) :
    (pieceOf w (i, j)).u = w.nodeIds.getD i 0 ∧ (pieceOf w (i, j)).v = w.nodeIds.getD j 0 := by
  constructor
  · rw [pieceOf, List.headD_eq_head?_getD, head?_slice le, List.getD_eq_getElem?_getD]
  · rw [pieceOf, List.getLastD_eq_getLast?, getLast?_slice le lt, List.getD_eq_getElem?_getD]

/-- Piece `k` lies between vertices `k` and `k + 1`. -/
theorem vertices_of_pieces {refcount : Dict ℤ ℕ} {w : RailWay} {k : ℕ} {p : Piece}
    (piece : (pieces refcount w)[k]? = some p) :
    (vertices refcount w)[k]? = some p.u ∧ (vertices refcount w)[k + 1]? = some p.v := by
  obtain ⟨i, j, cut, next, rfl⟩ := getElem?_pieces.mp piece
  obtain ⟨start, stop⟩ := pieceOf_ends (splitIdx_lt cut next).le (lt_of_splitIdx next)
  rw [vertices, List.getElem?_map, List.getElem?_map, cut, next, start, stop]
  exact ⟨rfl, rfl⟩

/-! ## The edges -/

section

variable (F : FloatArith) (dist : Waypoint → Waypoint → PyFloat)

/-- The piece is not dropped. -/
def Kept (p : Piece) : Prop :=
  2 ≤ p.geom.length ∧ 0 < polylineLengthM F dist p.geom ∧ p.u ≠ p.v

instance (p : Piece) : Decidable (Kept F dist p) := inferInstanceAs (Decidable (_ ∧ _))

def keptPieces (rails : List RailWay) : List Piece :=
  rails.flatMap fun w => (pieces (refcounts rails) w).filter fun p => decide (Kept F dist p)

/-- The edge of a piece, its ends first. -/
def edgeOf (p : Piece) : ℤ × ℤ × RailEdge :=
  (p.u, p.v, { weight := polylineLengthM F dist p.geom, geom := p.geom, uId := p.u, vId := p.v })

theorem mem_keptPieces {rails : List RailWay} {p : Piece} :
    p ∈ keptPieces F dist rails ↔
      (∃ w ∈ rails, p ∈ pieces (refcounts rails) w) ∧ Kept F dist p := by
  simp only [keptPieces, List.mem_flatMap, List.mem_filter, decide_eq_true_eq, exists_and_right,
    ← and_assoc]

variable (G : MultiGraph ℤ RailEdge)

theorem addPiece_eq (state : G.Graph × Dict ℤ Waypoint) (p : Piece) :
    addPiece F dist G state p =
      if Kept F dist p then
        (G.addEdge state.1 p.u p.v (edgeOf F dist p).2.2,
          (state.2.set p.u (p.geom.headD (0, 0))).set p.v (p.geom.getLastD (0, 0)))
      else state := by
  unfold addPiece
  by_cases short : p.geom.length < 2
  · rw [if_pos short, if_neg fun kept : Kept F dist p => absurd kept.1 (not_le.mpr short)]
  · by_cases flat : polylineLengthM F dist p.geom ≤ 0
    · simp only [if_neg short, if_pos flat]
      rw [if_neg fun kept : Kept F dist p => absurd kept.2.1 (not_lt.mpr flat)]
    · by_cases closed : p.u = p.v
      · simp only [if_neg short, if_neg flat, if_pos closed]
        rw [if_neg fun kept : Kept F dist p => kept.2.2 closed]
      · simp only [if_neg short, if_neg flat, if_neg closed]
        rw [if_pos (show Kept F dist p from ⟨not_lt.mp short, not_le.mp flat, closed⟩)]
        rfl

theorem foldl_addPiece (ps : List Piece) (state : G.Graph × Dict ℤ Waypoint) :
    (ps.foldl (addPiece F dist G) state).1 =
      ((ps.filter fun p => decide (Kept F dist p)).map (edgeOf F dist)).foldl
        (fun g e => G.addEdge g e.1 e.2.1 e.2.2) state.1 := by
  induction ps generalizing state with
  | nil => rfl
  | cons p ps ih =>
      rw [List.foldl_cons, ih, addPiece_eq]
      by_cases kept : Kept F dist p <;> simp [kept, edgeOf]

theorem buildGraph_flat (rails : List RailWay) :
    buildGraph F dist G rails = (rails.flatMap (pieces (refcounts rails))).foldl (addPiece F dist G)
      (G.empty, Dict.empty) := by
  rw [List.foldl_flatMap]
  rfl

/-- The graph has the kept pieces for edges. -/
theorem buildGraph_eq (rails : List RailWay) :
    (buildGraph F dist G rails).1 = G.ofEdges ((keptPieces F dist rails).map (edgeOf F dist)) := by
  rw [buildGraph_flat, foldl_addPiece, List.filter_flatMap]
  rfl

end

end LocoTwin.Tools
