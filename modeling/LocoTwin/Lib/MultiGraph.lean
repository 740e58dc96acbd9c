/-
# Lib.MultiGraph -- undirected graphs with parallel edges

A `MultiGraph V E` is a kind of graph one can add edges to, with the laws of its two
observations: the data of the edges between two vertices, in the order they were added, and
which vertices there are.  An edge adds its ends, and reads the same from both.

* `edgeData_addEdges`, `hasNode_addEdges`: what a graph built from a list of edges holds;
* `adj_addEdges`: its neighbours are the ends of its edges;
* `not_connected`: a set that no edge leaves separates.

`MultiGraph.edgeList` keeps the list of edges.
-/
import Mathlib.Data.List.Basic
import Mathlib.Data.List.Induction
import Mathlib.Logic.Relation

namespace LocoTwin.Lib

set_option autoImplicit false

/-- The edge from `a` to `b` joins `u` and `v`. -/
def Joins {V : Type} (u v a b : V) : Prop := u = a ∧ v = b ∨ u = b ∧ v = a

instance {V : Type} [DecidableEq V] (u v a b : V) : Decidable (Joins u v a b) :=
  inferInstanceAs (Decidable (_ ∨ _))

theorem Joins.symm {V : Type} {u v a b : V} (joins : Joins u v a b) : Joins v u a b :=
  (Or.symm joins).imp And.symm And.symm

structure MultiGraph (V E : Type) [DecidableEq V] where
  Graph : Type
  empty : Graph
  addEdge : Graph → V → V → E → Graph
  /-- The edges between two vertices. -/
  edgeData : Graph → V → V → List E
  HasNode : Graph → V → Prop
  edgeData_empty : ∀ u v, edgeData empty u v = []
  edgeData_addEdge : ∀ g a b e u v, edgeData (addEdge g a b e) u v =
    if Joins u v a b then edgeData g u v ++ [e] else edgeData g u v
  hasNode_empty : ∀ v, ¬HasNode empty v
  hasNode_addEdge : ∀ g a b e v, HasNode (addEdge g a b e) v ↔ HasNode g v ∨ v = a ∨ v = b

namespace MultiGraph

variable {V E : Type} [DecidableEq V] (G : MultiGraph V E)

/-- The graph with these edges, ends first, and no others. -/
def ofEdges (edges : List (V × V × E)) : G.Graph :=
  edges.foldl (fun g e => G.addEdge g e.1 e.2.1 e.2.2) G.empty

theorem ofEdges_append_single (edges : List (V × V × E)) (e : V × V × E) :
    G.ofEdges (edges ++ [e]) = G.addEdge (G.ofEdges edges) e.1 e.2.1 e.2.2 := by
  simp [ofEdges]

theorem edgeData_ofEdges (edges : List (V × V × E)) (u v : V) :
    G.edgeData (G.ofEdges edges) u v =
      (edges.filter fun e => decide (Joins u v e.1 e.2.1)).map fun e => e.2.2 := by
  induction edges using List.reverseRecOn with
  | nil => exact G.edgeData_empty u v
  | append_singleton edges e ih =>
      rw [ofEdges_append_single, G.edgeData_addEdge, ih]
      by_cases joins : Joins u v e.1 e.2.1 <;> simp [joins]

theorem hasNode_ofEdges (edges : List (V × V × E)) (v : V) :
    G.HasNode (G.ofEdges edges) v ↔ ∃ e ∈ edges, v = e.1 ∨ v = e.2.1 := by
  induction edges using List.reverseRecOn with
  | nil => simpa [ofEdges] using G.hasNode_empty v
  | append_singleton edges e ih =>
      rw [ofEdges_append_single, G.hasNode_addEdge, ih]
      simp only [List.mem_append, List.mem_singleton, or_and_right, exists_or, exists_eq_left]

/-! ## Neighbours -/

/-- There is an edge between the two. -/
def Adj (g : G.Graph) (u v : V) : Prop := G.edgeData g u v ≠ []

def Connected (g : G.Graph) : V → V → Prop := Relation.ReflTransGen (G.Adj g)

theorem adj_ofEdges (edges : List (V × V × E)) (u v : V) :
    G.Adj (G.ofEdges edges) u v ↔ ∃ e ∈ edges, Joins u v e.1 e.2.1 := by
  rw [Adj, edgeData_ofEdges, ne_eq, List.map_eq_nil_iff, List.filter_eq_nil_iff]
  simp only [decide_eq_true_eq, not_forall, not_not, exists_prop]

/-- A set that no edge leaves separates. -/
theorem not_connected {G : MultiGraph V E} {g : G.Graph} {S : V → Prop}
    (closed : ∀ u v, G.Adj g u v → S u → S v) {u v : V} (inside : S u) (outside : ¬S v) :
    ¬G.Connected g u v := by
  intro path
  have reached : S v := by
    clear outside
    induction path with
    | refl => exact inside
    | tail _ edge ih => exact closed _ _ edge ih
  exact outside reached

/-! ## Lists of edges -/

variable (V E) in
/-- A graph as the list of its edges. -/
def edgeList : MultiGraph V E where
  Graph := List (V × V × E)
  empty := []
  addEdge edges a b e := edges ++ [(a, b, e)]
  edgeData edges u v :=
    (edges.filter fun e => decide (Joins u v e.1 e.2.1)).map fun e => e.2.2
  HasNode edges v := ∃ e ∈ edges, v = e.1 ∨ v = e.2.1
  edgeData_empty _ _ := rfl
  edgeData_addEdge edges a b e u v := by
    by_cases joins : Joins u v a b <;> simp [joins]
  hasNode_empty v := by simp
  hasNode_addEdge edges a b e v := by
    simp only [List.mem_append, List.mem_singleton, or_and_right, exists_or, exists_eq_left]

end MultiGraph

end LocoTwin.Lib
