-- SUMMARY: Walking a graph along its edges: endings, ancestors and unreachable nodes.
import Storyline.Graph
import Storyline.SortedMap

/-!
# Reachability

One depth-first walk along arrows answers every question about reachability; upward questions turn the
arrows round. The walk ends on every graph, also on one with cycles, because each new node uses up the
arrows that leave it: see `length_fresh_cons`.
-/

namespace Storyline.Graph

/-- The ends of the arrows that leave `id`. -/
def ends (arrows : List (NodeId × NodeId)) (id : NodeId) : List NodeId :=
  (arrows.filter (·.1 == id)).map (·.2)

/-- The arrows that leave no node of `seen`. -/
def fresh (arrows : List (NodeId × NodeId)) (seen : List NodeId) : List (NodeId × NodeId) :=
  arrows.filter fun arrow => !seen.contains arrow.1

theorem length_fresh_cons (arrows : List (NodeId × NodeId)) {id : NodeId} {seen : List NodeId}
    (h : seen.contains id = false) :
    (fresh arrows (id :: seen)).length + (ends arrows id).length = (fresh arrows seen).length := by
  induction arrows with
  | nil => rfl
  | cons arrow rest ih =>
    simp only [fresh, ends, List.length_map, List.contains_cons] at ih ⊢
    by_cases hid : arrow.1 = id
    · subst hid
      simp only [List.filter_cons, BEq.rfl, Bool.true_or, Bool.not_true, h, Bool.not_false, if_true,
        List.length_cons, Bool.false_eq_true, if_false]
      omega
    · by_cases hs : seen.contains arrow.1 = true
      · simp_all
      · simp_all
        omega

/-- The nodes met on a depth-first walk, in the order in which they are first met. `pending` holds the
nodes to go on with, next one first. -/
def walk (arrows : List (NodeId × NodeId)) (pending seen : List NodeId) : List NodeId :=
  match pending with
  | [] => []
  | id :: pending =>
    if seen.contains id then walk arrows pending seen
    else id :: walk arrows (ends arrows id ++ pending) (id :: seen)
termination_by pending.length + (fresh arrows seen).length
decreasing_by
  · simp
  · rename_i h
    have := length_fresh_cons arrows (by simpa using h : seen.contains id = false)
    simp only [List.length_append, List.length_cons]
    omega

/-- The arrows from parents to children. -/
def downward (graph : Graph) : List (NodeId × NodeId) :=
  graph.edges.map fun edge => (edge.source, edge.target)

/-- The arrows from children to parents. -/
def upward (graph : Graph) : List (NodeId × NodeId) :=
  graph.edges.map fun edge => (edge.target, edge.source)

/-- The nodes without children that can be reached from a node, in depth-first order. -/
def reachableEndings (graph : Graph) (start : NodeId) : List NodeId :=
  if graph.contains start then
    (walk graph.downward [start] []).filter fun id => (graph.children id).isEmpty
  else []

/-- All nodes above a node. -/
def ancestors (graph : Graph) (id : NodeId) : NameSet :=
  NameSet.ofNames (walk graph.upward (graph.parents id) [])

/-- The nodes that cannot be reached from `start`. -/
def unreachableFrom (graph : Graph) (start : NodeId) : List NodeId :=
  let reached := walk graph.downward [start] []
  graph.ids.filter fun id => !reached.contains id

end Storyline.Graph
