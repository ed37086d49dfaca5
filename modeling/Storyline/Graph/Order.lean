-- SUMMARY: Ordering a graph so that parents come first, and checking that it can be played.
import Storyline.Graph
import Storyline.SortedMap

/-!
# Order and validity

Nodes are put in order by taking, again and again, the node that has been ready for longest: a node is
ready when all its known parents are placed. A graph with a cycle has nodes that never get ready.

A graph is valid if every edge joins known nodes, the root is a node and there is no cycle. These are
checked in that order and the first fault is reported.
-/

namespace Storyline

/-- What makes a graph unplayable, or a question about it unanswerable. -/
inductive GraphError where
  | unknownEndpoint (edge : Edge) (missing : NodeId)
  | missingRoot (root : NodeId)
  | cycle (ordered total : Nat)
  | unknownNode (id : NodeId)
  deriving DecidableEq

/-- The wording of a graph error. -/
def GraphError.message : GraphError → String
  | unknownEndpoint edge missing =>
    "edge " ++ edge.source ++ " -> " ++ edge.target ++ s!" references unknown node '{missing}'"
  | missingRoot root => s!"missing root node '{root}'"
  | cycle ordered total =>
    s!"graph contains a cycle: only {ordered} of {total} nodes could be ordered"
  | unknownNode id => s!"unknown node: {id}"

namespace Graph

/-- The number of edges from known nodes to a node. -/
def knownParents (graph : Graph) (id : NodeId) : Nat :=
  ((graph.parents id).filter graph.contains).length

/-- How many parents each node waits for. -/
abbrev Waiting := SortedMap Nat

/-- Counts one parent as placed for each of the given children. The children that waited for no other
get ready, in this order. -/
def release : List NodeId → Waiting → Waiting × List NodeId
  | [], waiting => (waiting, [])
  | child :: rest, waiting =>
    match waiting.get? child with
    | none => release rest waiting
    | some count =>
      let (later, ready) := release rest (waiting.insert child (count - 1))
      (later, if count - 1 = 0 then child :: ready else ready)

/-- Places ready nodes, first one first, at most as many as the fuel says. -/
def place (graph : Graph) : (fuel : Nat) → (ready : List NodeId) → Waiting → List NodeId
  | 0, _, _ => []
  | _ + 1, [], _ => []
  | fuel + 1, id :: ready, waiting =>
    let (waiting, freed) := release (graph.childIds id) waiting
    id :: place graph fuel (ready ++ freed) waiting

/-- The nodes that can be placed, parents first. No node is placed twice, so the number of nodes is
enough fuel. -/
def placed (graph : Graph) : List NodeId :=
  graph.place graph.size (graph.ids.filter fun id => graph.knownParents id == 0)
    (SortedMap.ofList (graph.ids.map fun id => (id, graph.knownParents id)))

/-- All nodes in an order where parents come first. Edges that touch unknown ids do not count. -/
def topologicalOrder (graph : Graph) : Except GraphError (List NodeId) :=
  let order := graph.placed
  if order.length = graph.size then .ok order else .error (.cycle order.length graph.size)

/-- The first end of an edge that is no node. -/
def missingEndpoint? (graph : Graph) (edge : Edge) : Option NodeId :=
  [edge.source, edge.target].find? fun id => !graph.contains id

/-- Checks edges, root and cycles. -/
def validate (graph : Graph) : Except GraphError Unit :=
  match graph.edges.findSome? fun edge => (graph.missingEndpoint? edge).map fun id => (edge, id) with
  | some (edge, missing) => .error (.unknownEndpoint edge missing)
  | none =>
    if graph.contains graph.root then graph.topologicalOrder.map fun _ => ()
    else .error (.missingRoot graph.root)

end Graph

end Storyline
