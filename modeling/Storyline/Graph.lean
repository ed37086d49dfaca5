-- SUMMARY: Story graphs: building them, and looking at nodes, children and parents.
import Storyline.Config
import Storyline.Story

/-!
# Story graphs

A graph is a root, nodes in the order of their first insertion, and edges in the order of theirs. No two
nodes share an id. Insertion checks nothing: edges may be repeated, may lead back to their source and may
touch ids that no node has. Children and parents are views of the edges.

Main statement: `ids_addNode` (a new id comes last, a known one keeps its place).
-/

namespace Storyline

/-- Nodes and edges of a branching story. -/
structure Graph where
  root : NodeId := defaultRoot
  nodes : List Node := []
  edges : List Edge := []
  ids_nodup : (nodes.map (·.id)).Nodup := by exact List.nodup_nil
  deriving DecidableEq

namespace Graph

instance : Inhabited Graph := ⟨{}⟩

/-! ## Nodes -/

/-- Is there a node with this id? -/
def contains (graph : Graph) (id : NodeId) : Bool :=
  graph.nodes.any (·.id == id)

/-- The node with this id. -/
def node? (graph : Graph) (id : NodeId) : Option Node :=
  graph.nodes.find? (·.id == id)

/-- The ids of all nodes, in insertion order. -/
def ids (graph : Graph) : List NodeId :=
  graph.nodes.map (·.id)

/-- The number of nodes. -/
def size (graph : Graph) : Nat :=
  graph.nodes.length

/-- The nodes with `node` at the place of the one that has its id, or behind the others. -/
def putNode (node : Node) : List Node → List Node
  | [] => [node]
  | old :: rest => if old.id = node.id then node :: rest else old :: putNode node rest

theorem ids_putNode (node : Node) (nodes : List Node) :
    (putNode node nodes).map (·.id) =
      if node.id ∈ nodes.map (·.id) then nodes.map (·.id) else nodes.map (·.id) ++ [node.id] := by
  induction nodes with
  | nil => rfl
  | cons old rest ih =>
    by_cases h : old.id = node.id
    · simp [putNode, h]
    · rw [putNode, if_neg h, List.map_cons, ih]
      split <;> simp_all [Ne.symm h]

theorem ids_nodup_putNode (node : Node) {nodes : List Node} (h : (nodes.map (·.id)).Nodup) :
    ((putNode node nodes).map (·.id)).Nodup := by
  rw [ids_putNode]
  split
  · exact h
  · rename_i hnew
    refine List.nodup_append.2 ⟨h, by simp, fun a ha b hb => ?_⟩
    rintro rfl
    exact hnew (List.mem_singleton.1 hb ▸ ha)

/-- Adds a node. A node with the same id gives up its place to it. -/
def addNode (graph : Graph) (node : Node) : Graph :=
  { graph with
    nodes := putNode node graph.nodes
    ids_nodup := ids_nodup_putNode node graph.ids_nodup }

theorem ids_addNode (graph : Graph) (node : Node) :
    (graph.addNode node).ids =
      if node.id ∈ graph.ids then graph.ids else graph.ids ++ [node.id] :=
  ids_putNode node graph.nodes

/-! ## Edges -/

/-- Adds an edge behind the others. -/
def addEdge (graph : Graph) (edge : Edge) : Graph :=
  { graph with edges := graph.edges ++ [edge] }

/-- The ways out of a node. -/
def children (graph : Graph) (id : NodeId) : List Link :=
  (graph.edges.filter (·.source == id)).map Edge.link

/-- The ids of the children of a node, one for each edge. -/
def childIds (graph : Graph) (id : NodeId) : List NodeId :=
  (graph.children id).map (·.child)

/-- The ids of the parents of a node, one for each edge. -/
def parents (graph : Graph) (id : NodeId) : List NodeId :=
  (graph.edges.filter (·.target == id)).map (·.source)

/-- Do several edges lead to the node? -/
def isMergePoint (graph : Graph) (id : NodeId) : Bool :=
  1 < (graph.parents id).length

/-- The nodes without parents. -/
def sources (graph : Graph) : List NodeId :=
  graph.ids.filter fun id => (graph.parents id).isEmpty

/-- The nodes whose declared kind disagrees with their parents. -/
def kindMismatches (graph : Graph) : List NodeId :=
  (graph.nodes.filter fun node => (node.kind == .merge) != graph.isMergePoint node.id).map (·.id)

end Graph

end Storyline
