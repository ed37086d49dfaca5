-- SUMMARY: Whatever is added to a graph, its nodes, children and parents are those of the changes that were made.
import Mathlib.Data.List.Dedup
import Storyline.Proofs.Graph.Rearranged
import Storyline.Proofs.SortedMap

/-!
# Adjacency

A graph is built by adding nodes and edges in any order: nodes may be added again, and edges may come before their
nodes. What is asked of the graph in the end is said here in terms of the changes that were made. To be fast, nodes,
children and parents can be kept in tables of their own, which every change updates one by one; an `Index` does so,
and it never gets out of step with the graph.

Main statement: `adjacency_in_step`.
-/

namespace Storyline

/-! ## Changes -/

/-- A change that is made to a graph. -/
inductive Change where
  | addNode (node : Node)
  | addEdge (edge : Edge)

namespace Change

/-- The node that is added. -/
def node? : Change → Option Node
  | addNode node => some node
  | addEdge _ => none

/-- The edge that is added. -/
def edge? : Change → Option Edge
  | addNode _ => none
  | addEdge edge => some edge

end Change

namespace Graph

variable {graph : Graph} {root id : NodeId} {node : Node} {nodes : List Node}

/-- The graph after a change. -/
def change (graph : Graph) : Change → Graph
  | .addNode node => graph.addNode node
  | .addEdge edge => graph.addEdge edge

/-- The graph that changes make of an empty one. -/
def ofChanges (root : NodeId) (changes : List Change) : Graph :=
  changes.foldl change { root }

theorem ofChanges_concat (root : NodeId) (changes : List Change) (last : Change) :
    ofChanges root (changes ++ [last]) = (ofChanges root changes).change last :=
  List.foldl_concat ..

/-- The nodes that changes add, in order. -/
def addedNodes (changes : List Change) : List Node :=
  changes.filterMap Change.node?

/-- The edges that changes add, in order. -/
def addedEdges (changes : List Change) : List Edge :=
  changes.filterMap Change.edge?

theorem addedNodes_concat (changes : List Change) (last : Change) :
    addedNodes (changes ++ [last]) = addedNodes changes ++ last.node?.toList := by
  rw [addedNodes, List.filterMap_append]
  cases last <;> rfl

theorem addedEdges_concat (changes : List Change) (last : Change) :
    addedEdges (changes ++ [last]) = addedEdges changes ++ last.edge?.toList := by
  rw [addedEdges, List.filterMap_append]
  cases last <;> rfl

theorem edges_ofChanges (root : NodeId) (changes : List Change) :
    (ofChanges root changes).edges = addedEdges changes := by
  induction changes using List.reverseRecOn with
  | nil => rfl
  | append_singleton changes last ih =>
    rw [ofChanges_concat, addedEdges_concat, ← ih]
    cases last with
    | addNode node => exact (List.append_nil _).symm
    | addEdge edge => rfl

/-! ## Nodes -/

theorem find?_cons (first : Node) (rest : List Node) (id : NodeId) :
    (first :: rest).find? (·.id == id) = if id = first.id then some first else rest.find? (·.id == id) := by
  split
  · rename_i h
    exact List.find?_cons_of_pos (beq_iff_eq.2 h.symm)
  · rename_i h
    exact List.find?_cons_of_neg (beq_iff_eq.not.2 (Ne.symm h))

theorem find?_putNode (node : Node) (nodes : List Node) (id : NodeId) :
    (putNode node nodes).find? (·.id == id) =
      if id = node.id then some node else nodes.find? (·.id == id) := by
  induction nodes with
  | nil => exact find?_cons node [] id
  | cons old rest ih =>
    rw [putNode]
    by_cases hold : old.id = node.id
    · rw [if_pos hold, find?_cons, find?_cons, hold]
      split <;> rfl
    · rw [if_neg hold, find?_cons, find?_cons, ih]
      by_cases h : id = old.id
      · rw [if_pos h, if_pos h, if_neg (h ▸ hold)]
      · rw [if_neg h, if_neg h]

theorem node?_addNode (graph : Graph) (node : Node) (id : NodeId) :
    (graph.addNode node).node? id = if id = node.id then some node else graph.node? id :=
  find?_putNode node graph.nodes id

/-- The node of an id is the one that was added last. -/
theorem node?_ofChanges (root : NodeId) (changes : List Change) (id : NodeId) :
    (ofChanges root changes).node? id = ((addedNodes changes).filter (·.id == id)).getLast? := by
  induction changes using List.reverseRecOn with
  | nil => rfl
  | append_singleton changes last ih =>
    rw [ofChanges_concat, addedNodes_concat]
    cases last with
    | addEdge edge => rw [← List.append_nil (addedNodes changes)] at ih; exact ih
    | addNode node =>
      rw [change, node?_addNode, ih, List.filter_append]
      by_cases h : id = node.id
      · simp [h, Change.node?]
      · simp [h, Ne.symm h, Change.node?]

/-- The ids of a graph are those that were added, in the order in which they were first added. -/
structure FirstOf (added ids : List NodeId) : Prop where
  nodup : ids.Nodup
  mem_iff (id : NodeId) : id ∈ ids ↔ id ∈ added
  order : ids.Pairwise fun first second => added.idxOf first < added.idxOf second

namespace FirstOf

variable {added ids : List NodeId}

theorem nil : FirstOf [] [] :=
  ⟨.nil, fun _ => Iff.rfl, .nil⟩

/-- What is added later does not move the first places. -/
theorem order_append (h : FirstOf added ids) (later : List NodeId) :
    ids.Pairwise fun first second => (added ++ later).idxOf first < (added ++ later).idxOf second := by
  refine h.order.imp_of_mem ?_
  intro first second hfirst hsecond hlt
  rwa [List.idxOf_append_of_mem ((h.mem_iff first).1 hfirst),
    List.idxOf_append_of_mem ((h.mem_iff second).1 hsecond)]

/-- An id that is known keeps its place. -/
theorem again (h : FirstOf added ids) (hid : id ∈ ids) : FirstOf (added ++ [id]) ids where
  nodup := h.nodup
  mem_iff other := by
    rw [List.mem_append, List.mem_singleton, ← h.mem_iff]
    exact (or_iff_left_of_imp fun heq => heq ▸ hid).symm
  order := h.order_append [id]

/-- A new id comes last. -/
theorem new (h : FirstOf added ids) (hid : id ∉ ids) : FirstOf (added ++ [id]) (ids ++ [id]) where
  nodup := List.nodup_append.2 ⟨h.nodup, List.nodup_singleton id, fun first hfirst second hsecond => by
    rintro rfl
    exact hid (List.mem_singleton.1 hsecond ▸ hfirst)⟩
  mem_iff other := by rw [List.mem_append, List.mem_append, h.mem_iff]
  order := by
    refine List.pairwise_append.2 ⟨h.order_append [id], List.pairwise_singleton _ _, ?_⟩
    intro first hfirst second hsecond
    obtain rfl := List.mem_singleton.1 hsecond
    have hfirst' := (h.mem_iff first).1 hfirst
    have hnew : second ∉ added := fun hmem => hid ((h.mem_iff second).2 hmem)
    rw [List.idxOf_append_of_mem hfirst', List.idxOf_append_of_notMem hnew]
    exact Nat.lt_add_right _ (List.idxOf_lt_length_of_mem hfirst')

theorem length_eq (h : FirstOf added ids) : ids.length = added.dedup.length := by
  refine List.Perm.length_eq ((List.perm_ext_iff_of_nodup h.nodup (List.nodup_dedup added)).2 ?_)
  intro id
  rw [h.mem_iff, List.mem_dedup]

end FirstOf

theorem firstOf_ofChanges (root : NodeId) (changes : List Change) :
    FirstOf ((addedNodes changes).map (·.id)) (ofChanges root changes).ids := by
  induction changes using List.reverseRecOn with
  | nil => exact .nil
  | append_singleton changes last ih =>
    rw [ofChanges_concat, addedNodes_concat, List.map_append]
    cases last with
    | addEdge edge => exact (List.append_nil _).symm ▸ ih
    | addNode node =>
      rw [change, ids_addNode]
      split
      · exact ih.again ‹_›
      · exact ih.new ‹_›

theorem latest_ofChanges (root : NodeId) (changes : List Change) :
    ∀ node ∈ (ofChanges root changes).nodes,
      ((addedNodes changes).filter (·.id == node.id)).getLast? = some node := by
  intro node hnode
  rw [← node?_ofChanges root]
  exact node?_of_mem hnode

/-! ## Children and parents -/

/-- What is added last comes last among what has its key. -/
theorem map_filter_concat {α β : Type} (f : α → β) (key : α → NodeId) (list : List α) (last : α)
    (id : NodeId) :
    ((list ++ [last]).filter (key · == id)).map f =
      if id = key last then (list.filter (key · == id)).map f ++ [f last]
      else (list.filter (key · == id)).map f := by
  rw [List.filter_append, List.map_append]
  split
  · rename_i h
    have hlast : [last].filter (key · == id) = [last] :=
      List.filter_eq_self.2 (List.forall_mem_singleton.2 (beq_iff_eq.2 h.symm))
    rw [hlast, List.map_singleton]
  · rename_i h
    have hlast : [last].filter (key · == id) = [] :=
      List.filter_eq_nil_iff.2 (List.forall_mem_singleton.2 (beq_iff_eq.not.2 (Ne.symm h)))
    rw [hlast, List.map_nil, List.append_nil]

theorem children_addEdge (graph : Graph) (edge : Edge) (id : NodeId) :
    (graph.addEdge edge).children id =
      if id = edge.source then graph.children id ++ [edge.link] else graph.children id :=
  map_filter_concat Edge.link Edge.source graph.edges edge id

theorem parents_addEdge (graph : Graph) (edge : Edge) (id : NodeId) :
    (graph.addEdge edge).parents id =
      if id = edge.target then graph.parents id ++ [edge.source] else graph.parents id :=
  map_filter_concat Edge.source Edge.target graph.edges edge id

theorem isMergePoint_iff (graph : Graph) (id : NodeId) :
    graph.isMergePoint id = true ↔ 2 ≤ graph.edges.countP (·.target == id) := by
  rw [isMergePoint, decide_eq_true_eq, parents, List.length_map, List.countP_eq_length_filter]
  rfl

end Graph

/-! ## Tables -/

/-- A table with a row for every name; a name without an entry has an empty row. -/
abbrev Table (α : Type) := SortedMap (List α)

namespace Table

variable {α : Type}

/-- The row of a name. -/
def row (table : Table α) (name : String) : List α :=
  (table.get? name).getD []

/-- The table with an item added to the row of a name. -/
def push (table : Table α) (name : String) (item : α) : Table α :=
  table.insert name (table.row name ++ [item])

theorem row_push (table : Table α) (name : String) (item : α) (key : String) :
    (table.push name item).row key = if key = name then table.row key ++ [item] else table.row key := by
  rw [row, push, SortedMap.get?_insert]
  split
  · rename_i h
    rw [h]
    rfl
  · rfl

end Table

/-- What is kept of a graph to be looked up: the nodes by their ids, the ids in the order of their first insertion,
the edges, and for every id the ways out of it and its parents. -/
structure Index where
  nodesById : SortedMap Node := .empty
  order : List NodeId := []
  edges : List Edge := []
  forward : Table Link := .empty
  reverse : Table NodeId := .empty

namespace Index

variable {index : Index} {graph : Graph}

/-- Adds a node. Its id comes last if it is new. -/
def addNode (index : Index) (node : Node) : Index :=
  { index with
    order := if index.nodesById.contains node.id then index.order else index.order ++ [node.id]
    nodesById := index.nodesById.insert node.id node }

/-- Adds an edge, as a way out of its source and as a parent of its target. -/
def addEdge (index : Index) (edge : Edge) : Index :=
  { index with
    forward := index.forward.push edge.source edge.link
    reverse := index.reverse.push edge.target edge.source
    edges := index.edges ++ [edge] }

/-- The index after a change. -/
def change (index : Index) : Change → Index
  | .addNode node => index.addNode node
  | .addEdge edge => index.addEdge edge

/-- The index that changes make of an empty one. -/
def ofChanges (changes : List Change) : Index :=
  changes.foldl change {}

/-- The nodes, in the order of their ids. -/
def nodes (index : Index) : List Node :=
  index.order.filterMap index.nodesById.get?

/-- The number of nodes. -/
def size (index : Index) : Nat :=
  index.nodesById.size

/-- The ways out of a node. -/
def children (index : Index) (id : NodeId) : List Link :=
  index.forward.row id

/-- The ids of the parents of a node. -/
def parents (index : Index) (id : NodeId) : List NodeId :=
  index.reverse.row id

/-- Do several edges lead to the node? -/
def isMergePoint (index : Index) (id : NodeId) : Bool :=
  1 < (index.parents id).length

/-- The index holds what the graph holds. -/
structure Mirrors (index : Index) (graph : Graph) : Prop where
  nodesById (id : NodeId) : index.nodesById.get? id = graph.node? id
  order : index.order = graph.ids
  edges : index.edges = graph.edges
  forward (id : NodeId) : index.forward.row id = graph.children id
  reverse (id : NodeId) : index.reverse.row id = graph.parents id

theorem mirrors_empty (root : NodeId) : Mirrors {} { root } :=
  ⟨fun _ => rfl, rfl, rfl, fun _ => rfl, fun _ => rfl⟩

namespace Mirrors

theorem addNode (h : index.Mirrors graph) (node : Node) :
    (index.addNode node).Mirrors (graph.addNode node) where
  nodesById id := by
    rw [Index.addNode, SortedMap.get?_insert, Graph.node?_addNode, h.nodesById]
  order := by
    have hcontains : index.nodesById.contains node.id = graph.contains node.id := by
      rw [SortedMap.contains, h.nodesById, Graph.isSome_node?]
    simp only [Index.addNode, Graph.ids_addNode, Graph.mem_ids, hcontains, h.order]
  edges := h.edges
  forward := h.forward
  reverse := h.reverse

theorem addEdge (h : index.Mirrors graph) (edge : Edge) :
    (index.addEdge edge).Mirrors (graph.addEdge edge) where
  nodesById := h.nodesById
  order := h.order
  edges := congrArg (· ++ [edge]) h.edges
  forward id := by rw [Index.addEdge, Table.row_push, h.forward, Graph.children_addEdge]
  reverse id := by rw [Index.addEdge, Table.row_push, h.reverse, Graph.parents_addEdge]

theorem change (h : index.Mirrors graph) (change : Change) :
    (index.change change).Mirrors (graph.change change) := by
  cases change with
  | addNode node => exact h.addNode node
  | addEdge edge => exact h.addEdge edge

/-- Every id of the order has a node. -/
theorem nodes_eq (h : index.Mirrors graph) : index.nodes = graph.nodes := by
  have hfound : ∀ node ∈ graph.nodes, (index.nodesById.get? ∘ (·.id)) node = some node := by
    intro node hnode
    rw [Function.comp_apply, h.nodesById, Graph.node?_of_mem hnode]
  rw [nodes, h.order, Graph.ids, List.filterMap_map, List.filterMap_congr hfound, List.filterMap_some]

theorem size_eq (h : index.Mirrors graph) : index.size = graph.size := by
  have hperm : index.nodesById.keys.Perm graph.ids := by
    refine (List.perm_ext_iff_of_nodup (SortedMap.nodup_keys_of_sorted index.nodesById.sorted)
      graph.ids_nodup).2 fun id => ?_
    have hkey : id ∈ index.nodesById.keys ↔ id ∈ graph.ids := by
      rw [SortedMap.mem_keys, SortedMap.contains, h.nodesById, Graph.isSome_node?, Graph.mem_ids]
    exact hkey
  have hlength := hperm.length_eq
  rwa [SortedMap.keys, Graph.ids, List.length_map, List.length_map] at hlength

end Mirrors

theorem mirrors_ofChanges (root : NodeId) (changes : List Change) :
    (ofChanges changes).Mirrors (Graph.ofChanges root changes) := by
  induction changes using List.reverseRecOn with
  | nil => exact mirrors_empty root
  | append_singleton changes last ih =>
    rw [ofChanges, List.foldl_concat, Graph.ofChanges_concat]
    exact ih.change last

/-- An index answers as a graph does. -/
structure Answers (index : Index) (graph : Graph) : Prop where
  nodes : index.nodes = graph.nodes
  size : index.size = graph.size
  edges : index.edges = graph.edges
  children (id : NodeId) : index.children id = graph.children id
  parents (id : NodeId) : index.parents id = graph.parents id
  isMergePoint (id : NodeId) : index.isMergePoint id = graph.isMergePoint id

theorem Mirrors.answers (h : index.Mirrors graph) : index.Answers graph where
  nodes := h.nodes_eq
  size := h.size_eq
  edges := h.edges
  children := h.forward
  parents := h.reverse
  isMergePoint id := by rw [Index.isMergePoint, Index.parents, h.reverse, Graph.isMergePoint]

end Index

/-- Adjacency stays in step with the edges. After any changes of an empty graph, the children and the parents of an
id, known or not, are those of the edges that were added, in their order; the nodes are those that were added, each
id once, in the order of the first insertions and with the node that was inserted last; and an id is a merge point
if at least two of the edges lead to it. The tables of an index, updated change by change, give the same answers. -/
theorem adjacency_in_step (root : NodeId) (changes : List Change) :
    let graph := Graph.ofChanges root changes
    let nodes := Graph.addedNodes changes
    let edges := Graph.addedEdges changes
    (Index.ofChanges changes).Answers graph ∧
    graph.edges = edges ∧
    (∀ id, graph.children id = (edges.filter (·.source == id)).map Edge.link ∧
      graph.parents id = (edges.filter (·.target == id)).map (·.source) ∧
      (graph.isMergePoint id = true ↔ 2 ≤ edges.countP (·.target == id))) ∧
    Graph.FirstOf (nodes.map (·.id)) graph.ids ∧
    (∀ node ∈ graph.nodes, (nodes.filter (·.id == node.id)).getLast? = some node) ∧
    graph.size = (nodes.map (·.id)).dedup.length := by
  intro graph nodes edges
  have hedges : graph.edges = edges := Graph.edges_ofChanges root changes
  have hfirst := Graph.firstOf_ofChanges root changes
  refine ⟨(Index.mirrors_ofChanges root changes).answers, hedges, ?_, hfirst,
    Graph.latest_ofChanges root changes, ?_⟩
  · intro id
    exact ⟨hedges ▸ rfl, hedges ▸ rfl, hedges ▸ graph.isMergePoint_iff id⟩
  · rw [← hfirst.length_eq, Graph.ids, List.length_map]
    rfl

example :
    let graph := Graph.ofChanges "inn" [.addEdge ⟨"inn", "road", none⟩, .addNode ⟨"inn", "Dusk", .normal⟩,
      .addNode ⟨"road", "", .normal⟩, .addNode ⟨"inn", "Night", .normal⟩]
    graph.nodes = [⟨"inn", "Night", .normal⟩, ⟨"road", "", .normal⟩] ∧ graph.parents "road" = ["inn"] := by
  decide

end Storyline
