-- SUMMARY: What does not depend on the order in which nodes and edges were added to a graph.
import Storyline.Proofs.Graph.Order

/-!
# Rearranged graphs

The order in which nodes and edges are added decides in which of its topological orders a graph is put, but
not whether it has one: the nodes that can be placed are the same, and so is the error if some cannot.
-/

namespace Storyline.Graph

variable {graph other : Graph} {id source target : NodeId}

/-- Do two graphs have the same nodes and the same edges, whatever the order in which they were added? -/
structure Rearranges (graph other : Graph) : Prop where
  nodes (id : NodeId) : graph.node? id = other.node? id
  edges : graph.edges.Perm other.edges

theorem isSome_node? (graph : Graph) (id : NodeId) : (graph.node? id).isSome = graph.contains id := by
  rw [node?, contains, List.isSome_find?]

theorem node?_eq_some_iff {node : Node} : graph.node? id = some node ↔ node ∈ graph.nodes ∧ node.id = id := by
  constructor
  · intro hnode
    exact ⟨List.mem_of_find?_eq_some hnode, by simpa using List.find?_some hnode⟩
  · rintro ⟨hnode, rfl⟩
    exact node?_of_mem hnode

namespace Rearranges

/-- Graphs that hold the same nodes and edges in other orders are rearranged. -/
theorem of_perm (hnodes : graph.nodes.Perm other.nodes) (hedges : graph.edges.Perm other.edges) :
    graph.Rearranges other where
  nodes id := by
    apply Option.ext
    intro node
    rw [node?_eq_some_iff, node?_eq_some_iff, hnodes.mem_iff]
  edges := hedges

theorem symm (h : graph.Rearranges other) : other.Rearranges graph :=
  ⟨fun id => (h.nodes id).symm, h.edges.symm⟩

theorem contains_eq (h : graph.Rearranges other) (id : NodeId) :
    graph.contains id = other.contains id := by
  rw [← isSome_node?, ← isSome_node?, h.nodes]

theorem parents (h : graph.Rearranges other) (id : NodeId) :
    (graph.parents id).Perm (other.parents id) :=
  (h.edges.filter _).map _

theorem leads_iff (h : graph.Rearranges other) : graph.Leads source target ↔ other.Leads source target := by
  rw [← mem_parents, ← mem_parents, (h.parents target).mem_iff]

theorem size_eq (h : graph.Rearranges other) : graph.size = other.size := by
  have hids : graph.ids.Perm other.ids := by
    apply (List.perm_ext_iff_of_nodup graph.ids_nodup other.ids_nodup).2
    intro id
    exact mem_ids.trans (h.contains_eq id ▸ mem_ids.symm)
  have hlength := hids.length_eq
  rwa [ids, ids, List.length_map, List.length_map] at hlength

theorem mem_placed (h : graph.Rearranges other) : ∀ id ∈ graph.placed, id ∈ other.placed := by
  apply placed_induction
  intro id hid hparents
  refine Graph.mem_placed.2 ⟨h.contains_eq id ▸ hid, ?_⟩
  intro parent hknown hleads
  exact hparents parent ((h.contains_eq parent).symm ▸ hknown) (h.leads_iff.2 hleads)

theorem placed (h : graph.Rearranges other) : graph.placed.Perm other.placed := by
  rw [List.perm_ext_iff_of_nodup graph.nodup_placed other.nodup_placed]
  exact fun id => ⟨h.mem_placed id, h.symm.mem_placed id⟩

/-- Both graphs can be put in order or both fail for the same reason. -/
theorem topologicalOrder_cases (h : graph.Rearranges other) :
    (∃ order order', graph.topologicalOrder = .ok order ∧ other.topologicalOrder = .ok order') ∨
      ∃ error, graph.topologicalOrder = .error error ∧ other.topologicalOrder = .error error := by
  simp only [topologicalOrder, ← h.placed.length_eq, ← h.size_eq]
  split
  · exact .inl ⟨_, _, rfl, rfl⟩
  · exact .inr ⟨_, rfl, rfl⟩

end Rearranges

end Storyline.Graph
