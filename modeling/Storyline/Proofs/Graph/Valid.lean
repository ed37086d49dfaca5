-- SUMMARY: What is known of a graph that passes validation.
import Storyline.Proofs.Graph.Order

/-!
# Valid graphs

Validation looks at one edge after the other, then at the root, then for an order. `Graph.Valid` says what it
has found when it finds no fault. In a valid graph a statement about all nodes can be proved by going from the
parents to their children: `Valid.induction_on_parents`.
-/

namespace Storyline.Graph

variable {graph : Graph}

/-- Edges join nodes, the root is a node, and the nodes can be put in order. -/
structure Valid (graph : Graph) : Prop where
  source_known {source target : NodeId} :
    graph.Leads source target → graph.contains source = true
  target_known {source target : NodeId} :
    graph.Leads source target → graph.contains target = true
  root_known : graph.contains graph.root = true
  ordered : ∃ order, graph.topologicalOrder = .ok order

theorem contains_of_missingEndpoint?_eq_none {edge : Edge} (h : graph.missingEndpoint? edge = none) :
    graph.contains edge.source = true ∧ graph.contains edge.target = true := by
  simpa [missingEndpoint?] using h

theorem valid_of_validate {checked : Unit} (h : graph.validate = .ok checked) : graph.Valid := by
  unfold validate at h
  split at h
  · cases h
  · rename_i hends
    have hknown : ∀ edge ∈ graph.edges,
        graph.contains edge.source = true ∧ graph.contains edge.target = true := by
      intro edge hedge
      have hend := List.findSome?_eq_none_iff.1 hends edge hedge
      exact contains_of_missingEndpoint?_eq_none (Option.map_eq_none_iff.1 hend)
    split at h
    · rename_i hroot
      refine ⟨?_, ?_, hroot, ?_⟩
      · rintro _ _ ⟨edge, hedge, rfl, rfl⟩
        exact (hknown edge hedge).1
      · rintro _ _ ⟨edge, hedge, rfl, rfl⟩
        exact (hknown edge hedge).2
      · cases horder : graph.topologicalOrder with
        | ok order => exact ⟨order, rfl⟩
        | error error =>
          rw [horder] at h
          cases h
    · cases h

theorem mem_sources {id : NodeId} :
    id ∈ graph.sources ↔ graph.contains id = true ∧ graph.parents id = [] := by
  simp [sources, mem_ids]

namespace Valid

/-- What follows for a node from its parents holds for all nodes: parents are earlier in the order. -/
theorem induction_on_parents {Holds : NodeId → Prop} (h : graph.Valid)
    (hstep : ∀ id, graph.contains id = true →
      (∀ parent ∈ graph.parents id, Holds parent) → Holds id)
    {id : NodeId} (hid : graph.contains id = true) : Holds id := by
  obtain ⟨order, horder⟩ := h.ordered
  apply induction_of_topologicalOrder horder _ hid
  intro id hid hparents
  apply hstep id hid
  intro parent hparent
  have hleads := mem_parents.1 hparent
  exact hparents parent (h.source_known hleads) hleads

end Valid

end Storyline.Graph
