-- SUMMARY: Endings are met in the order of a recursive depth-first traversal.
import Storyline.Proofs.Graph.Reach

/-!
# Depth-first order

A walk keeps the nodes that it has to go on with on a stack. A node may stand there several times, and it
counts as seen only when its turn comes. A recursive traversal has no stack: it goes through the children of a
node one after the other, and what one of them leads to is seen before the next one is looked at. Both meet the
same nodes in the same order, also where ways meet again or lead back: `walk_append`.

In a valid graph every way can be followed to its end, so from every node an ending can be reached.

Main statement: `reachableEndings_depthFirst`.
-/

namespace Storyline.Graph

variable {graph : Graph} {arrows : List (NodeId × NodeId)} {pending seen seen' ids : List NodeId}
  {start id child : NodeId}

/-! ## Recursive traversal -/

theorem length_fresh_le (h : seen ⊆ seen') : (fresh arrows seen').length ≤ (fresh arrows seen).length := by
  apply List.Sublist.length_le
  apply List.monotone_filter_right
  intro arrow hfresh
  simp only [Bool.not_eq_true', List.contains_eq_mem, decide_eq_false_iff_not] at hfresh ⊢
  exact fun hseen => hfresh (h hseen)

/-- The ends of the arrows down are the children. -/
theorem ends_downward (graph : Graph) (id : NodeId) : ends graph.downward id = graph.childIds id := by
  simp only [ends, downward, childIds, children, List.filter_map, List.map_map]
  rfl

/-- The nodes that a recursive traversal meets, in order. It takes the given nodes one after the other. One that
was seen is skipped. From another one it goes through the children, and what it has met there is seen when it
goes on with the next. -/
def depthFirst (graph : Graph) (ids seen : List NodeId) : List NodeId :=
  match ids with
  | [] => []
  | id :: rest =>
    if seen.contains id then depthFirst graph rest seen
    else
      let below := depthFirst graph (graph.childIds id) (id :: seen)
      id :: below ++ depthFirst graph rest (below ++ id :: seen)
termination_by ids.length + (fresh graph.downward seen).length
decreasing_by
  · simp
  · rename_i hnew
    have hlength := length_fresh_cons graph.downward (by simpa using hnew : seen.contains id = false)
    rw [ends_downward] at hlength
    simp only [List.length_cons]
    omega
  · have hle (below : List NodeId) :
        (fresh graph.downward (below ++ id :: seen)).length ≤ (fresh graph.downward seen).length :=
      length_fresh_le fun other hother => by simp [hother]
    exact Nat.add_lt_add_of_lt_of_le (Nat.lt_succ_self rest.length) (hle _)

/-! ## Walks and traversals -/

/-- Of the seen nodes it only matters which they are. -/
theorem walk_congr (h : ∀ id, id ∈ seen ↔ id ∈ seen') :
    walk arrows pending seen = walk arrows pending seen' := by
  fun_induction walk arrows pending seen generalizing seen' with
  | case1 => rw [walk]
  | case2 seen id pending hseen ih =>
    have hseen' : seen'.contains id = true := by simpa [h] using hseen
    rw [walk, if_pos hseen']
    exact ih h
  | case3 seen id pending hnew ih =>
    have hnew' : ¬seen'.contains id = true := by simpa [h] using hnew
    rw [walk, if_neg hnew']
    congr 1
    apply ih
    intro other
    rw [List.mem_cons, List.mem_cons, h]

/-- A walk meets what lies first on its stack in the order of the traversal, and goes on with the rest. -/
theorem walk_append (graph : Graph) (ids pending seen : List NodeId) :
    walk graph.downward (ids ++ pending) seen =
      graph.depthFirst ids seen ++ walk graph.downward pending (graph.depthFirst ids seen ++ seen) := by
  fun_induction depthFirst graph ids seen generalizing pending with
  | case1 seen => rfl
  | case2 seen id rest hseen ih =>
    rw [List.cons_append, walk, if_pos hseen, ih]
  | case3 seen id rest hnew below ihbelow ihrest =>
    have hseen (other : NodeId) :
        other ∈ graph.depthFirst rest (below ++ id :: seen) ++ (below ++ id :: seen) ↔
          other ∈ (id :: below ++ graph.depthFirst rest (below ++ id :: seen)) ++ seen := by
      simp only [List.mem_append, List.mem_cons, List.cons_append]
      tauto
    rw [List.cons_append, walk, if_neg hnew, ends_downward, ihbelow, ihrest, walk_congr hseen]
    simp only [List.cons_append, List.append_assoc, below]

/-- A walk from the beginning is a recursive traversal. -/
theorem walk_eq_depthFirst (graph : Graph) (ids : List NodeId) :
    walk graph.downward ids [] = graph.depthFirst ids [] := by
  have hwalk := walk_append graph ids [] []
  rwa [List.append_nil, walk, List.append_nil] at hwalk

/-- No node is met twice, and none that was seen before. -/
theorem nodup_walk (arrows : List (NodeId × NodeId)) (pending seen : List NodeId) :
    (walk arrows pending seen).Nodup ∧ ∀ id ∈ walk arrows pending seen, id ∉ seen := by
  fun_induction walk arrows pending seen with
  | case1 => exact ⟨.nil, List.forall_mem_nil _⟩
  | case2 seen id pending hseen ih => exact ih
  | case3 seen id pending hnew ih =>
    obtain ⟨hnodup, hmet⟩ := ih
    refine ⟨List.nodup_cons.2 ⟨fun hid => hmet id hid List.mem_cons_self, hnodup⟩, ?_⟩
    refine List.forall_mem_cons.2 ⟨by simpa using hnew, ?_⟩
    intro other hother hseen
    exact hmet other hother (List.mem_cons_of_mem id hseen)

/-! ## Endings -/

theorem nodup_reachableEndings (graph : Graph) (start : NodeId) : (graph.reachableEndings start).Nodup := by
  unfold reachableEndings
  split
  · exact (nodup_walk _ _ _).1.filter _
  · exact .nil

theorem children_eq_nil_iff : graph.children id = [] ↔ ∀ child, ¬graph.Leads id child := by
  rw [← List.map_eq_nil_iff (f := Link.child), ← childIds, List.eq_nil_iff_forall_not_mem]
  simp only [mem_childIds]

namespace Valid

/-- What follows for a node from its children holds for all nodes: children are later in the order. -/
theorem induction_on_children {Holds : NodeId → Prop} (h : graph.Valid)
    (hstep : ∀ id, graph.contains id = true → (∀ child, graph.Leads id child → Holds child) → Holds id)
    (hid : graph.contains id = true) : Holds id := by
  obtain ⟨order, horder⟩ := h.ordered
  induction hleft : order.length - order.idxOf id using Nat.strong_induction_on generalizing id with
  | h left ih =>
    apply hstep id hid
    intro child hleads
    have hchild := h.target_known hleads
    have hlater := idxOf_lt_of_leads horder hid hchild hleads
    have hmem := (perm_of_topologicalOrder horder).mem_iff.2 (mem_ids.2 hchild)
    have hlt := List.idxOf_lt_length_of_mem hmem
    exact ih _ (by omega) hchild rfl

/-- From every node of a valid graph a path leads to a node without children. -/
theorem exists_path_to_ending (h : graph.Valid) (hid : graph.contains id = true) :
    ∃ ending, graph.children ending = [] ∧ ∃ path, graph.Path id ending path := by
  apply h.induction_on_children _ hid
  intro id hid ih
  by_cases hchildren : graph.children id = []
  · exact ⟨id, hchildren, [id], .single graph id⟩
  · rw [children_eq_nil_iff, not_forall_not] at hchildren
    obtain ⟨child, hleads⟩ := hchildren
    obtain ⟨ending, hending, path, hpath⟩ := ih child hleads
    obtain ⟨rest, rfl⟩ := List.head?_eq_some_iff.1 hpath.first
    have hfirst : graph.Path id child [id, child] := (Path.single graph id).concat hleads
    exact ⟨ending, hending, _, hfirst.append hpath⟩

end Valid

/-- From a known node the endings are met in the order of the recursive traversal, each of them once, and they
are just the ids without children that paths lead to. In a valid graph there is an ending for every node, and the
endings are the childless nodes that are not unreachable. -/
theorem reachableEndings_depthFirst (h : graph.contains start = true) :
    graph.reachableEndings start =
        (graph.depthFirst [start] []).filter (fun id => (graph.children id).isEmpty) ∧
      (graph.reachableEndings start).Nodup ∧
      (∀ id, id ∈ graph.reachableEndings start ↔
        (∃ path, graph.Path start id path) ∧ graph.children id = []) ∧
      (graph.validate = .ok () →
        graph.reachableEndings start ≠ [] ∧
          ∀ id, id ∈ graph.reachableEndings start ↔
            graph.contains id = true ∧ graph.children id = [] ∧ id ∉ graph.unreachableFrom start) := by
  have hmem (id : NodeId) : id ∈ graph.reachableEndings start ↔
      (∃ path, graph.Path start id path) ∧ graph.children id = [] := mem_reachableEndings h
  refine ⟨?_, nodup_reachableEndings graph start, hmem, ?_⟩
  · rw [reachableEndings, if_pos h, walk_eq_depthFirst]
  · intro hvalid
    have hgraph := valid_of_validate hvalid
    constructor
    · obtain ⟨ending, hchildren, hpath⟩ := hgraph.exists_path_to_ending h
      exact List.ne_nil_of_mem ((hmem ending).2 ⟨hpath, hchildren⟩)
    · intro id
      rw [hmem, mem_unreachableFrom]
      constructor
      · rintro ⟨⟨path, hpath⟩, hchildren⟩
        exact ⟨hpath.known hgraph h id hpath.target_mem, hchildren, fun hnot => hnot.2 ⟨path, hpath⟩⟩
      · rintro ⟨hid, hchildren, hreached⟩
        exact ⟨not_not.1 fun hpath => hreached ⟨hid, hpath⟩, hchildren⟩

/-- Two edges lead from the inn to the road, and the road and the ferry both lead to the town. The endings behind
the town are met on the way over the road, so the sea comes last. -/
theorem reachableEndings_depthFirst_of_shared_town :
    let edge (source target : NodeId) : Edge := ⟨source, target, none⟩
    let nodes := ["sea", "camp", "hall", "town", "ferry", "road", "inn"].map
      fun id => (⟨id, "", .normal⟩ : Node)
    let edges := [edge "inn" "road", edge "inn" "road", edge "inn" "ferry", edge "road" "town",
      edge "ferry" "sea", edge "ferry" "town", edge "town" "hall", edge "town" "camp"]
    let graph := edges.foldl Graph.addEdge (nodes.foldl Graph.addNode { root := "inn" })
    graph.contains "inn" = true ∧ graph.validate = .ok () ∧
      (graph.depthFirst ["inn"] []).filter (fun id => (graph.children id).isEmpty) = ["hall", "camp", "sea"] ∧
      graph.reachableEndings "inn" = ["hall", "camp", "sea"] ∧
      (graph.reachableEndings "inn").Nodup ∧
      (∀ id, id ∈ graph.reachableEndings "inn" ↔
        (∃ path, graph.Path "inn" id path) ∧ graph.children id = []) ∧
      graph.reachableEndings "inn" ≠ [] ∧
      ∀ id, id ∈ graph.reachableEndings "inn" ↔
        graph.contains id = true ∧ graph.children id = [] ∧ id ∉ graph.unreachableFrom "inn" := by
  intro edge nodes edges graph
  have hknown : graph.contains "inn" = true := by decide +kernel
  have hvalid : graph.validate = .ok () := by decide +kernel
  obtain ⟨horder, hnodup, hmem, hendings⟩ := reachableEndings_depthFirst hknown
  have htraversal : (graph.depthFirst ["inn"] []).filter (fun id => (graph.children id).isEmpty) =
      ["hall", "camp", "sea"] := by decide +kernel
  obtain ⟨hne, hchildless⟩ := hendings hvalid
  exact ⟨hknown, hvalid, htraversal, horder.trans htraversal, hnodup, hmem, hne, hchildless⟩

end Storyline.Graph
