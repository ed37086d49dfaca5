-- SUMMARY: Converting between graphs and design documents loses nothing but the order of the nodes.
import Storyline.Design
import Storyline.Proofs.Graph.Rearranged
import Storyline.Proofs.SortedMap

/-!
# Conversion

The nodes of a design stand in the order of their names, those of a graph in the order of their insertion. So a
graph that is converted to a design and back may have its nodes in another order. All that is asked of a graph
does not depend on that order, except for the topological order itself; validation answers the same, also where
it counts the nodes that can be placed.

Main statement: `conversions_keep`.
-/

namespace Storyline

/-- The design with its node ids set to the names under which they stand. -/
def Design.named (design : Design) : Design :=
  { design with nodes := design.nodes.mapEntries fun name spec => { spec with id := name } }

namespace Graph

variable {graph other : Graph}

/-! ## Rearranged graphs -/

namespace Rearranges

theorem nodes_perm (h : graph.Rearranges other) : graph.nodes.Perm other.nodes := by
  rw [List.perm_ext_iff_of_nodup graph.ids_nodup.of_map other.ids_nodup.of_map]
  intro node
  have hnode (graph : Graph) : node ∈ graph.nodes ↔ graph.node? node.id = some node := by
    rw [node?_eq_some_iff, and_iff_left rfl]
  rw [hnode, hnode, h.nodes]

theorem kindMismatches (h : graph.Rearranges other) : graph.kindMismatches.Perm other.kindMismatches := by
  have hmerge (id : NodeId) : graph.isMergePoint id = other.isMergePoint id := by
    rw [isMergePoint, isMergePoint, (h.parents id).length_eq]
  unfold Graph.kindMismatches
  simp only [hmerge]
  exact (h.nodes_perm.filter _).map _

/-- Validation answers the same if the edges are in the same order. -/
theorem validate_eq (h : graph.Rearranges other) (hroot : graph.root = other.root)
    (hedges : graph.edges = other.edges) : graph.validate = other.validate := by
  have hends : graph.missingEndpoint? = other.missingEndpoint? := by
    funext edge
    simp only [missingEndpoint?, h.contains_eq]
  have horder : (graph.topologicalOrder.map fun _ => ()) = other.topologicalOrder.map fun _ => () := by
    rcases h.topologicalOrder_cases with ⟨order, order', hleft, hright⟩ | ⟨error, hleft, hright⟩
    · rw [hleft, hright]
      rfl
    · rw [hleft, hright]
  simp only [validate, hends, hedges, horder, h.contains_eq, hroot]

end Rearranges

/-! ## The graph of a design -/

/-- The node of an entry of a design. -/
def nodeOf (entry : String × NodeSpec) : Node :=
  { id := entry.1, summary := entry.2.summary, kind := entry.2.kind }

/-- The entry of a node in a design. -/
def entryOf (node : Node) : String × NodeSpec :=
  (node.id, { id := node.id, summary := node.summary, kind := node.kind })

theorem nodeOf_entryOf (node : Node) : nodeOf (entryOf node) = node := rfl

theorem putNode_of_new {node : Node} {nodes : List Node} (h : node.id ∉ nodes.map (·.id)) :
    putNode node nodes = nodes ++ [node] := by
  induction nodes with
  | nil => rfl
  | cons old rest ih =>
    rw [List.map_cons, List.mem_cons, not_or] at h
    rw [putNode, if_neg (Ne.symm h.1), ih h.2, List.cons_append]

/-- The graph with the nodes of all entries added. -/
def addEntries (graph : Graph) (entries : List (String × NodeSpec)) : Graph :=
  entries.foldl (fun graph entry => graph.addNode (nodeOf entry)) graph

/-- Nodes with new names are added behind the others. -/
theorem nodes_addEntries {graph : Graph} {entries : List (String × NodeSpec)}
    (h : (graph.ids ++ entries.map (·.1)).Nodup) :
    (graph.addEntries entries).nodes = graph.nodes ++ entries.map nodeOf := by
  induction entries generalizing graph with
  | nil => exact (List.append_nil _).symm
  | cons entry rest ih =>
    rw [List.map_cons, List.append_cons] at h
    have hnew : entry.1 ∉ graph.nodes.map (·.id) := fun hmem =>
      (List.nodup_append.1 (List.nodup_append.1 h).1).2.2 _ hmem _ List.mem_cons_self rfl
    have hnodes : (graph.addNode (nodeOf entry)).nodes = graph.nodes ++ [nodeOf entry] := putNode_of_new hnew
    have hids : (graph.addNode (nodeOf entry)).ids = graph.ids ++ [entry.1] := by
      rw [ids, hnodes, List.map_append]
      rfl
    have hrest := ih (by rwa [hids])
    rw [hnodes, List.append_assoc] at hrest
    exact hrest

theorem addEntries_frame (graph : Graph) (entries : List (String × NodeSpec)) :
    (graph.addEntries entries).edges = graph.edges ∧ (graph.addEntries entries).root = graph.root := by
  induction entries generalizing graph with
  | nil => exact ⟨rfl, rfl⟩
  | cons entry rest ih => exact ih (graph.addNode (nodeOf entry))

theorem foldl_addEdge (graph : Graph) (edges : List Edge) :
    edges.foldl addEdge graph = { graph with edges := graph.edges ++ edges } := by
  induction edges generalizing graph with
  | nil => rw [List.append_nil]; rfl
  | cons edge rest ih => rw [List.foldl_cons, ih, addEdge, List.append_assoc]; rfl

theorem ofDesign_eq (design : Design) (root : NodeId) :
    ofDesign design root =
      { addEntries { root } design.nodes.entries with
        edges := (addEntries { root } design.nodes.entries).edges ++ design.edges } :=
  foldl_addEdge (addEntries { root } design.nodes.entries) design.edges

theorem nodes_ofDesign (design : Design) (root : NodeId) :
    (ofDesign design root).nodes = design.nodes.entries.map nodeOf := by
  have hbare : (({ root } : Graph).ids ++ design.nodes.entries.map (·.1)).Nodup :=
    SortedMap.nodup_keys_of_sorted design.nodes.sorted
  rw [ofDesign_eq]
  exact nodes_addEntries hbare

theorem edges_ofDesign (design : Design) (root : NodeId) : (ofDesign design root).edges = design.edges := by
  rw [ofDesign_eq, (addEntries_frame { root } design.nodes.entries).1]
  exact List.nil_append _

theorem root_ofDesign (design : Design) (root : NodeId) : (ofDesign design root).root = root := by
  rw [ofDesign_eq]
  exact (addEntries_frame { root } design.nodes.entries).2

/-! ## There and back -/

theorem toDesign_ofDesign (design : Design) (root : NodeId) :
    (ofDesign design root).toDesign = design.named := by
  have hnodes : (design.nodes.entries.map nodeOf).map entryOf = design.named.nodes.entries := by
    rw [List.map_map]
    rfl
  have hedges := edges_ofDesign design root
  have hentries : (ofDesign design root).nodes.map entryOf = design.named.nodes.entries := by
    rw [nodes_ofDesign, hnodes]
  calc (ofDesign design root).toDesign
      = ⟨.ofList ((ofDesign design root).nodes.map entryOf), (ofDesign design root).edges⟩ := rfl
    _ = ⟨design.named.nodes, design.edges⟩ := by rw [hentries, hedges, SortedMap.ofList_entries]

/-- A graph is the graph of its design, but for the order of its nodes. -/
theorem rearranges_ofDesign_toDesign (graph : Graph) (root : NodeId) :
    graph.Rearranges (ofDesign graph.toDesign root) := by
  have hentries : graph.toDesign.nodes.entries.Perm (graph.nodes.map entryOf) := by
    apply SortedMap.perm_ofList
    rw [List.map_map]
    exact graph.ids_nodup
  have hnodes : (ofDesign graph.toDesign root).nodes.Perm graph.nodes := by
    have hperm := hentries.map nodeOf
    rwa [List.map_map, Function.comp_def, List.map_congr_left fun node _ => nodeOf_entryOf node, List.map_id',
      ← nodes_ofDesign] at hperm
  apply Rearranges.of_perm hnodes.symm
  rw [edges_ofDesign]
  exact .refl _

example :
    (ofDesign ((({} : Graph).addNode ⟨"b", "", .normal⟩).addNode ⟨"a", "", .merge⟩).toDesign "b").ids =
      ["a", "b"] := by
  decide +kernel

/-- What conversion keeps of a graph. -/
structure Keeps (graph other : Graph) : Prop where
  root : other.root = graph.root
  nodes (id : NodeId) : other.node? id = graph.node? id
  edges : other.edges = graph.edges
  children (id : NodeId) : other.children id = graph.children id
  parents (id : NodeId) : other.parents id = graph.parents id
  kindMismatches : other.kindMismatches.Perm graph.kindMismatches
  validate : other.validate = graph.validate

theorem keeps_ofDesign_toDesign (graph : Graph) : graph.Keeps (ofDesign graph.toDesign graph.root) := by
  have hrearranges := (graph.rearranges_ofDesign_toDesign graph.root).symm
  have hroot := root_ofDesign graph.toDesign graph.root
  have hedges : (ofDesign graph.toDesign graph.root).edges = graph.edges := edges_ofDesign graph.toDesign graph.root
  exact
    { root := hroot
      nodes := hrearranges.nodes
      edges := hedges
      children := fun id => by rw [children, hedges, children]
      parents := fun id => by rw [parents, hedges, parents]
      kindMismatches := hrearranges.kindMismatches
      validate := hrearranges.validate_eq hroot hedges }

/-- A design becomes itself again, with its ids mended, and a graph becomes itself again, with its nodes in
another order. -/
theorem conversions_keep (design : Design) (root : NodeId) (graph : Graph) :
    (ofDesign design root).toDesign = design.named ∧
      graph.Keeps (ofDesign graph.toDesign graph.root) :=
  ⟨toDesign_ofDesign design root, keeps_ofDesign_toDesign graph⟩

end Graph

end Storyline
