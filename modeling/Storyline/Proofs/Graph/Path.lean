-- SUMMARY: Paths along edges, and the nodes that no path to a node can avoid.
import Storyline.Proofs.Graph.Valid

/-!
# Paths

A path is the list of its nodes, each with an edge to the next. In a valid graph every node is at the end of a
path from a source, and no path comes to a node twice. A node is *unavoidable* before another one if all paths
to that from sources lead through it. This can be decided by looking at the parents only, because a path to a
node is a path to one of its parents and one edge more: `unavoidable_iff_parents`.
-/

namespace Storyline.Graph

variable {graph : Graph}

/-- The nodes of a path along edges, in order. -/
structure Path (graph : Graph) (source target : NodeId) (path : List NodeId) : Prop where
  chain : path.IsChain graph.Leads
  first : path.head? = some source
  last : path.getLast? = some target

instance (graph : Graph) (source target : NodeId) : Decidable (graph.Leads source target) :=
  inferInstanceAs (Decidable (∃ edge ∈ graph.edges, edge.source = source ∧ edge.target = target))

instance (graph : Graph) (source target : NodeId) (path : List NodeId) :
    Decidable (graph.Path source target path) :=
  decidable_of_iff
    (path.IsChain graph.Leads ∧ path.head? = some source ∧ path.getLast? = some target)
    ⟨fun h => ⟨h.1, h.2.1, h.2.2⟩, fun h => ⟨h.chain, h.first, h.last⟩⟩

namespace Path

variable {source middle target id : NodeId} {path front : List NodeId}

theorem single (graph : Graph) (id : NodeId) : graph.Path id id [id] :=
  ⟨.singleton id, rfl, rfl⟩

/-- A path goes on along an edge. -/
theorem concat (h : graph.Path source target path) (hleads : graph.Leads target id) :
    graph.Path source id (path ++ [id]) where
  chain := by
    apply h.chain.append (.singleton id)
    intro last hlast next hnext
    cases h.last.symm.trans hlast
    cases hnext
    exact hleads
  first := by
    obtain ⟨later, hpath⟩ := List.head?_eq_some_iff.1 h.first
    rw [hpath]
    rfl
  last := List.getLast?_concat

/-- A path goes on along a path from its end. -/
theorem append (h : graph.Path source middle front) {rest : List NodeId}
    (hrest : graph.Path middle target (middle :: rest)) :
    graph.Path source target (front ++ rest) where
  chain := by
    apply h.chain.append hrest.chain.tail
    intro last hlast next hnext
    cases h.last.symm.trans hlast
    exact hrest.chain.rel_head? hnext
  first := by
    obtain ⟨later, hfront⟩ := List.head?_eq_some_iff.1 h.first
    rw [hfront]
    rfl
  last := by
    rw [List.getLast?_append]
    have hlast := hrest.last
    cases rest with
    | nil =>
      cases hlast
      exact h.last
    | cons next later => simpa using hlast

/-- A path stays at its end or has a last edge. -/
theorem cases_last (h : graph.Path source target path) :
    (path = [target] ∧ source = target) ∨
      ∃ parent front, path = front ++ [target] ∧ graph.Leads parent target ∧
        graph.Path source parent front := by
  obtain ⟨front, rfl⟩ := List.getLast?_eq_some_iff.1 h.last
  rcases front.eq_nil_or_concat' with rfl | ⟨before, parent, rfl⟩
  · left
    cases h.first
    exact ⟨rfl, rfl⟩
  · right
    have hleads := h.chain.rel_getLast_head_of_append (by simp) (by simp)
    refine ⟨parent, before ++ [parent], rfl, by simpa using hleads, ?_⟩
    have hfirst := h.first
    rw [List.head?_append_of_ne_nil _ (by simp)] at hfirst
    exact ⟨h.chain.left_of_append, hfirst, List.getLast?_concat⟩

/-- A path stays at its beginning or has a first edge. -/
theorem cases_first {rest : List NodeId} (h : graph.Path source target (source :: rest)) :
    (rest = [] ∧ source = target) ∨
      ∃ next later, rest = next :: later ∧ graph.Leads source next ∧
        graph.Path next target (next :: later) := by
  cases rest with
  | nil =>
    cases h.last
    exact .inl ⟨rfl, rfl⟩
  | cons next later =>
    obtain ⟨hleads, hchain⟩ := List.isChain_cons_cons.1 h.chain
    have hlast := h.last
    rw [List.getLast?_cons_cons] at hlast
    exact .inr ⟨next, later, rfl, hleads, hchain, rfl, hlast⟩

theorem target_mem (h : graph.Path source target path) : target ∈ path :=
  List.mem_of_getLast? h.last

/-- What lies on a path other than its end lies before its end. -/
theorem mem_dropLast (h : graph.Path source target path) (hmem : id ∈ path) (hne : id ≠ target) :
    id ∈ path.dropLast := by
  apply List.mem_dropLast_of_mem_of_ne_getLast? hmem
  rw [h.last]
  exact fun hlast => hne (Option.some.inj hlast)

theorem known (h : graph.Path source target path) (hvalid : graph.Valid)
    (hsource : graph.contains source = true) : ∀ id ∈ path, graph.contains id = true := by
  apply h.chain.induction (graph.contains · = true) path
  · intro parent child hleads _
    exact hvalid.target_known hleads
  · intro hne
    rwa [(List.head_eq_iff_head?_eq_some hne).2 h.first]

/-- No path comes to a node twice. -/
theorem nodup (h : graph.Path source target path) (hvalid : graph.Valid)
    (hsource : graph.contains source = true) : path.Nodup := by
  obtain ⟨order, horder⟩ := hvalid.ordered
  exact nodup_of_isChain horder (h.known hvalid hsource) h.chain

end Path

/-! ## Paths from sources -/

/-- To every node of a valid graph a path leads from a source. -/
theorem Valid.exists_path (h : graph.Valid) {id : NodeId} (hid : graph.contains id = true) :
    ∃ source ∈ graph.sources, ∃ path, graph.Path source id path := by
  apply h.induction_on_parents _ hid
  intro id hid ih
  cases hparents : graph.parents id with
  | nil => exact ⟨id, mem_sources.2 ⟨hid, hparents⟩, [id], .single graph id⟩
  | cons parent others =>
    have hparent : parent ∈ graph.parents id := hparents ▸ List.mem_cons_self
    obtain ⟨source, hsource, path, hpath⟩ := ih parent hparent
    exact ⟨source, hsource, path ++ [id], hpath.concat (mem_parents.1 hparent)⟩

/-! ## Unavoidable nodes -/

/-- All paths from sources to the node `id` lead through `other`. -/
def Unavoidable (graph : Graph) (id other : NodeId) : Prop :=
  ∀ source ∈ graph.sources, ∀ path, graph.Path source id path → other ∈ path

theorem unavoidable_self (graph : Graph) (id : NodeId) : graph.Unavoidable id id :=
  fun _ _ _ hpath => hpath.target_mem

namespace Valid

variable {id other : NodeId}

/-- What is unavoidable before all parents of a node is another node: a path through the node itself could
not come back to it. -/
theorem ne_of_unavoidable_parents (h : graph.Valid) (hparents : graph.parents id ≠ [])
    (hall : ∀ parent ∈ graph.parents id, graph.Unavoidable parent other) : other ≠ id := by
  rintro rfl
  obtain ⟨parent, hparent⟩ := List.exists_mem_of_ne_nil _ hparents
  have hleads := mem_parents.1 hparent
  obtain ⟨source, hsource, path, hpath⟩ := h.exists_path (h.source_known hleads)
  have hmem := hall parent hparent source hsource path hpath
  have hnodup := (hpath.concat hleads).nodup h (mem_sources.1 hsource).1
  exact (List.nodup_append.1 hnodup).2.2 other hmem other (List.mem_singleton_self other) rfl

/-- Another node is unavoidable before a node if it is unavoidable before its parents, of which there is
one. -/
theorem unavoidable_iff_parents (h : graph.Valid) (hid : graph.contains id = true) :
    other ≠ id ∧ graph.Unavoidable id other ↔
      graph.parents id ≠ [] ∧ ∀ parent ∈ graph.parents id, graph.Unavoidable parent other := by
  constructor
  · rintro ⟨hne, hall⟩
    constructor
    · intro hparents
      have hmem := hall id (mem_sources.2 ⟨hid, hparents⟩) [id] (.single graph id)
      exact hne (List.mem_singleton.1 hmem)
    · intro parent hparent source hsource path hpath
      have hmem := hall source hsource _ (hpath.concat (mem_parents.1 hparent))
      rcases List.mem_append.1 hmem with hmem | hend
      · exact hmem
      · exact absurd (List.mem_singleton.1 hend) hne
  · rintro ⟨hparents, hall⟩
    refine ⟨h.ne_of_unavoidable_parents hparents hall, ?_⟩
    intro source hsource path hpath
    rcases hpath.cases_last with ⟨-, rfl⟩ | ⟨parent, front, rfl, hleads, hfront⟩
    · exact absurd (mem_sources.1 hsource).2 hparents
    · have hmem := hall parent (mem_parents.2 hleads) source hsource front hfront
      exact List.mem_append_left _ hmem

end Valid

end Storyline.Graph
