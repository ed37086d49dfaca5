-- SUMMARY: A depth-first walk meets the nodes that paths lead to.
import Mathlib.Logic.Relation
import Storyline.Graph.Reach
import Storyline.Proofs.Graph.Path

/-!
# Walks

A walk goes on from every node that it meets and passes over nodes that were seen before. So what it meets
covers what it began with, and is closed under arrows but for what was seen. On the other hand it meets nothing
that a property of its beginning does not carry over to along arrows. Together this says that a walk meets
exactly what can be reached along arrows, and downwards these are the nodes at the ends of paths:
`mem_walk_downward`.
-/

namespace Storyline.Graph

open Relation

variable {graph : Graph} {arrows : List (NodeId × NodeId)} {pending seen : List NodeId}
  {start id : NodeId}

theorem mem_ends {source target : NodeId} :
    target ∈ ends arrows source ↔ (source, target) ∈ arrows := by
  simp [ends]

/-- Everything on a walk has what its beginning has and arrows hand on. -/
theorem forall_mem_walk {Holds : NodeId → Prop} (hpending : ∀ id ∈ pending, Holds id)
    (harrow : ∀ source target, (source, target) ∈ arrows → Holds source → Holds target) :
    ∀ id ∈ walk arrows pending seen, Holds id := by
  fun_induction walk arrows pending seen with
  | case1 => exact List.forall_mem_nil _
  | case2 seen id pending hseen ih =>
    exact ih (List.forall_mem_cons.1 hpending).2
  | case3 seen id pending hnew ih =>
    obtain ⟨hid, hrest⟩ := List.forall_mem_cons.1 hpending
    refine List.forall_mem_cons.2 ⟨hid, ih ?_⟩
    intro next hnext
    rcases List.mem_append.1 hnext with hend | hnext
    · exact harrow id next (mem_ends.1 hend) hid
    · exact hrest next hnext

/-- What a walk has met or seen has its beginning in it, and arrows from what it has met stay in it. -/
theorem walk_closed (arrows : List (NodeId × NodeId)) (pending seen : List NodeId) :
    (∀ id ∈ pending, id ∈ walk arrows pending seen ∨ id ∈ seen) ∧
      ∀ source ∈ walk arrows pending seen, ∀ target, (source, target) ∈ arrows →
        target ∈ walk arrows pending seen ∨ target ∈ seen := by
  fun_induction walk arrows pending seen with
  | case1 => exact ⟨List.forall_mem_nil _, List.forall_mem_nil _⟩
  | case2 seen id pending hseen ih =>
    obtain ⟨hpending, hclosed⟩ := ih
    exact ⟨List.forall_mem_cons.2 ⟨.inr (by simpa using hseen), hpending⟩, hclosed⟩
  | case3 seen id pending hnew ih =>
    obtain ⟨hpending, hclosed⟩ := ih
    have hkept {next : NodeId}
        (h : next ∈ walk arrows (ends arrows id ++ pending) (id :: seen) ∨ next ∈ id :: seen) :
        next ∈ id :: walk arrows (ends arrows id ++ pending) (id :: seen) ∨ next ∈ seen := by
      simp only [List.mem_cons] at h ⊢
      tauto
    refine ⟨?_, ?_⟩
    · refine List.forall_mem_cons.2 ⟨.inl List.mem_cons_self, ?_⟩
      intro next hnext
      exact hkept (hpending next (List.mem_append_right _ hnext))
    · refine List.forall_mem_cons.2 ⟨?_, ?_⟩
      · intro target harrow
        exact hkept (hpending target (List.mem_append_left _ (mem_ends.2 harrow)))
      · intro source hsource target harrow
        exact hkept (hclosed source hsource target harrow)

/-- Does a way along arrows lead to the node from one of the nodes to begin with? -/
def Reaches (arrows : List (NodeId × NodeId)) (begin : List NodeId) (id : NodeId) : Prop :=
  ∃ first ∈ begin, ReflTransGen (fun source target => (source, target) ∈ arrows) first id

theorem Reaches.tail {source target : NodeId} (h : Reaches arrows pending source)
    (harrow : (source, target) ∈ arrows) : Reaches arrows pending target := by
  obtain ⟨first, hfirst, hreach⟩ := h
  exact ⟨first, hfirst, hreach.tail harrow⟩

/-- A walk meets what can be reached from its beginning. -/
theorem mem_walk : id ∈ walk arrows pending [] ↔ Reaches arrows pending id := by
  obtain ⟨hpending, hclosed⟩ := walk_closed arrows pending []
  simp only [List.not_mem_nil, or_false] at hpending hclosed
  constructor
  · revert id
    apply forall_mem_walk
    · exact fun id hid => ⟨id, hid, .refl⟩
    · exact fun source target harrow hreach => hreach.tail harrow
  · rintro ⟨first, hfirst, hreach⟩
    induction hreach with
    | refl => exact hpending first hfirst
    | tail _ harrow ih => exact hclosed _ ih _ harrow

theorem mem_downward {source target : NodeId} :
    (source, target) ∈ graph.downward ↔ graph.Leads source target := by
  simp [downward, Leads]

theorem exists_path_iff : (∃ path, graph.Path start id path) ↔ ReflTransGen graph.Leads start id := by
  constructor
  · rintro ⟨path, hpath⟩
    obtain ⟨rest, rfl⟩ := List.head?_eq_some_iff.1 hpath.first
    have hlast := (List.getLast_eq_iff_getLast?_eq_some (List.cons_ne_nil start rest)).2 hpath.last
    exact List.relationReflTransGen_of_exists_isChain_cons rest hpath.chain hlast
  · intro hreach
    induction hreach with
    | refl => exact ⟨[start], .single graph start⟩
    | tail _ hleads ih =>
      obtain ⟨path, hpath⟩ := ih
      exact ⟨_, hpath.concat hleads⟩

theorem reaches_downward : Reaches graph.downward [start] id ↔ ReflTransGen graph.Leads start id := by
  simp only [Reaches, List.mem_singleton, exists_eq_left, mem_downward]

/-- A walk downwards meets the nodes that paths lead to. -/
theorem mem_walk_downward : id ∈ walk graph.downward [start] [] ↔ ∃ path, graph.Path start id path := by
  rw [mem_walk, reaches_downward, exists_path_iff]

/-- The endings that can be reached are the nodes without children that paths lead to. -/
theorem mem_reachableEndings (h : graph.contains start = true) :
    id ∈ graph.reachableEndings start ↔
      (∃ path, graph.Path start id path) ∧ graph.children id = [] := by
  rw [reachableEndings, if_pos h, List.mem_filter, mem_walk_downward, List.isEmpty_iff]

/-- Unreachable are the nodes that no path leads to. -/
theorem mem_unreachableFrom :
    id ∈ graph.unreachableFrom start ↔ graph.contains id = true ∧ ¬∃ path, graph.Path start id path := by
  simp only [unreachableFrom, List.mem_filter, mem_ids, Bool.not_eq_true', List.contains_eq_mem,
    decide_eq_false_iff_not, mem_walk_downward]

end Storyline.Graph
