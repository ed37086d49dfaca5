-- SUMMARY: What is guaranteed before a node is what no path to it can avoid.
import Storyline.Memory
import Storyline.Proofs.Graph.Path

/-!
# Guaranteed nodes

The sets of guaranteed nodes are found by going through the order of the graph once. The set of a node is made
from those of its parents; these stand before it and are not changed any more, so in the end all sets together
solve one equation, `get?_guaranteedIn`. Unavoidable nodes solve the same equation, and in a valid graph it has
one solution.
-/

namespace Storyline

open Storyline.Graph

namespace Memory

variable {graph : Graph} {config : MemoryConfig} {memory : Memory} {found : Guaranteed}
  {id other : NodeId} {order front behind : List NodeId}

/-! ## What ways have in common -/

theorem contains_foldl_inter {first : NameSet} {rest : List NameSet} :
    (rest.foldl NameSet.inter first).contains other = true ↔
      first.contains other = true ∧ ∀ set ∈ rest, set.contains other = true := by
  induction rest generalizing first with
  | nil => simp
  | cons second rest ih =>
    rw [List.foldl_cons, ih, NameSet.contains_inter, List.forall_mem_cons, and_assoc]

theorem contains_common {sets : List NameSet} :
    (common sets).contains other = true ↔
      sets ≠ [] ∧ ∀ set ∈ sets, set.contains other = true := by
  cases sets with
  | nil => simp [common, SortedMap.contains]
  | cons first rest =>
    rw [common, contains_foldl_inter, List.forall_mem_cons, and_iff_right (List.cons_ne_nil _ _)]

/-- Certain are those nodes that each parent with a set is or has in its set, if there is such a parent. -/
theorem contains_certainBefore :
    (certainBefore graph found id).contains other = true ↔
      (∃ parent ∈ graph.parents id, found.get? parent ≠ none) ∧
        ∀ parent ∈ graph.parents id, ∀ above,
          found.get? parent = some above → other = parent ∨ above.contains other = true := by
  unfold certainBefore
  rw [contains_common, List.forall_mem_filterMap]
  apply and_congr
  · simp [List.filterMap_eq_nil_iff, throughParent?]
  · apply forall₂_congr
    intro parent _
    simp only [throughParent?, Option.map_eq_some_iff, forall_exists_index, and_imp,
      forall_apply_eq_imp_iff₂, NameSet.contains_add]

/-! ## Going through the order -/

/-- The nodes that come later do not change a set. -/
theorem get?_guaranteedIn_append (hlater : id ∉ behind) :
    (guaranteedIn graph (front ++ behind)).get? id = (guaranteedIn graph front).get? id := by
  unfold guaranteedIn
  rw [List.foldl_append]
  generalize front.foldl _ _ = found
  induction behind generalizing found with
  | nil => rfl
  | cons next behind ih =>
    obtain ⟨hne, hlater⟩ := not_or.1 (mt List.mem_cons.2 hlater)
    rw [List.foldl_cons, ih hlater, SortedMap.get?_insert, if_neg hne]

theorem get?_guaranteedIn_of_not_mem (h : id ∉ order) :
    (guaranteedIn graph order).get? id = none := by
  rw [← List.nil_append order, get?_guaranteedIn_append h, guaranteedIn, List.foldl_nil,
    SortedMap.get?_empty]

/-- The sets solve their equation, for known parents come first and keep their sets, and unknown ones never
have any. -/
theorem get?_guaranteedIn (horder : graph.topologicalOrder = .ok order)
    (hid : graph.contains id = true) :
    (guaranteedIn graph order).get? id =
      some (certainBefore graph (guaranteedIn graph order) id) := by
  have hmem := (perm_of_topologicalOrder horder).mem_iff.2 (mem_ids.2 hid)
  have hnodup := (perm_of_topologicalOrder horder).nodup_iff.2 graph.ids_nodup
  obtain ⟨front, behind, rfl⟩ := List.append_of_mem hmem
  have hparents : ∀ parent ∈ graph.parents id,
      (guaranteedIn graph (front ++ id :: behind)).get? parent =
        (guaranteedIn graph front).get? parent := by
    intro parent hparent
    apply get?_guaranteedIn_append
    intro hlater
    have hmem : parent ∈ front ++ id :: behind := List.mem_append_right _ hlater
    have hknown := mem_ids.1 ((perm_of_topologicalOrder horder).mem_iff.1 hmem)
    have hfront := parent_mem_front horder rfl hknown (mem_parents.1 hparent)
    exact (List.nodup_append.1 hnodup).2.2 parent hfront parent hlater rfl
  have hsame : certainBefore graph (guaranteedIn graph (front ++ id :: behind)) id =
      certainBefore graph (guaranteedIn graph front) id := by
    unfold certainBefore
    congr 1
    apply List.filterMap_congr
    intro parent hparent
    rw [throughParent?, throughParent?, hparents parent hparent]
  have hlater : id ∉ behind := (List.nodup_cons.1 (List.nodup_append.1 hnodup).2.1).1
  rw [hsame, List.append_cons, get?_guaranteedIn_append hlater, guaranteedIn, List.foldl_concat,
    SortedMap.get?_insert, if_pos rfl, guaranteedIn]

/-! ## Memories of valid graphs -/

/-- The memories of a valid graph can be prepared. -/
theorem exists_ofGraph (hvalid : graph.Valid) (config : MemoryConfig) :
    ∃ order, graph.topologicalOrder = .ok order ∧
      ofGraph graph config = .ok ⟨graph, config, order, guaranteedIn graph order⟩ := by
  obtain ⟨order, horder⟩ := hvalid.ordered
  exact ⟨order, horder, by simp [ofGraph, horder, Except.map]⟩

theorem mem_guaranteed_iff_unavoidable (hvalid : graph.Valid)
    (hmemory : ofGraph graph config = .ok memory) (hid : graph.contains id = true) :
    ∃ set, memory.guaranteedAncestors? id = some set ∧
      ∀ other, set.contains other = true ↔ other ≠ id ∧ graph.Unavoidable id other := by
  obtain ⟨order, horder, hprepared⟩ := exists_ofGraph hvalid config
  cases hprepared.symm.trans hmemory
  apply hvalid.induction_on_parents _ hid
  intro id hid ih
  refine ⟨_, get?_guaranteedIn horder hid, ?_⟩
  intro other
  have hfound : (∃ parent ∈ graph.parents id, (guaranteedIn graph order).get? parent ≠ none) ↔
      graph.parents id ≠ [] := by
    constructor
    · rintro ⟨parent, hparent, -⟩
      exact List.ne_nil_of_mem hparent
    · intro hparents
      obtain ⟨parent, hparent⟩ := List.exists_mem_of_ne_nil _ hparents
      obtain ⟨above, habove, -⟩ := ih parent hparent
      exact ⟨parent, hparent, Option.ne_none_iff_exists'.2 ⟨above, habove⟩⟩
  rw [contains_certainBefore, hfound, hvalid.unavoidable_iff_parents hid]
  apply and_congr_right
  intro _
  apply forall₂_congr
  intro parent hparent
  obtain ⟨above, habove, hiff⟩ := ih parent hparent
  have hset : (guaranteedIn graph order).get? parent = some above := habove
  rw [hset]
  simp only [Option.some.injEq, forall_eq', hiff]
  constructor
  · rintro (rfl | ⟨-, hall⟩)
    · exact graph.unavoidable_self other
    · exact hall
  · intro hall
    by_cases hother : other = parent
    · exact .inl hother
    · exact .inr ⟨hother, hall⟩

/-- In a valid graph, guaranteed before a node are exactly the other nodes that all paths to it from nodes
without parents lead through. -/
theorem guaranteed_eq_unavoidable (hvalid : graph.validate = .ok ()) (config : MemoryConfig) :
    ∃ memory, ofGraph graph config = .ok memory ∧ ∀ id,
      (graph.contains id = true → ∃ set, memory.guaranteedAncestors? id = some set ∧
        ∀ other, set.contains other = true ↔
          other ≠ id ∧ ∀ source ∈ graph.sources, ∀ path, graph.Path source id path → other ∈ path) ∧
      (graph.contains id = false → memory.guaranteedAncestors? id = none) := by
  have hgraph := valid_of_validate hvalid
  obtain ⟨order, horder, hmemory⟩ := exists_ofGraph hgraph config
  refine ⟨_, hmemory, ?_⟩
  intro id
  constructor
  · intro hid
    exact mem_guaranteed_iff_unavoidable hgraph hmemory hid
  · intro hunknown
    apply get?_guaranteedIn_of_not_mem
    rw [(perm_of_topologicalOrder horder).mem_iff, mem_ids, hunknown]
    exact Bool.false_ne_true

/-- Two ways from the inn to the town, and from there to the hall, which a third way leads to directly: only
the inn is on all of them. -/
theorem guaranteed_eq_unavoidable_of_nested_merges :
    let node (id : NodeId) : Node := ⟨id, "", .normal⟩
    let edge (source target : NodeId) : Edge := ⟨source, target, none⟩
    let nodes := ["hall", "town", "road", "ferry", "gate", "inn"].map node
    let edges := [edge "inn" "road", edge "inn" "ferry", edge "road" "town", edge "ferry" "town",
      edge "town" "gate", edge "gate" "hall", edge "inn" "hall", edge "inn" "hall"]
    let graph := edges.foldl Graph.addEdge (nodes.foldl Graph.addNode { root := "inn" })
    graph.validate = .ok () ∧
      ((ofGraph graph {}).toOption.bind (·.guaranteedAncestors? "hall")).map (·.keys) =
        some ["inn"] ∧
      ∃ memory, ofGraph graph {} = .ok memory ∧ ∀ id,
        (graph.contains id = true → ∃ set, memory.guaranteedAncestors? id = some set ∧
          ∀ other, set.contains other = true ↔
            other ≠ id ∧ ∀ source ∈ graph.sources, ∀ path, graph.Path source id path → other ∈ path) ∧
        (graph.contains id = false → memory.guaranteedAncestors? id = none) := by
  intro node edge nodes edges graph
  have hvalid : graph.validate = .ok () := by decide +kernel
  exact ⟨hvalid, by decide +kernel, guaranteed_eq_unavoidable hvalid {}⟩

end Memory

end Storyline
