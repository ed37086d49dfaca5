-- SUMMARY: In a topological order every node stands behind all of its parents.
import Mathlib.Data.List.Chain
import Mathlib.Data.List.Nodup
import Mathlib.Data.List.Perm.Subperm
import Storyline.Graph.Order

/-!
# Orders

Nodes are placed by counting: every node waits for as many parents as it has, and placing one of them lowers
the count. The counts are exact at all times, and the nodes that are placed or ready are those that wait for
no one. That is the invariant `Placing`, and all that is known about an order follows from it.
-/

namespace Storyline.Graph

variable {graph : Graph}

/-! ## Edges -/

/-- Does an edge lead from one node to the other? -/
def Leads (graph : Graph) (source target : NodeId) : Prop :=
  ∃ edge ∈ graph.edges, edge.source = source ∧ edge.target = target

theorem mem_ids {id : NodeId} : id ∈ graph.ids ↔ graph.contains id = true := by
  simp [ids, contains]

theorem node?_of_mem {node : Node} (h : node ∈ graph.nodes) : graph.node? node.id = some node := by
  have hnodup := graph.ids_nodup
  unfold Graph.node?
  generalize graph.nodes = nodes at h hnodup
  induction nodes with
  | nil => cases h
  | cons first rest ih =>
    obtain ⟨hfirst, hrest⟩ := List.nodup_cons.1 hnodup
    rcases List.mem_cons.1 h with rfl | h
    · exact List.find?_cons_of_pos (by simp)
    · have hne : first.id ≠ node.id := by
        intro heq
        exact hfirst (List.mem_map.2 ⟨node, h, heq.symm⟩)
      rw [List.find?_cons_of_neg (by simpa using hne), ih h hrest]

/-- A graph with a node is not empty. -/
theorem size_pos {id : NodeId} (h : graph.contains id = true) : 0 < graph.size := by
  obtain ⟨node, hnode, -⟩ := List.any_eq_true.1 h
  exact List.length_pos_of_mem hnode

/-- Different nodes of a graph are at most as many as its nodes. -/
theorem length_le_size {list : List NodeId} (hnodup : list.Nodup)
    (h : ∀ id ∈ list, graph.contains id = true) : list.length ≤ graph.size := by
  have hsubset : list ⊆ graph.ids := by
    intro id hid
    exact mem_ids.2 (h id hid)
  have hlength := (List.subperm_of_subset hnodup hsubset).length_le
  rwa [ids, List.length_map] at hlength

theorem length_children_le (graph : Graph) (id : NodeId) :
    (graph.children id).length ≤ graph.edges.length := by
  rw [children, List.length_map]
  exact List.length_filter_le _ _

theorem mem_childIds {source target : NodeId} :
    target ∈ graph.childIds source ↔ graph.Leads source target := by
  simp [childIds, children, Leads, Edge.link, and_assoc]

theorem mem_parents {source target : NodeId} :
    source ∈ graph.parents target ↔ graph.Leads source target := by
  unfold parents Leads
  simp only [List.mem_map, List.mem_filter, beq_iff_eq]
  constructor
  · rintro ⟨edge, ⟨hedge, htarget⟩, hsource⟩
    exact ⟨edge, hedge, hsource, htarget⟩
  · rintro ⟨edge, hedge, hsource, htarget⟩
    exact ⟨edge, ⟨hedge, htarget⟩, hsource⟩

/-- A node is as often a child of another as that is a parent of it. -/
theorem count_childIds (graph : Graph) (source target : NodeId) :
    (graph.childIds source).count target = (graph.parents target).count source := by
  simp only [childIds, children, parents, List.count, List.countP_map, List.countP_filter,
    List.map_map, Function.comp_def, Edge.link]
  exact List.countP_congr fun edge _ => by simp [and_comm]

/-! ## Waiting -/

/-- How many edges lead to a node from known nodes that are not placed. -/
def pending (graph : Graph) (done : List NodeId) (id : NodeId) : Nat :=
  (graph.parents id).countP fun parent => graph.contains parent && !done.contains parent

theorem pending_nil (graph : Graph) (id : NodeId) : graph.pending [] id = graph.knownParents id := by
  simp [pending, knownParents, List.countP_eq_length_filter]

theorem pending_eq_zero {done : List NodeId} {id : NodeId} :
    graph.pending done id = 0 ↔
      ∀ parent, graph.contains parent = true → graph.Leads parent id → parent ∈ done := by
  unfold pending
  simp only [List.countP_eq_zero, mem_parents, Bool.and_eq_true, Bool.not_eq_true',
    List.contains_eq_mem, decide_eq_false_iff_not]
  constructor
  · intro h parent hknown hleads
    by_contra hparent
    exact h parent hleads ⟨hknown, hparent⟩
  · rintro h parent hleads ⟨hknown, hparent⟩
    exact hparent (h parent hknown hleads)

/-- Placing a node lowers what its children wait for, by one for every edge. -/
theorem pending_concat {done : List NodeId} {id : NodeId} (hknown : graph.contains id = true)
    (hnew : id ∉ done) (child : NodeId) :
    graph.pending (done ++ [id]) child + (graph.childIds id).count child =
      graph.pending done child := by
  rw [count_childIds]
  unfold pending
  induction graph.parents child with
  | nil => rfl
  | cons parent rest ih =>
    rw [List.countP_cons, List.countP_cons, List.count_cons, ← ih]
    by_cases hparent : parent = id
    · subst hparent
      have hplaced : (graph.contains parent && !(done ++ [parent]).contains parent) = false := by simp
      have hwaits : (graph.contains parent && !done.contains parent) = true := by simp [hknown, hnew]
      simp only [hplaced, hwaits, BEq.rfl, if_true, Bool.false_eq_true, if_false]
      omega
    · have hsame : (done ++ [id]).contains parent = done.contains parent := by simp [hparent]
      have hother : (parent == id) = false := by simp [hparent]
      simp only [hsame, hother, Bool.false_eq_true, if_false]
      omega

/-! ## Releasing children -/

section Release

variable {children : List NodeId} {waiting : Waiting}

theorem get?_release (children : List NodeId) (waiting : Waiting) (id : NodeId) :
    (release children waiting).1.get? id = (waiting.get? id).map (· - children.count id) := by
  induction children generalizing waiting with
  | nil => simp [release]
  | cons child rest ih =>
    unfold release
    split
    · rename_i hnone
      rw [ih]
      by_cases hid : id = child
      · rw [hid, hnone]
        rfl
      · rw [List.count_cons_of_ne (Ne.symm hid)]
    · rename_i count hcount
      rw [ih, SortedMap.get?_insert]
      split
      · rename_i hid
        rw [hid, hcount, List.count_cons_self, Nat.add_comm, Option.map_some, Option.map_some,
          Nat.sub_sub]
      · rw [List.count_cons_of_ne (Ne.symm ‹_›)]

/-- No node is released more often than it waits. -/
def Covers (waiting : Waiting) (children : List NodeId) : Prop :=
  ∀ id count, waiting.get? id = some count → children.count id ≤ count

theorem Covers.rest {child : NodeId} {rest : List NodeId} (h : Covers waiting (child :: rest)) :
    Covers waiting rest := by
  intro id count hcount
  have hle := h id count hcount
  have hrest := List.count_le_count_cons (a := id) (b := child) (l := rest)
  omega

theorem Covers.insert {child : NodeId} {rest : List NodeId} (h : Covers waiting (child :: rest))
    {count : Nat} (hcount : waiting.get? child = some count) :
    Covers (waiting.insert child (count - 1)) rest := by
  intro id left hleft
  rw [SortedMap.get?_insert] at hleft
  split at hleft
  · rename_i hid
    cases hleft
    have hle := h child count hcount
    rw [List.count_cons_self] at hle
    rw [hid]
    omega
  · have hle := h id left hleft
    rwa [List.count_cons_of_ne (Ne.symm ‹_›)] at hle

/-- Those children get ready that have waited for the placed node alone. -/
theorem mem_release (h : Covers waiting children) {id : NodeId} :
    id ∈ (release children waiting).2 ↔
      id ∈ children ∧ waiting.get? id = some (children.count id) := by
  induction children generalizing waiting with
  | nil => simp [release]
  | cons child rest ih =>
    unfold release
    split
    · rename_i hnone
      rw [ih h.rest]
      by_cases hid : id = child
      · simp [hid, hnone]
      · rw [List.count_cons_of_ne (Ne.symm hid), List.mem_cons, or_iff_right hid]
    · rename_i count hcount
      have hle := h child count hcount
      rw [List.count_cons_self] at hle
      have hlater := ih (h.insert hcount)
      rw [SortedMap.get?_insert] at hlater
      dsimp only
      by_cases hid : id = child
      · rw [if_pos hid] at hlater
        rw [hid] at hlater ⊢
        simp only [hcount, List.mem_cons_self, true_and, List.count_cons_self, Option.some.injEq]
        split
        · simp only [List.mem_cons_self, true_iff]
          omega
        · rw [hlater, ← List.count_pos_iff, Option.some.injEq]
          omega
      · rw [if_neg hid] at hlater
        rw [List.count_cons_of_ne (Ne.symm hid), List.mem_cons, or_iff_right hid, ← hlater]
        split
        · rw [List.mem_cons, or_iff_right hid]
        · exact Iff.rfl

theorem nodup_release (h : Covers waiting children) : (release children waiting).2.Nodup := by
  induction children generalizing waiting with
  | nil => exact List.nodup_nil
  | cons child rest ih =>
    unfold release
    split
    · exact ih h.rest
    · rename_i count hcount
      have hnodup := ih (h.insert hcount)
      dsimp only
      split
      · rename_i hzero
        rw [List.nodup_cons]
        refine ⟨?_, hnodup⟩
        intro hchild
        have hagain := ((mem_release (h.insert hcount)).1 hchild).1
        have hle := h child count hcount
        have hpos := List.count_pos_iff.2 hagain
        rw [List.count_cons_self] at hle
        omega
      · exact hnodup

end Release

/-! ## Placing -/

/-- The state of placing: `done` is placed and `ready` comes next. -/
structure Placing (graph : Graph) (done ready : List NodeId) (waiting : Waiting) : Prop where
  nodup : (done ++ ready).Nodup
  /-- Those nodes are placed or ready that wait for no one. -/
  mem_iff (id : NodeId) :
    id ∈ done ++ ready ↔ graph.contains id = true ∧ graph.pending done id = 0
  waits (id : NodeId) :
    waiting.get? id = if graph.contains id then some (graph.pending done id) else none

namespace Placing

variable {done ready : List NodeId} {id : NodeId} {waiting : Waiting}

theorem contains (h : Placing graph done (id :: ready) waiting) : graph.contains id = true :=
  ((h.mem_iff id).1 (by simp)).1

theorem pending_eq_zero (h : Placing graph done (id :: ready) waiting) :
    graph.pending done id = 0 :=
  ((h.mem_iff id).1 (by simp)).2

theorem not_mem_done (h : Placing graph done (id :: ready) waiting) : id ∉ done := by
  intro hdone
  exact (List.nodup_append.1 h.nodup).2.2 id hdone id List.mem_cons_self rfl

theorem covers (h : Placing graph done (id :: ready) waiting) :
    Covers waiting (graph.childIds id) := by
  intro child count hcount
  rw [h.waits] at hcount
  split at hcount
  · cases hcount
    have hpending := pending_concat h.contains h.not_mem_done child
    omega
  · cases hcount

/-- Placing the first of the ready nodes. -/
theorem next (h : Placing graph done (id :: ready) waiting) :
    Placing graph (done ++ [id]) (ready ++ (release (graph.childIds id) waiting).2)
      (release (graph.childIds id) waiting).1 := by
  have hpending := pending_concat h.contains h.not_mem_done
  have hfreed (child : NodeId) : child ∈ (release (graph.childIds id) waiting).2 ↔
      child ∈ graph.childIds id ∧ graph.contains child = true ∧
        graph.pending (done ++ [id]) child = 0 := by
    rw [mem_release h.covers, h.waits]
    have hchild := hpending child
    split
    · rename_i hknown
      simp only [Option.some.injEq, hknown, true_and]
      exact and_congr_right fun _ => by omega
    · rename_i hunknown
      simp [hunknown]
  have hlist : done ++ [id] ++ (ready ++ (release (graph.childIds id) waiting).2) =
      (done ++ id :: ready) ++ (release (graph.childIds id) waiting).2 := by simp
  refine ⟨?_, ?_, ?_⟩
  · rw [hlist]
    refine List.nodup_append.2 ⟨h.nodup, nodup_release h.covers, ?_⟩
    rintro child hchild _ hagain rfl
    have hzero := ((h.mem_iff child).1 hchild).2
    have hcount := hpending child
    have hpos := List.count_pos_iff.2 ((hfreed child).1 hagain).1
    omega
  · intro child
    rw [hlist, List.mem_append, hfreed, h.mem_iff, ← hpending child, ← List.count_pos_iff]
    by_cases hknown : graph.contains child = true
    · simp only [hknown, true_and]
      omega
    · simp [hknown]
  · intro child
    rw [get?_release, h.waits, ← hpending child]
    split
    · rw [Option.map_some, Nat.add_sub_cancel]
    · rfl

/-- Nodes are placed once each, and known nodes only. -/
theorem place (h : Placing graph done ready waiting) (fuel : Nat) :
    (done ++ graph.place fuel ready waiting).Nodup ∧
      ∀ id ∈ graph.place fuel ready waiting, graph.contains id = true := by
  induction fuel generalizing done ready waiting with
  | zero => exact ⟨by simpa [Graph.place] using (List.nodup_append.1 h.nodup).1, List.forall_mem_nil _⟩
  | succ fuel ih =>
    cases ready with
    | nil => exact ⟨by simpa [Graph.place] using (List.nodup_append.1 h.nodup).1, List.forall_mem_nil _⟩
    | cons id ready =>
      obtain ⟨hnodup, hknown⟩ := ih h.next
      rw [List.append_assoc] at hnodup
      refine ⟨hnodup, ?_⟩
      intro other hother
      rcases List.mem_cons.1 hother with rfl | hother
      · exact h.contains
      · exact hknown other hother

/-- The known parents of a node are placed before it. -/
theorem parent_mem (h : Placing graph done ready waiting) {fuel : Nat}
    {front behind : List NodeId} (hplace : graph.place fuel ready waiting = front ++ id :: behind)
    {parent : NodeId} (hknown : graph.contains parent = true) (hleads : graph.Leads parent id) :
    parent ∈ done ++ front := by
  induction fuel generalizing done ready waiting front with
  | zero => simp [Graph.place] at hplace
  | succ fuel ih =>
    cases ready with
    | nil => simp [Graph.place] at hplace
    | cons first ready =>
      cases front with
      | nil =>
        obtain ⟨rfl, -⟩ := List.cons.inj hplace
        exact List.mem_append_left _ (Graph.pending_eq_zero.1 h.pending_eq_zero parent hknown hleads)
      | cons other front =>
        obtain ⟨rfl, hrest⟩ := List.cons.inj hplace
        have hparent := ih h.next hrest
        rwa [List.append_assoc] at hparent

/-- With enough fuel placing goes on until all nodes wait for others that are not placed. -/
theorem mem_place (h : Placing graph done ready waiting) {fuel : Nat}
    (hfuel : graph.size ≤ done.length + fuel) (id : NodeId) :
    id ∈ done ++ graph.place fuel ready waiting ↔ graph.contains id = true ∧
      graph.pending (done ++ graph.place fuel ready waiting) id = 0 := by
  induction fuel generalizing done ready waiting with
  | zero =>
    have hlength := length_le_size h.nodup fun id hid => ((h.mem_iff id).1 hid).1
    rw [List.length_append] at hlength
    have hready : ready = [] := List.eq_nil_of_length_eq_zero (by omega)
    rw [Graph.place, List.append_nil]
    simpa only [hready, List.append_nil] using h.mem_iff id
  | succ fuel ih =>
    cases ready with
    | nil =>
      rw [Graph.place, List.append_nil]
      simpa only [List.append_nil] using h.mem_iff id
    | cons first ready =>
      have hnext := ih h.next (by rw [List.length_append, List.length_singleton]; omega)
      rwa [List.append_assoc] at hnext

end Placing

theorem get?_foldl_insert (value : NodeId → Nat) (ids : List NodeId) (waiting : Waiting)
    (id : NodeId) :
    ((ids.map fun id => (id, value id)).foldl (fun m entry => m.insert entry.1 entry.2) waiting).get?
        id = if id ∈ ids then some (value id) else waiting.get? id := by
  induction ids generalizing waiting with
  | nil => rfl
  | cons first rest ih =>
    rw [List.map_cons, List.foldl_cons, ih, SortedMap.get?_insert]
    by_cases hrest : id ∈ rest
    · simp [hrest]
    · by_cases hfirst : id = first <;> simp [hrest, hfirst]

/-- At the beginning those nodes are ready that have no known parents. -/
theorem placing_nil (graph : Graph) :
    Placing graph [] (graph.ids.filter fun id => graph.knownParents id == 0)
      (SortedMap.ofList (graph.ids.map fun id => (id, graph.knownParents id))) where
  nodup := graph.ids_nodup.filter _
  mem_iff id := by simp [mem_ids, pending_nil]
  waits id := by
    rw [SortedMap.ofList, get?_foldl_insert, pending_nil]
    simp [mem_ids]

/-! ## Placed nodes -/

theorem nodup_placed (graph : Graph) : graph.placed.Nodup :=
  (graph.placing_nil.place graph.size).1

/-- Those nodes can be placed whose known parents can. -/
theorem mem_placed {id : NodeId} :
    id ∈ graph.placed ↔ graph.contains id = true ∧
      ∀ parent, graph.contains parent = true → graph.Leads parent id → parent ∈ graph.placed := by
  have hfuel : graph.size ≤ ([] : List NodeId).length + graph.size := Nat.le_add_left _ _
  have hmem := graph.placing_nil.mem_place hfuel id
  rwa [List.nil_append, pending_eq_zero] at hmem

/-- What follows for a node from its known parents holds for all placed nodes. -/
theorem placed_induction {Holds : NodeId → Prop}
    (hstep : ∀ id, graph.contains id = true →
      (∀ parent, graph.contains parent = true → graph.Leads parent id → Holds parent) → Holds id) :
    ∀ id ∈ graph.placed, Holds id := by
  suffices hfront : ∀ front behind, graph.placed = front ++ behind → ∀ id ∈ front, Holds id from
    hfront graph.placed [] (List.append_nil _).symm
  intro front
  induction front using List.reverseRecOn with
  | nil => exact fun _ _ => List.forall_mem_nil _
  | append_singleton front last ih =>
    intro behind hsplit
    rw [List.append_assoc, List.singleton_append] at hsplit
    have hfront := ih _ hsplit
    have hlast : last ∈ graph.placed := by
      rw [hsplit]
      exact List.mem_append_right _ List.mem_cons_self
    refine List.forall_mem_append.2 ⟨hfront, List.forall_mem_singleton.2 ?_⟩
    apply hstep last (mem_placed.1 hlast).1
    intro parent hknown hleads
    have hparent := graph.placing_nil.parent_mem hsplit hknown hleads
    exact hfront parent hparent

/-! ## Topological orders -/

variable {order : List NodeId}

theorem topologicalOrder_eq_ok (h : graph.topologicalOrder = .ok order) :
    order = graph.placed ∧ order.length = graph.size := by
  simp only [topologicalOrder] at h
  split at h
  · rename_i hlength
    cases h
    exact ⟨rfl, hlength⟩
  · cases h

/-- An order lists every node once. -/
theorem perm_of_topologicalOrder (h : graph.topologicalOrder = .ok order) :
    order.Perm graph.ids := by
  obtain ⟨rfl, hlength⟩ := topologicalOrder_eq_ok h
  obtain ⟨hnodup, hknown⟩ := graph.placing_nil.place graph.size
  have hsubset : graph.placed ⊆ graph.ids := by
    intro id hid
    exact mem_ids.2 (hknown id hid)
  apply (List.subperm_of_subset hnodup hsubset).perm_of_length_le
  unfold ids
  rw [List.length_map]
  exact Nat.le_of_eq hlength.symm

/-- If there is an order, what follows for a node from its known parents holds for all nodes. -/
theorem induction_of_topologicalOrder (h : graph.topologicalOrder = .ok order)
    {Holds : NodeId → Prop}
    (hstep : ∀ id, graph.contains id = true →
      (∀ parent, graph.contains parent = true → graph.Leads parent id → Holds parent) → Holds id)
    {id : NodeId} (hid : graph.contains id = true) : Holds id := by
  apply placed_induction hstep
  rw [← (topologicalOrder_eq_ok h).1, (perm_of_topologicalOrder h).mem_iff]
  exact mem_ids.2 hid

/-- The known parents of a node stand before it. -/
theorem parent_mem_front (h : graph.topologicalOrder = .ok order) {front behind : List NodeId}
    {id parent : NodeId} (hsplit : order = front ++ id :: behind)
    (hknown : graph.contains parent = true) (hleads : graph.Leads parent id) : parent ∈ front := by
  obtain ⟨rfl, -⟩ := topologicalOrder_eq_ok h
  simpa using graph.placing_nil.parent_mem hsplit hknown hleads

/-- An edge leads from a node to a later one. -/
theorem idxOf_lt_of_leads (h : graph.topologicalOrder = .ok order) {source target : NodeId}
    (hsource : graph.contains source = true) (htarget : graph.contains target = true)
    (hleads : graph.Leads source target) : order.idxOf source < order.idxOf target := by
  have hmem := (perm_of_topologicalOrder h).mem_iff.2 (mem_ids.2 htarget)
  obtain ⟨front, behind, hsplit, hnew⟩ := List.eq_append_cons_of_mem hmem
  have hparent := parent_mem_front h hsplit hsource hleads
  rw [hsplit, List.idxOf_append, if_pos hparent, List.idxOf_append, if_neg hnew,
    List.idxOf_cons_self, Nat.zero_add]
  exact List.idxOf_lt_length_of_mem hparent

/-- A path along edges comes to no node twice if there is an order. -/
theorem nodup_of_isChain (h : graph.topologicalOrder = .ok order) {path : List NodeId}
    (hknown : ∀ id ∈ path, graph.contains id = true) (hpath : path.IsChain graph.Leads) :
    path.Nodup := by
  have hrises : path.IsChain fun source target => order.idxOf source < order.idxOf target := by
    apply hpath.imp_of_mem_imp
    intro source target hsource htarget hleads
    exact idxOf_lt_of_leads h (hknown source hsource) (hknown target htarget) hleads
  have hranks : (path.map order.idxOf).IsChain (· < ·) := (List.isChain_map _).2 hrises
  have hnodup : (path.map order.idxOf).Nodup :=
    (List.isChain_iff_pairwise.1 hranks).imp Nat.ne_of_lt
  exact List.Nodup.of_map order.idxOf hnodup

end Storyline.Graph
