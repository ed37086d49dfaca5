-- SUMMARY: A graph can be put in order if and only if it has no cycle, and validation reports the first fault.
import Mathlib.Data.Set.Card
import Mathlib.Logic.Relation
import Storyline.Proofs.Graph.Countdown
import Storyline.Proofs.Graph.Valid

/-!
# Cycles

A node can be placed if and only if it neither lies on a cycle nor can be reached from one. A node behind a
cycle has a parent behind a cycle, so none of them is ever ready. The other nodes are finitely many and free of
cycles, so what follows for a node from its parents holds for them. Hence `OrderAnswer`: there is an order if
and only if there is no cycle, and otherwise the error counts the nodes that are not behind a cycle. `Verdict`
says the same of validation, which looks for unknown ends of edges and for the root first.

Main statement: `order_and_validate_exact`.
-/

namespace Storyline.Graph

open Relation

/-! ## Nodes behind cycles -/

/-- Does an edge lead from one node to the other, and are both known? -/
def Joins (graph : Graph) (source target : NodeId) : Prop :=
  graph.contains source = true ∧ graph.contains target = true ∧ graph.Leads source target

/-- Do edges between known nodes lead from the node back to it? -/
def OnCycle (graph : Graph) (id : NodeId) : Prop :=
  TransGen graph.Joins id id

/-- Does the node lie on a cycle, or can it be reached from one? -/
def BehindCycle (graph : Graph) (id : NodeId) : Prop :=
  ∃ start, graph.OnCycle start ∧ ReflTransGen graph.Joins start id

/-- Is there a cycle of edges between known nodes? -/
def Cyclic (graph : Graph) : Prop :=
  ∃ id, graph.OnCycle id

/-- The nodes that neither lie on a cycle nor can be reached from one. -/
def cycleFree (graph : Graph) : Set NodeId :=
  {id | graph.contains id = true ∧ ¬graph.BehindCycle id}

variable {graph : Graph} {id source target : NodeId}

theorem OnCycle.behindCycle (h : graph.OnCycle id) : graph.BehindCycle id :=
  ⟨id, h, .refl⟩

theorem OnCycle.contains (h : graph.OnCycle id) : graph.contains id = true := by
  obtain ⟨next, hjoins, -⟩ := TransGen.head'_iff.1 h
  exact hjoins.1

theorem BehindCycle.tail (h : graph.BehindCycle source) (hjoins : graph.Joins source target) :
    graph.BehindCycle target := by
  obtain ⟨start, hcycle, hreach⟩ := h
  exact ⟨start, hcycle, hreach.tail hjoins⟩

theorem BehindCycle.exists_parent (h : graph.BehindCycle id) :
    ∃ parent, graph.Joins parent id ∧ graph.BehindCycle parent := by
  obtain ⟨start, hcycle, hreach⟩ := h
  rcases hreach.cases_tail with rfl | ⟨parent, hreach, hjoins⟩
  · obtain ⟨parent, hreach, hjoins⟩ := TransGen.tail'_iff.1 hcycle
    exact ⟨parent, hjoins, id, hcycle, hreach⟩
  · exact ⟨parent, hjoins, start, hcycle, hreach⟩

theorem finite_cycleFree (graph : Graph) : graph.cycleFree.Finite :=
  graph.ids.finite_toSet.subset fun _ hid => mem_ids.2 hid.1

/-- Finitely many nodes without a cycle: going from parent to parent ends. -/
theorem wellFounded_cycleFree (graph : Graph) :
    WellFounded fun first second : graph.cycleFree => TransGen graph.Joins first second := by
  have : Finite graph.cycleFree := graph.finite_cycleFree
  have : IsTrans graph.cycleFree fun first second => TransGen graph.Joins first second :=
    ⟨fun _ _ _ => TransGen.trans⟩
  have : Std.Irrefl fun first second : graph.cycleFree => TransGen graph.Joins first second :=
    ⟨fun id hcycle => id.2.2 (OnCycle.behindCycle hcycle)⟩
  exact Finite.wellFounded_of_trans_of_irrefl _

/-- Those nodes can be placed that are not behind a cycle. -/
theorem mem_placed_iff : id ∈ graph.placed ↔ id ∈ graph.cycleFree := by
  constructor
  · have hplaced : ∀ id ∈ graph.placed, ¬graph.BehindCycle id := by
      apply placed_induction
      intro id _ hparents hbehind
      obtain ⟨parent, ⟨hknown, -, hleads⟩, hparent⟩ := hbehind.exists_parent
      exact hparents parent hknown hleads hparent
    exact fun hid => ⟨(mem_placed.1 hid).1, hplaced id hid⟩
  · intro hfree
    apply graph.wellFounded_cycleFree.induction (C := fun id => id.1 ∈ graph.placed) ⟨id, hfree⟩
    rintro ⟨id, hknown, hnot⟩ ih
    refine mem_placed.2 ⟨hknown, ?_⟩
    intro parent hparent hleads
    have hjoins : graph.Joins parent id := ⟨hparent, hknown, hleads⟩
    exact ih ⟨parent, hparent, fun hbehind => hnot (hbehind.tail hjoins)⟩ (.single hjoins)

theorem length_placed (graph : Graph) : graph.placed.length = graph.cycleFree.ncard := by
  have hset : graph.cycleFree = graph.placed.toFinset := by
    ext id
    rw [← mem_placed_iff, Finset.mem_coe, List.mem_toFinset]
  rw [hset, Set.ncard_coe_finset, List.toFinset_card_of_nodup graph.nodup_placed]

/-! ## Orders -/

/-- Is this the right answer to the question for an order? -/
inductive OrderAnswer (graph : Graph) : Except GraphError (List NodeId) → Prop
  | order {order : List NodeId} (hacyclic : ¬graph.Cyclic) (hnodes : order.Perm graph.ids)
    (hrises : ∀ source target, graph.Joins source target → order.idxOf source < order.idxOf target) :
    OrderAnswer graph (.ok order)
  | cycle (hcyclic : graph.Cyclic) : OrderAnswer graph (.error (.cycle graph.cycleFree.ncard graph.size))

theorem length_placed_eq_size_iff : graph.placed.length = graph.size ↔ ¬graph.Cyclic := by
  have hsubset : graph.placed ⊆ graph.ids := fun id hid => mem_ids.2 (mem_placed.1 hid).1
  have hsize : graph.ids.length = graph.size := List.length_map _
  constructor
  · rintro hlength ⟨id, hcycle⟩
    have hperm : graph.placed.Perm graph.ids :=
      (List.subperm_of_subset graph.nodup_placed hsubset).perm_of_length_le (by omega)
    have hid : id ∈ graph.placed := hperm.mem_iff.2 (mem_ids.2 hcycle.contains)
    exact (mem_placed_iff.1 hid).2 hcycle.behindCycle
  · intro hacyclic
    have hall : graph.ids ⊆ graph.placed := by
      intro id hid
      refine mem_placed_iff.2 ⟨mem_ids.1 hid, ?_⟩
      rintro ⟨start, hcycle, -⟩
      exact hacyclic ⟨start, hcycle⟩
    have hle := (List.subperm_of_subset graph.ids_nodup hall).length_le
    have hge := (List.subperm_of_subset graph.nodup_placed hsubset).length_le
    rw [← hsize]
    exact Nat.le_antisymm hge hle

theorem topologicalOrder_of_cyclic (h : graph.Cyclic) :
    graph.topologicalOrder = .error (.cycle graph.cycleFree.ncard graph.size) := by
  have hlength : ¬graph.placed.length = graph.size := fun hlength => length_placed_eq_size_iff.1 hlength h
  rw [← length_placed]
  exact if_neg hlength

theorem topologicalOrder_of_not_cyclic (h : ¬graph.Cyclic) :
    graph.topologicalOrder = .ok graph.placed :=
  if_pos (length_placed_eq_size_iff.2 h)

theorem orderAnswer_topologicalOrder (graph : Graph) : graph.OrderAnswer graph.topologicalOrder := by
  by_cases h : graph.Cyclic
  · rw [topologicalOrder_of_cyclic h]
    exact .cycle h
  · have horder := topologicalOrder_of_not_cyclic h
    rw [horder]
    refine .order h (perm_of_topologicalOrder horder) ?_
    rintro source target ⟨hsource, htarget, hleads⟩
    exact idxOf_lt_of_leads horder hsource htarget hleads

/-! ## Validation -/

/-- Does the edge join known nodes? -/
def Anchored (graph : Graph) (edge : Edge) : Prop :=
  graph.contains edge.source = true ∧ graph.contains edge.target = true

/-- Is this the right answer of validation: the first unknown end of an edge, else the missing root, else the
cycle? -/
inductive Verdict (graph : Graph) : Except GraphError Unit → Prop
  | valid (hends : ∀ edge ∈ graph.edges, graph.Anchored edge) (hroot : graph.contains graph.root = true)
    (hacyclic : ¬graph.Cyclic) : Verdict graph (.ok ())
  | unknownSource {front behind : List Edge} {edge : Edge} (hsplit : graph.edges = front ++ edge :: behind)
    (hfront : ∀ edge ∈ front, graph.Anchored edge) (hsource : graph.contains edge.source = false) :
    Verdict graph (.error (.unknownEndpoint edge edge.source))
  | unknownTarget {front behind : List Edge} {edge : Edge} (hsplit : graph.edges = front ++ edge :: behind)
    (hfront : ∀ edge ∈ front, graph.Anchored edge) (hsource : graph.contains edge.source = true)
    (htarget : graph.contains edge.target = false) :
    Verdict graph (.error (.unknownEndpoint edge edge.target))
  | missingRoot (hends : ∀ edge ∈ graph.edges, graph.Anchored edge)
    (hroot : graph.contains graph.root = false) : Verdict graph (.error (.missingRoot graph.root))
  | cycle (hends : ∀ edge ∈ graph.edges, graph.Anchored edge) (hroot : graph.contains graph.root = true)
    (hcyclic : graph.Cyclic) : Verdict graph (.error (.cycle graph.cycleFree.ncard graph.size))

theorem missingEndpoint?_eq_none_iff {edge : Edge} :
    graph.missingEndpoint? edge = none ↔ graph.Anchored edge := by
  simp [missingEndpoint?, Anchored]

theorem validate_of_anchored (h : ∀ edge ∈ graph.edges, graph.Anchored edge) :
    graph.validate = if graph.contains graph.root then graph.topologicalOrder.map fun _ => ()
      else .error (.missingRoot graph.root) := by
  have hnone : (graph.edges.findSome? fun edge => (graph.missingEndpoint? edge).map fun id => (edge, id)) =
      none := by
    rw [List.findSome?_eq_none_iff]
    intro edge hedge
    rw [missingEndpoint?_eq_none_iff.2 (h edge hedge), Option.map_none]
  rw [validate, hnone]

theorem validate_of_missingEndpoint? {front behind : List Edge} {edge : Edge} {missing : NodeId}
    (hsplit : graph.edges = front ++ edge :: behind) (hfront : ∀ edge ∈ front, graph.Anchored edge)
    (hmissing : graph.missingEndpoint? edge = some missing) :
    graph.validate = .error (.unknownEndpoint edge missing) := by
  have hsome : (graph.edges.findSome? fun edge => (graph.missingEndpoint? edge).map fun id => (edge, id)) =
      some (edge, missing) := by
    rw [List.findSome?_eq_some_iff]
    refine ⟨front, edge, behind, hsplit, by rw [hmissing, Option.map_some], ?_⟩
    intro other hother
    rw [missingEndpoint?_eq_none_iff.2 (hfront other hother), Option.map_none]
  rw [validate, hsome]

theorem validate_of_verdict {answer : Except GraphError Unit} (h : graph.Verdict answer) :
    graph.validate = answer := by
  cases h with
  | valid hends hroot hacyclic =>
    rw [validate_of_anchored hends, if_pos hroot, topologicalOrder_of_not_cyclic hacyclic]
    rfl
  | unknownSource hsplit hfront hsource =>
    exact validate_of_missingEndpoint? hsplit hfront (by simp [missingEndpoint?, hsource])
  | unknownTarget hsplit hfront hsource htarget =>
    exact validate_of_missingEndpoint? hsplit hfront (by simp [missingEndpoint?, hsource, htarget])
  | missingRoot hends hroot => rw [validate_of_anchored hends, hroot, if_neg Bool.false_ne_true]
  | cycle hends hroot hcyclic =>
    rw [validate_of_anchored hends, if_pos hroot, topologicalOrder_of_cyclic hcyclic]
    rfl

theorem exists_verdict (graph : Graph) : ∃ answer, graph.Verdict answer := by
  cases hfound : graph.edges.findSome? graph.missingEndpoint? with
  | some missing =>
    obtain ⟨front, edge, behind, hsplit, hedge, hnone⟩ := List.findSome?_eq_some_iff.1 hfound
    have hfront : ∀ edge ∈ front, graph.Anchored edge := fun other hother =>
      missingEndpoint?_eq_none_iff.1 (hnone other hother)
    cases hsource : graph.contains edge.source with
    | false => exact ⟨_, .unknownSource hsplit hfront hsource⟩
    | true =>
      cases htarget : graph.contains edge.target with
      | false => exact ⟨_, .unknownTarget hsplit hfront hsource htarget⟩
      | true =>
        rw [missingEndpoint?_eq_none_iff.2 ⟨hsource, htarget⟩] at hedge
        cases hedge
  | none =>
    have hends : ∀ edge ∈ graph.edges, graph.Anchored edge := fun edge hedge =>
      missingEndpoint?_eq_none_iff.1 (List.findSome?_eq_none_iff.1 hfound edge hedge)
    cases hroot : graph.contains graph.root with
    | false => exact ⟨_, .missingRoot hends hroot⟩
    | true =>
      by_cases hcyclic : graph.Cyclic
      · exact ⟨_, .cycle hends hroot hcyclic⟩
      · exact ⟨_, .valid hends hroot hcyclic⟩

theorem validate_eq_iff {answer : Except GraphError Unit} : graph.validate = answer ↔ graph.Verdict answer := by
  refine ⟨?_, validate_of_verdict⟩
  obtain ⟨right, hright⟩ := graph.exists_verdict
  rintro rfl
  rwa [validate_of_verdict hright]

/-! ## Both answers -/

/-- Whatever edges a graph has, no count of parents falls below zero while its nodes are placed, and the
answers to the questions for an order and for a fault are the right ones. -/
theorem order_and_validate_exact (graph : Graph) :
    (∀ more, graph.place? (graph.size + more) graph.firstReady graph.firstWaiting = some graph.placed) ∧
      graph.OrderAnswer graph.topologicalOrder ∧
      ∀ answer, graph.validate = answer ↔ graph.Verdict answer :=
  ⟨graph.place?_eq_placed, graph.orderAnswer_topologicalOrder, fun _ => validate_eq_iff⟩

end Storyline.Graph
