-- SUMMARY: A plan has every node once, behind the nodes that are guaranteed before it.
import Storyline.Proofs.Memory.Rearranged
import Storyline.Proofs.Memory.Told

/-!
# Plans

The nodes of a graph are exactly those that have a memory. A plan goes through them in the order in which their
guaranteed nodes were found, so it is made if memories can be prepared at all, and what is guaranteed before a
node stands in front of it.
-/

namespace Storyline.Memory

open Storyline.Graph

variable {graph : Graph} {config : MemoryConfig} {memory : Memory} {front behind : List NodeId}
  {id other : NodeId}

/-- Prepared memories are those that an order of the graph gives. -/
theorem eq_of_ofGraph (h : ofGraph graph config = .ok memory) :
    graph.topologicalOrder = .ok memory.order ∧
      memory = ⟨graph, config, memory.order, guaranteedIn graph memory.order⟩ := by
  unfold ofGraph at h
  cases horder : graph.topologicalOrder with
  | error error =>
    rw [horder] at h
    cases h
  | ok order =>
    rw [horder] at h
    cases h
    exact ⟨rfl, rfl⟩

/-- The nodes of the graph, and no others, have a set. -/
theorem exists_guaranteedAncestors?_iff (h : ofGraph graph config = .ok memory) :
    (∃ set, memory.guaranteedAncestors? id = some set) ↔ graph.contains id = true := by
  obtain ⟨horder, hmemory⟩ := eq_of_ofGraph h
  rw [hmemory, ← Option.ne_none_iff_exists']
  exact get?_guaranteedIn_ne_none_iff horder

/-- The nodes of the graph, and no others, have a memory. -/
theorem exists_text_iff (h : ofGraph graph config = .ok memory) :
    (∃ text, memory.text id = .ok text) ↔ graph.contains id = true := by
  rw [← exists_guaranteedAncestors?_iff h]
  constructor
  · rintro ⟨text, htext⟩
    rw [← Option.ne_none_iff_exists']
    intro hnone
    rw [Memory.text, hnone] at htext
    cases htext
  · rintro ⟨set, hset⟩
    obtain ⟨text, htext, -⟩ := text_eq_ok hset
    exact ⟨text, htext⟩

/-- What is guaranteed before a node stands in front of it. -/
theorem mem_front_of_guaranteed (h : ofGraph graph config = .ok memory)
    (hsplit : memory.order = front ++ id :: behind) {set : NameSet}
    (hset : memory.guaranteedAncestors? id = some set) (hother : set.contains other = true) :
    other ∈ front := by
  obtain ⟨horder, hmemory⟩ := eq_of_ofGraph h
  have hcertain : Certain graph memory.order id other := by
    rw [hmemory] at hset
    exact ⟨set, hset, hother⟩
  have hlt := (hcertain.before horder).2
  have hnodup := (perm_of_topologicalOrder horder).nodup_iff.2 graph.ids_nodup
  rw [hsplit] at hlt hnodup
  have hnew : id ∉ front := fun hmem =>
    (List.nodup_append.1 hnodup).2.2 id hmem id List.mem_cons_self rfl
  rw [List.idxOf_append_of_notMem hnew, List.idxOf_cons_self] at hlt
  by_contra hlater
  rw [List.idxOf_append_of_notMem hlater] at hlt
  omega

/-! ## Making a plan -/

/-- Calls that all succeed can be made in a row. Each result leads back to what it was made from. -/
theorem exists_mapM_ok {α β ε : Type} {call : α → Except ε β} {back : β → α} {Holds : β → Prop}
    {items : List α} (h : ∀ a ∈ items, ∃ b, call a = .ok b ∧ back b = a ∧ Holds b) :
    ∃ results, items.mapM call = .ok results ∧ results.map back = items ∧ ∀ b ∈ results, Holds b := by
  induction items with
  | nil => exact ⟨[], rfl, rfl, List.forall_mem_nil _⟩
  | cons a rest ih =>
    obtain ⟨⟨b, hb, rfl, hholds⟩, hrest⟩ := List.forall_mem_cons.1 h
    obtain ⟨results, hresults, hback, hall⟩ := ih hrest
    refine ⟨b :: results, ?_, congrArg (back b :: ·) hback, List.forall_mem_cons.2 ⟨hholds, hall⟩⟩
    rw [List.mapM_cons, hb, hresults]
    rfl

/-- Once memories are prepared a plan is made. It has the nodes in their order, with their memories. -/
theorem plan_eq_ok (h : ofGraph graph config = .ok memory) :
    ∃ steps, memory.plan = .ok steps ∧ steps.map (·.node) = memory.order ∧
      ∀ step ∈ steps, memory.text step.node = .ok step.memory := by
  apply exists_mapM_ok
  intro id hid
  have hknown := mem_ids.1 ((perm_of_topologicalOrder (eq_of_ofGraph h).1).mem_iff.1 hid)
  obtain ⟨text, htext⟩ := (exists_text_iff h).2 hknown
  refine ⟨⟨id, memory.summary id, text⟩, ?_, rfl, htext⟩
  rw [htext]
  rfl

/-- A plan has every node of the graph once, with its memory, and what is guaranteed before a node stands in
front of it. -/
theorem plan_complete (h : ofGraph graph config = .ok memory) :
    ∃ steps, memory.plan = .ok steps ∧ (steps.map (·.node)).Nodup ∧
      (∀ id, id ∈ steps.map (·.node) ↔ graph.contains id = true) ∧
      ∀ front step behind, steps = front ++ step :: behind →
        memory.text step.node = .ok step.memory ∧
        ∃ set, memory.guaranteedAncestors? step.node = some set ∧
          ∀ id, set.contains id = true → id ∈ front.map (·.node) := by
  obtain ⟨steps, hplan, horder, htexts⟩ := plan_eq_ok h
  have hperm := perm_of_topologicalOrder (eq_of_ofGraph h).1
  rw [← horder] at hperm
  have hmem (id : NodeId) : id ∈ steps.map (·.node) ↔ graph.contains id = true :=
    hperm.mem_iff.trans mem_ids
  refine ⟨steps, hplan, hperm.nodup_iff.2 graph.ids_nodup, hmem, ?_⟩
  rintro front step behind rfl
  have hstep : step ∈ front ++ step :: behind := List.mem_append_right front List.mem_cons_self
  have hknown := (hmem step.node).1 (List.mem_map_of_mem hstep)
  obtain ⟨set, hset⟩ := (exists_guaranteedAncestors?_iff h).2 hknown
  have hsplit : memory.order = front.map (·.node) ++ step.node :: behind.map (·.node) := by
    rw [← horder, List.map_append, List.map_cons]
  exact ⟨htexts step hstep, set, hset, fun id => mem_front_of_guaranteed h hsplit hset⟩

end Storyline.Memory
