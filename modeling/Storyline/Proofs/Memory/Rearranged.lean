-- SUMMARY: A memory does not depend on the order in which nodes and edges were added to the graph.
import Storyline.Proofs.Graph.Rearranged
import Storyline.Proofs.Memory.Guaranteed
import Storyline.Proofs.NameSet

/-!
# Memories of rearranged graphs

Entries are dropped by their places in the topological order, and in which order the nodes are put depends on
how the graph was built. Memories do not depend on that, because the nodes that are guaranteed before one node
form a chain: of two of them, one is guaranteed before the other and comes before it in every order.
-/

namespace Storyline.Memory

open Storyline.Graph

variable {graph other : Graph} {config : MemoryConfig} {id node first second : NodeId}
  {order order' : List NodeId}

/-! ## Certain nodes -/

/-- Is a node certain before `id`, when the nodes are gone through in this order? -/
def Certain (graph : Graph) (order : List NodeId) (id node : NodeId) : Prop :=
  ∃ set, (guaranteedIn graph order).get? id = some set ∧ set.contains node = true

/-- Known nodes have sets, and no others. -/
theorem get?_guaranteedIn_eq_none_iff (horder : graph.topologicalOrder = .ok order) :
    (guaranteedIn graph order).get? id = none ↔ graph.contains id = false := by
  constructor
  · intro hnone
    by_contra hid
    rw [Bool.not_eq_false] at hid
    cases hnone.symm.trans (get?_guaranteedIn horder hid)
  · intro hid
    apply get?_guaranteedIn_of_not_mem
    rw [(perm_of_topologicalOrder horder).mem_iff, mem_ids, hid]
    exact Bool.false_ne_true

theorem get?_guaranteedIn_ne_none_iff (horder : graph.topologicalOrder = .ok order) :
    (guaranteedIn graph order).get? id ≠ none ↔ graph.contains id = true := by
  rw [Ne, get?_guaranteedIn_eq_none_iff horder, Bool.not_eq_false]

/-- Only known parents decide what is certain. -/
theorem certain_iff (horder : graph.topologicalOrder = .ok order) :
    Certain graph order id node ↔ graph.contains id = true ∧
      (∃ parent, graph.contains parent = true ∧ graph.Leads parent id) ∧
        ∀ parent, graph.contains parent = true → graph.Leads parent id →
          node = parent ∨ Certain graph order parent node := by
  unfold Certain
  cases hid : graph.contains id with
  | false => simp [(get?_guaranteedIn_eq_none_iff horder).2 hid]
  | true =>
    simp only [get?_guaranteedIn horder hid, Option.some.injEq, exists_eq_left', true_and,
      contains_certainBefore, get?_guaranteedIn_ne_none_iff horder, mem_parents]
    apply and_congr
    · exact exists_congr fun _ => and_comm
    · apply forall_congr'
      intro parent
      constructor
      · intro hall hknown hleads
        have hset := get?_guaranteedIn horder hknown
        exact (hall hleads _ hset).imp_right fun hnode => ⟨_, hset, hnode⟩
      · intro hall hleads above habove
        have hknown := (get?_guaranteedIn_ne_none_iff horder).1 (habove ▸ Option.some_ne_none above)
        apply (hall hknown hleads).imp_right
        rintro ⟨set, hset, hnode⟩
        cases habove.symm.trans hset
        exact hnode

/-- What is certain before a node is a node and comes before it. -/
theorem Certain.before (horder : graph.topologicalOrder = .ok order)
    (h : Certain graph order id node) :
    graph.contains node = true ∧ order.idxOf node < order.idxOf id := by
  have hid := ((certain_iff horder).1 h).1
  revert h
  apply induction_of_topologicalOrder horder _ hid
  intro id hid ih h
  obtain ⟨-, ⟨parent, hknown, hleads⟩, hall⟩ := (certain_iff horder).1 h
  have hlt := idxOf_lt_of_leads horder hknown hid hleads
  rcases hall parent hknown hleads with rfl | habove
  · exact ⟨hknown, hlt⟩
  · obtain ⟨hnode, hless⟩ := ih parent hknown hleads habove
    exact ⟨hnode, hless.trans hlt⟩

/-- Of two nodes that are certain before a node, one is certain before the other. -/
theorem Certain.chain (horder : graph.topologicalOrder = .ok order)
    (hfirst : Certain graph order id first) (hsecond : Certain graph order id second) :
    first = second ∨ Certain graph order second first ∨ Certain graph order first second := by
  have hid := ((certain_iff horder).1 hfirst).1
  revert hfirst hsecond
  apply induction_of_topologicalOrder horder _ hid
  intro id hid ih hfirst hsecond
  obtain ⟨-, ⟨parent, hknown, hleads⟩, hall⟩ := (certain_iff horder).1 hfirst
  rcases hall parent hknown hleads with rfl | hfirst
  · rcases ((certain_iff horder).1 hsecond).2.2 first hknown hleads with rfl | hsecond
    · exact .inl rfl
    · exact .inr (.inr hsecond)
  · rcases ((certain_iff horder).1 hsecond).2.2 parent hknown hleads with rfl | hsecond
    · exact .inr (.inl hfirst)
    · exact ih parent hknown hleads hfirst hsecond

section Rearranged

variable (h : graph.Rearranges other) (horder : graph.topologicalOrder = .ok order)
  (horder' : other.topologicalOrder = .ok order')

include h horder horder'

theorem certain_rearranged :
    Certain graph order id node ↔ Certain other order' id node := by
  cases hid : graph.contains id with
  | false =>
    rw [certain_iff horder, certain_iff horder', ← h.contains_eq, hid]
    simp
  | true =>
    apply induction_of_topologicalOrder horder _ hid
    intro id hid ih
    rw [certain_iff horder, certain_iff horder']
    simp only [← h.contains_eq, ← h.leads_iff]
    apply and_congr_right'
    apply and_congr_right'
    apply forall₃_congr
    intro parent hknown hleads
    rw [ih parent hknown hleads]

/-- Rearranged graphs have the same guaranteed nodes. -/
theorem get?_guaranteedIn_rearranged (id : NodeId) :
    (guaranteedIn graph order).get? id = (guaranteedIn other order').get? id := by
  cases hid : graph.contains id with
  | false =>
    rw [(get?_guaranteedIn_eq_none_iff horder).2 hid,
      (get?_guaranteedIn_eq_none_iff horder').2 (h.contains_eq id ▸ hid)]
  | true =>
    have hset := get?_guaranteedIn horder hid
    have hset' := get?_guaranteedIn horder' (h.contains_eq id ▸ hid)
    rw [hset, hset']
    apply congrArg some
    apply NameSet.ext_contains
    intro node
    have hcertain : Certain graph order id node ↔ Certain other order' id node :=
      certain_rearranged h horder horder'
    simpa only [Certain, hset, hset', Option.some.injEq, exists_eq_left'] using hcertain

/-- Two nodes that are certain before the same node have the same order in all orders. -/
theorem Certain.idxOf_le_iff (hfirst : Certain graph order id first)
    (hsecond : Certain graph order id second) :
    order.idxOf first ≤ order.idxOf second ↔ order'.idxOf first ≤ order'.idxOf second := by
  have hbefore {earlier later : NodeId} (hcertain : Certain graph order later earlier) :
      order.idxOf earlier < order.idxOf later ∧ order'.idxOf earlier < order'.idxOf later :=
    ⟨(hcertain.before horder).2, (((certain_rearranged h horder horder').1 hcertain).before horder').2⟩
  rcases hfirst.chain horder hsecond with rfl | hcertain | hcertain
  · exact iff_of_true (Nat.le_refl _) (Nat.le_refl _)
  · obtain ⟨hlt, hlt'⟩ := hbefore hcertain
    exact iff_of_true hlt.le hlt'.le
  · obtain ⟨hlt, hlt'⟩ := hbefore hcertain
    exact iff_of_false hlt.not_ge hlt'.not_ge

end Rearranged

/-! ## Bounded texts -/

/-- Dropping the oldest entries goes by their places and lengths. -/
theorem survivors_map {change : Entry → Entry} (htext : ∀ entry, (change entry).text = entry.text)
    (maxChars total : Nat) (entries : List Entry) :
    survivors maxChars total (entries.map change) = (survivors maxChars total entries).map change := by
  fun_induction survivors maxChars total entries with
  | case1 total oldest next rest hfits => simp only [List.map_cons, survivors, if_pos hfits]
  | case2 total oldest next rest hlong ih =>
    simp only [List.map_cons] at ih
    simp only [List.map_cons, survivors, if_neg hlong, htext, ih]
  | case3 total entries hshort =>
    match entries with
    | [] | [_] => rfl
    | oldest :: next :: rest => exact (hshort oldest next rest rfl).elim

theorem survivors_subset (maxChars total : Nat) (entries : List Entry) :
    survivors maxChars total entries ⊆ entries := by
  fun_induction survivors maxChars total entries with
  | case1 => exact List.Subset.refl _
  | case2 total oldest next rest _ ih => exact List.subset_cons_of_subset oldest ih
  | case3 => exact List.Subset.refl _

theorem join_map {change : Entry → Entry} (htext : ∀ entry, (change entry).text = entry.text)
    (entries : List Entry) : join (entries.map change) = join entries := by
  simp only [join, List.map_map, Function.comp_def, htext]

/-- A text does not depend on how old its entries are as long as the same ones are older than others. -/
theorem bounded_map {change : Entry → Entry} {entries : List Entry}
    (htext : ∀ entry, (change entry).text = entry.text)
    (hinjective : ∀ a ∈ entries, ∀ b ∈ entries, change a = change b → a = b)
    (hage : ∀ a ∈ entries, ∀ b ∈ entries, a.age ≤ b.age ↔ (change a).age ≤ (change b).age)
    (maxChars : Nat) : bounded maxChars (entries.map change) = bounded maxChars entries := by
  have hsort : (entries.map change).mergeSort (fun a b => a.age ≤ b.age) =
      (entries.mergeSort fun a b => a.age ≤ b.age).map change := by
    symm
    apply List.map_mergeSort
    intro a ha b hb
    exact decide_eq_decide.2 (hage a ha b hb)
  have hkept : ∀ kept ⊆ entries, entries.filter ((kept.map change).contains ∘ change) =
      entries.filter kept.contains := by
    intro kept hsubset
    apply List.filter_congr
    intro entry hentry
    rw [Function.comp_apply, Bool.eq_iff_iff, List.contains_iff_mem, List.contains_iff_mem, List.mem_map]
    constructor
    · rintro ⟨same, hsame, hchange⟩
      exact hinjective same (hsubset hsame) entry hentry hchange ▸ hsame
    · intro hentry
      exact ⟨entry, hentry, rfl⟩
  have hsubset : survivors maxChars (join entries).length
      (entries.mergeSort fun a b => a.age ≤ b.age) ⊆ entries :=
    fun _ hentry => List.mem_mergeSort.1 (survivors_subset _ _ _ hentry)
  simp only [bounded, hsort, join_map htext, survivors_map htext, List.filter_map, hkept _ hsubset]

/-! ## Memories -/

/-- The entry of the same node where the nodes are in another order. -/
def Entry.inOrder (order : List NodeId) (entry : Entry) : Entry :=
  { entry with age := order.idxOf entry.id }

section Texts

variable (h : graph.Rearranges other) (horder : graph.topologicalOrder = .ok order)
  (horder' : other.topologicalOrder = .ok order') (config : MemoryConfig)

/-- What the entries of certain nodes say about their places. -/
theorem mem_entries {memory : Memory} {set : NameSet} {entry : Entry}
    (hentry : entry ∈ set.keys.filterMap memory.entryOf) :
    set.contains entry.id = true ∧ entry.age = memory.order.idxOf entry.id ∧
      memory.entryOf entry.id = some entry := by
  obtain ⟨key, hkey, hof⟩ := List.mem_filterMap.1 hentry
  obtain ⟨found, -, rfl⟩ := Option.map_eq_some_iff.1 hof
  exact ⟨SortedMap.mem_keys.1 hkey, rfl, hof⟩

include h in
theorem entries_rearranged {guaranteed guaranteed' : Guaranteed} (keys : List NodeId) :
    keys.filterMap (entryOf ⟨other, config, order', guaranteed'⟩) =
      (keys.filterMap (entryOf ⟨graph, config, order, guaranteed⟩)).map (Entry.inOrder order') := by
  rw [List.map_filterMap]
  apply List.filterMap_congr
  intro key _
  unfold entryOf
  rw [Option.map_map, ← h.nodes]
  rfl

include h horder horder'

theorem bounded_rearranged {set : NameSet} (hset : (guaranteedIn graph order).get? id = some set)
    (maxChars : Nat) :
    bounded maxChars (set.keys.filterMap
        (entryOf ⟨other, config, order', guaranteedIn other order'⟩)) =
      bounded maxChars (set.keys.filterMap
        (entryOf ⟨graph, config, order, guaranteedIn graph order⟩)) := by
  have htext (entry : Entry) : (entry.inOrder order').text = entry.text := rfl
  rw [entries_rearranged h]
  apply bounded_map htext
  · intro a ha b hb hsame
    have hid : a.id = b.id := (Entry.mk.inj hsame).2.1
    have hof := (mem_entries ha).2.2
    rw [hid, (mem_entries hb).2.2] at hof
    exact (Option.some.inj hof).symm
  · intro a ha b hb
    obtain ⟨hcertain, hage, -⟩ := mem_entries ha
    obtain ⟨hcertain', hage', -⟩ := mem_entries hb
    rw [hage, hage']
    exact Certain.idxOf_le_iff h horder horder' ⟨set, hset, hcertain⟩ ⟨set, hset, hcertain'⟩

theorem text_rearranged (id : NodeId) :
    text ⟨graph, config, order, guaranteedIn graph order⟩ id =
      text ⟨other, config, order', guaranteedIn other order'⟩ id := by
  have hsets := get?_guaranteedIn_rearranged h horder horder' id
  unfold text guaranteedAncestors?
  rw [← hsets]
  cases hset : (guaranteedIn graph order).get? id with
  | none => rfl
  | some set =>
    simp only [(h.parents id).isEmpty_eq, bounded_rearranged h horder horder' config hset]

end Texts

/-- However the nodes and the edges of a graph are arranged, all its memories are the same, or they cannot be
prepared for the same reason. -/
theorem text_eq_of_rearranges (h : graph.Rearranges other) (config : MemoryConfig) :
    (ofGraph graph config).map text = (ofGraph other config).map text := by
  rcases h.topologicalOrder_cases with ⟨order, order', horder, horder'⟩ | ⟨error, herror, herror'⟩
  · simp only [ofGraph, horder, horder', Except.map]
    exact congrArg Except.ok (funext (text_rearranged h horder horder' config))
  · simp only [ofGraph, herror, herror', Except.map]

/-- Two ways lead from the inn to the town, and on to the hall. Told from its end the story has another order,
and there is room for one of the three entries of the hall only. -/
theorem text_eq_of_rearranges_of_two_ways :
    let nodes : List Node := [("inn", "Dusk"), ("road", "Rain"), ("ferry", "Waves"),
      ("town", "Market"), ("gate", "Guards"), ("hall", "Feast")].map fun (id, summary) =>
        ⟨id, summary, .normal⟩
    let edges : List Edge := [("inn", "road"), ("inn", "ferry"), ("road", "town"),
      ("ferry", "town"), ("town", "gate"), ("gate", "hall")].map fun (source, target) =>
        ⟨source, target, none⟩
    let graph := edges.foldl Graph.addEdge (nodes.foldl Graph.addNode {})
    let other := edges.reverse.foldl Graph.addEdge (nodes.reverse.foldl Graph.addNode {})
    let config : MemoryConfig := { maxChars := 20 }
    graph.Rearranges other ∧
      graph.topologicalOrder = .ok ["inn", "road", "ferry", "town", "gate", "hall"] ∧
      other.topologicalOrder = .ok ["inn", "ferry", "road", "town", "gate", "hall"] ∧
      ((ofGraph graph config).toOption.bind (·.guaranteedAncestors? "hall")).map (·.keys) =
        some ["gate", "inn", "town"] ∧
      (ofGraph graph config).map text = (ofGraph other config).map text := by
  intro nodes edges graph other config
  have h : graph.Rearranges other := .of_perm (by decide +kernel) (by decide +kernel)
  exact ⟨h, by decide +kernel, by decide +kernel, by decide +kernel,
    text_eq_of_rearranges h config⟩

end Storyline.Memory
