-- SUMMARY: A memory drops its oldest entries, no more than it must, and only its fixed texts can be too long.
import Mathlib.Data.List.DropRight
import Storyline.Proofs.Graph.Cycle
import Storyline.Proofs.Memory.Planned

/-!
# Bounded memories

Entries are shown in the order of their ids, and they are dropped by their ages, their places in the order of the
story. The length of what is left is not measured again after a drop but counted down. The count is exact, so it
never falls below zero (`survivors?_eq`), and what is left are the latest entries from the first place on from
which they fit, or the last one (`survivors_eq_drop`). `KeepsLatest` says this of the texts that a memory shows.

The two fixed texts, for a node without parents and for one before which nothing is guaranteed, are not cut. They
are the only memories that can be too long.

Main statements: `text_keeps_latest` and `length_text_le_iff`.
-/

namespace Storyline.Memory

open Storyline.Graph

variable {graph : Graph} {config : MemoryConfig} {memory : Memory} {entries other : List Entry}
  {oldest next : Entry} {rest : List Entry} {nodes keys latest : List NodeId} {id : NodeId}

/-! ## Counting -/

/-- The length of joined entries, by adding up: their texts, and a line feed between two of them. -/
def total (entries : List Entry) : Nat :=
  (entries.map (·.text.length)).sum + (entries.length - 1)

theorem total_cons : total (oldest :: next :: rest) = oldest.text.length + 1 + total (next :: rest) := by
  simp only [total, List.map_cons, List.sum_cons, List.length_cons]
  omega

theorem total_perm (h : entries.Perm other) : total entries = total other := by
  rw [total, total, (h.map _).sum_eq, h.length_eq]

theorem join_cons : join (oldest :: next :: rest) = oldest.text ++ '\n' :: join (next :: rest) := by
  simp [join]

theorem length_join (entries : List Entry) : (join entries).length = total entries := by
  induction entries with
  | nil => rfl
  | cons oldest rest ih =>
    cases rest with
    | nil => simp [join, total]
    | cons next rest =>
      rw [join_cons, total_cons, List.length_append, List.length_cons, ih]
      omega

/-! ## Dropping -/

/-- Like `survivors`, but without an answer if the running total would fall below zero. -/
def survivors? (maxChars : Nat) : (total : Nat) → List Entry → Option (List Entry)
  | total, oldest :: next :: rest =>
    if total ≤ maxChars then some (oldest :: next :: rest)
    else if total < oldest.text.length + 1 then none
    else survivors? maxChars (total - (oldest.text.length + 1)) (next :: rest)
  | _, entries => some entries

/-- The running total is what is left to count. -/
theorem total_sub : total (oldest :: next :: rest) - (oldest.text.length + 1) = total (next :: rest) := by
  rw [total_cons, Nat.add_sub_cancel_left]

theorem survivors?_eq (maxChars : Nat) (entries : List Entry) :
    survivors? maxChars (total entries) entries = some (survivors maxChars (total entries) entries) := by
  induction entries with
  | nil => rfl
  | cons oldest rest ih =>
    cases rest with
    | nil => rfl
    | cons next rest =>
      have hcovers : ¬total (oldest :: next :: rest) < oldest.text.length + 1 := by
        rw [total_cons]
        omega
      rw [survivors?, survivors, if_neg hcovers, total_sub, ih]
      split <;> rfl

/-- What survives are the latest entries, from the first place on from which they fit, or the last one. -/
theorem survivors_eq_drop (maxChars : Nat) (h : entries ≠ []) :
    ∃ k < entries.length, survivors maxChars (total entries) entries = entries.drop k ∧
      (∀ j < k, maxChars < total (entries.drop j)) ∧
      (total (entries.drop k) ≤ maxChars ∨ k + 1 = entries.length) := by
  induction entries with
  | nil => exact absurd rfl h
  | cons oldest rest ih =>
    cases rest with
    | nil => exact ⟨0, Nat.one_pos, rfl, fun j hj => absurd hj j.not_lt_zero, .inr rfl⟩
    | cons next rest =>
      by_cases hfits : total (oldest :: next :: rest) ≤ maxChars
      · exact ⟨0, Nat.succ_pos _, if_pos hfits, fun j hj => absurd hj j.not_lt_zero, .inl hfits⟩
      · obtain ⟨k, hk, hdrop, hlong, hends⟩ := ih (List.cons_ne_nil next rest)
        refine ⟨k + 1, Nat.succ_lt_succ hk, ?_, ?_, hends.imp_right (congrArg (· + 1))⟩
        · rw [survivors, if_neg hfits, total_sub, hdrop, List.drop_succ_cons]
        · intro j hj
          cases j with
          | zero => exact Nat.lt_of_not_le hfits
          | succ j => exact hlong j (Nat.lt_of_succ_lt_succ hj)

/-! ## Entries of known nodes -/

/-- The line of a memory about a node. -/
def line (memory : Memory) (id : NodeId) : String :=
  "[" ++ id ++ "] " ++ memory.summary id

/-- The entry of a node that is known. -/
def entry (memory : Memory) (id : NodeId) : Entry where
  age := memory.order.idxOf id
  id := id
  text := (memory.line id).toList

/-- What a memory says that tells of these nodes: their lines, in the order of the ids. -/
def told (memory : Memory) (ids : List NodeId) : String :=
  "\n".intercalate ((NameSet.ofNames ids).keys.map memory.line)

theorem entryOf_of_known (h : memory.graph.contains id = true) :
    memory.entryOf id = some (memory.entry id) := by
  rw [← isSome_node?] at h
  obtain ⟨node, hnode⟩ := Option.isSome_iff_exists.1 h
  have hid : node.id = id := (node?_eq_some_iff.1 hnode).2
  rw [entryOf, entry, line, summary, hnode, Option.map_some, Option.map_some, Option.getD_some, hid]
  rfl

theorem filterMap_entryOf (h : ∀ id ∈ nodes, memory.graph.contains id = true) :
    nodes.filterMap memory.entryOf = nodes.map memory.entry := by
  rw [← List.filterMap_eq_map]
  exact List.filterMap_congr fun id hid => entryOf_of_known (h id hid)

theorem toList_told (memory : Memory) (ids : List NodeId) :
    (memory.told ids).toList = join ((NameSet.ofNames ids).keys.map memory.entry) := by
  rw [told, String.toList_intercalate, join, List.map_map, List.map_map]
  rfl

theorem perm_keys_ofNames (h : nodes.Nodup) : (NameSet.ofNames nodes).keys.Perm nodes := by
  rw [List.perm_ext_iff_of_nodup (NameSet.nodup_keys _) h]
  intro id
  rw [SortedMap.mem_keys, NameSet.contains_ofNames]

theorem length_told (memory : Memory) (h : nodes.Nodup) :
    (memory.told nodes).length = total (nodes.map memory.entry) := by
  rw [← String.length_toList, toList_told, length_join]
  exact total_perm ((perm_keys_ofNames h).map _)

/-! ## Orders -/

/-- The nodes of an order have the ages that say so. -/
theorem pairwise_age (horder : memory.order.Nodup) (hnodes : nodes.Sublist memory.order) :
    (nodes.map memory.entry).Pairwise fun a b => a.age < b.age := by
  rw [List.pairwise_map]
  refine List.Pairwise.sublist hnodes ?_
  rw [List.pairwise_iff_getElem]
  intro i j hi hj hlt
  simpa only [entry, horder.idxOf_getElem] using hlt

theorem entry_inj {first second : NodeId} (h : memory.entry first = memory.entry second) : first = second :=
  congrArg Entry.id h

/-- Sorting the entries by age gives those of the nodes in the order of the story. -/
theorem mergeSort_entries (horder : memory.order.Nodup) (hnodes : nodes.Sublist memory.order)
    (hkeys : nodes.Perm keys) :
    (keys.map memory.entry).mergeSort (fun a b => a.age ≤ b.age) = nodes.map memory.entry := by
  have hperm : ((keys.map memory.entry).mergeSort fun a b => a.age ≤ b.age).Perm (nodes.map memory.entry) :=
    (List.mergeSort_perm _ _).trans (hkeys.symm.map _)
  have hsorted : ((keys.map memory.entry).mergeSort fun a b => a.age ≤ b.age).Pairwise
      fun a b => decide (a.age ≤ b.age) = true :=
    List.pairwise_mergeSort (by simpa using fun _ _ _ => Nat.le_trans)
      (by simpa using fun _ _ => Nat.le_total _ _) _
  have hrises := pairwise_age horder hnodes
  refine hperm.eq_of_pairwise ?_ (hsorted.imp of_decide_eq_true) (hrises.imp Nat.le_of_lt)
  intro a b ha hb hab hba
  obtain ⟨first, hfirst, rfl⟩ := List.mem_map.1 (hperm.mem_iff.1 ha)
  obtain ⟨second, -, rfl⟩ := List.mem_map.1 hb
  have hage : memory.order.idxOf first = memory.order.idxOf second := Nat.le_antisymm hab hba
  rw [(List.idxOf_inj (hnodes.subset hfirst)).1 hage]

/-- The latest entries, shown in the order of the ids. -/
theorem filter_entries (set : NameSet) (hlatest : ∀ id ∈ latest, set.contains id = true) :
    (set.keys.map memory.entry).filter ((latest.map memory.entry).contains ·) =
      (NameSet.ofNames latest).keys.map memory.entry := by
  have hcontains (id : NodeId) : (latest.map memory.entry).contains (memory.entry id) = latest.contains id := by
    rw [Bool.eq_iff_iff, List.contains_iff_mem, List.contains_iff_mem]
    exact List.mem_map_of_injective fun _ _ => entry_inj
  rw [List.filter_map, ← NameSet.filter_keys hlatest]
  congr 1
  exact List.filter_congr fun id _ => hcontains id

/-! ## The latest entries -/

/-- Is this what a memory says that should tell of these nodes, given from the earliest to the latest one? Nodes
are left out from the front until the text fits, and no more of them. If not even the last one fits, the end of
its line is kept. -/
inductive KeepsLatest (memory : Memory) (nodes : List NodeId) : String → Prop
  | fits {k : Nat} (hk : k < nodes.length)
      (hlong : ∀ j < k, memory.config.maxChars < (memory.told (nodes.drop j)).length)
      (hfits : (memory.told (nodes.drop k)).length ≤ memory.config.maxChars) :
      KeepsLatest memory nodes (memory.told (nodes.drop k))
  | cut {front : List NodeId} {last : NodeId} (hsplit : nodes = front ++ [last])
      (hlong : ∀ j < nodes.length, memory.config.maxChars < (memory.told (nodes.drop j)).length) :
      KeepsLatest memory nodes (.ofList ((memory.line last).toList.rtake memory.config.maxChars))

theorem told_singleton (memory : Memory) (id : NodeId) : memory.told [id] = memory.line id :=
  String.intercalate_singleton

theorem length_rtake_le (maxChars : Nat) (text : List Char) : (text.rtake maxChars).length ≤ maxChars := by
  rw [List.rtake, List.length_drop]
  omega

theorem length_bounded_le (maxChars : Nat) (entries : List Entry) :
    (bounded maxChars entries).length ≤ maxChars :=
  length_rtake_le maxChars _

theorem KeepsLatest.length_le {text : String} (h : memory.KeepsLatest nodes text) :
    text.length ≤ memory.config.maxChars := by
  cases h with
  | fits _ _ hfits => exact hfits
  | cut => exact String.length_ofList.trans_le (length_rtake_le _ _)

/-- The bounded text of the entries of a set, of which the nodes are given in the order of the story. -/
theorem keepsLatest_bounded {set : NameSet} (horder : memory.order.Nodup) (hnodes : nodes.Sublist memory.order)
    (hset : nodes.Perm set.keys) (hne : nodes ≠ []) :
    memory.KeepsLatest nodes (.ofList (bounded memory.config.maxChars (set.keys.map memory.entry))) := by
  have hentries : nodes.map memory.entry ≠ [] := mt List.map_eq_nil_iff.1 hne
  obtain ⟨k, hk, hdrop, hlong, hends⟩ := survivors_eq_drop memory.config.maxChars hentries
  have hlength (j : Nat) : total ((nodes.map memory.entry).drop j) = (memory.told (nodes.drop j)).length := by
    rw [length_told memory ((horder.sublist hnodes).sublist (List.drop_sublist j nodes)), List.map_drop]
  simp only [hlength, List.length_map] at hk hlong hends
  have hbounded : bounded memory.config.maxChars (set.keys.map memory.entry) =
      (memory.told (nodes.drop k)).toList.rtake memory.config.maxChars := by
    have hlatest : ∀ id ∈ nodes.drop k, set.contains id = true := fun id hid =>
      SortedMap.mem_keys.1 (hset.mem_iff.1 (List.mem_of_mem_drop hid))
    have htotal := total_perm (hset.symm.map memory.entry)
    simp only [bounded, mergeSort_entries horder hnodes hset, length_join, htotal, hdrop, ← List.map_drop,
      filter_entries set hlatest, ← toList_told, List.rtake]
  rw [hbounded]
  by_cases hfits : (memory.told (nodes.drop k)).length ≤ memory.config.maxChars
  · rw [List.rtake, String.length_toList, Nat.sub_eq_zero_of_le hfits, List.drop_zero, String.ofList_toList]
    exact .fits hk hlong hfits
  · have hlast : (nodes.drop k).length = 1 := by
      rw [List.length_drop]
      omega
    obtain ⟨last, hlast⟩ := List.length_eq_one_iff.1 hlast
    have hsplit : nodes = nodes.take k ++ [last] := by rw [← hlast, List.take_append_drop]
    rw [hlast, told_singleton]
    refine .cut hsplit ?_
    intro j hj
    rcases Nat.lt_or_ge j k with hearlier | hlater
    · exact hlong j hearlier
    · obtain rfl : j = k := by omega
      exact Nat.lt_of_not_le hfits

/-! ## Memories -/

/-- Like `bounded`, with the length added up and without an answer if the running total would fall below zero. -/
def bounded? (maxChars : Nat) (entries : List Entry) : Option (List Char) :=
  (survivors? maxChars (total entries) (entries.mergeSort fun a b => a.age ≤ b.age)).map fun kept =>
    let text := join (entries.filter (kept.contains ·))
    text.drop (text.length - maxChars)

theorem bounded?_eq (maxChars : Nat) (entries : List Entry) :
    bounded? maxChars entries = some (bounded maxChars entries) := by
  have htotal : total entries = total (entries.mergeSort fun a b => a.age ≤ b.age) :=
    (total_perm (List.mergeSort_perm _ _)).symm
  rw [bounded?, htotal, survivors?_eq, Option.map_some, ← htotal, ← length_join]
  rfl

theorem contains_of_guaranteed (h : ofGraph graph config = .ok memory) {set : NameSet} {other : NodeId}
    (hset : memory.guaranteedAncestors? id = some set) (hother : set.contains other = true) :
    graph.contains other = true := by
  obtain ⟨horder, hmemory⟩ := eq_of_ofGraph h
  rw [hmemory] at hset
  exact (Certain.before horder ⟨set, hset, hother⟩).1

theorem entries_of_guaranteed (h : ofGraph graph config = .ok memory) {set : NameSet}
    (hset : memory.guaranteedAncestors? id = some set) :
    set.keys.filterMap memory.entryOf = set.keys.map memory.entry := by
  apply filterMap_entryOf
  intro other hother
  rw [(eq_of_ofGraph h).2]
  exact contains_of_guaranteed h hset (SortedMap.mem_keys.1 hother)

/-- A node without parents has the opening text, however long that is. -/
theorem text_of_no_parents {set : NameSet} (hset : memory.guaranteedAncestors? id = some set)
    (hparents : memory.graph.parents id = []) : memory.text id = .ok memory.config.openingText := by
  rw [text, hset]
  simp only [hparents, List.isEmpty_nil, if_true]

/-- A node before which nothing is guaranteed has the converge text, however long that is. -/
theorem text_of_none_guaranteed {set : NameSet} (hset : memory.guaranteedAncestors? id = some set)
    (hparents : memory.graph.parents id ≠ []) (hempty : set.isEmpty = true) :
    memory.text id = .ok memory.config.convergeText := by
  rw [text, hset]
  simp only [List.isEmpty_eq_false_iff.2 hparents, hempty, Bool.false_eq_true, if_false, if_true]

/-- The memory of a node with parents before which something is guaranteed. -/
theorem text_of_guaranteed (h : ofGraph graph config = .ok memory) {set : NameSet}
    (hset : memory.guaranteedAncestors? id = some set) (hparents : graph.parents id ≠ [])
    (hne : set.isEmpty = false) :
    memory.text id = .ok (.ofList (bounded config.maxChars (set.keys.map memory.entry))) := by
  have hgraph : memory.graph = graph ∧ memory.config = config := by
    rw [(eq_of_ofGraph h).2]
    exact ⟨rfl, rfl⟩
  rw [text, hset]
  simp only [hgraph, List.isEmpty_eq_false_iff.2 hparents, hne, Bool.false_eq_true, if_false,
    entries_of_guaranteed h hset]

/-- The guaranteed nodes in the order of the story. -/
theorem perm_guaranteed (h : ofGraph graph config = .ok memory) {set : NameSet}
    (hset : memory.guaranteedAncestors? id = some set) :
    memory.order.Nodup ∧ (memory.order.filter (set.contains ·)).Perm set.keys := by
  have hperm := perm_of_topologicalOrder (eq_of_ofGraph h).1
  have hnodup : memory.order.Nodup := hperm.nodup_iff.2 graph.ids_nodup
  refine ⟨hnodup, (List.perm_ext_iff_of_nodup (hnodup.filter _) set.nodup_keys).2 ?_⟩
  intro other
  rw [List.mem_filter, SortedMap.mem_keys, hperm.mem_iff, mem_ids]
  exact and_iff_right_of_imp (contains_of_guaranteed h hset)

theorem ofGraph_of_not_cyclic (h : ¬graph.Cyclic) (config : MemoryConfig) :
    ofGraph graph config = .ok ⟨graph, config, graph.placed, guaranteedIn graph graph.placed⟩ := by
  rw [ofGraph, topologicalOrder_of_not_cyclic h, Except.map]

/-- If no way leads round in a circle, the memory of a node with parents and with guaranteed nodes tells of the
latest of these, as many as there is room for, and is never too long. The running total is exact, so it never
falls below zero. -/
theorem text_keeps_latest (hacyclic : ¬graph.Cyclic) (config : MemoryConfig) :
    ∃ memory, ofGraph graph config = .ok memory ∧ graph.topologicalOrder = .ok memory.order ∧
      ∀ id set, graph.parents id ≠ [] → memory.guaranteedAncestors? id = some set → set.isEmpty = false →
        ∃ nodes text, nodes.Sublist memory.order ∧ nodes.Perm set.keys ∧
          memory.text id = .ok text ∧ memory.KeepsLatest nodes text ∧ text.length ≤ config.maxChars ∧
          bounded? config.maxChars (set.keys.filterMap memory.entryOf) = some text.toList := by
  have hmemory := ofGraph_of_not_cyclic hacyclic config
  refine ⟨_, hmemory, topologicalOrder_of_not_cyclic hacyclic, ?_⟩
  intro id set hparents hset hne
  obtain ⟨horder, hperm⟩ := perm_guaranteed hmemory hset
  have hnodes : graph.placed.filter (set.contains ·) ≠ [] := by
    intro hnone
    have hkeys : set.keys = [] := (hnone ▸ hperm).nil_eq.symm
    exact List.isEmpty_eq_false_iff.1 hne (List.map_eq_nil_iff.1 hkeys)
  have hlatest := keepsLatest_bounded horder List.filter_sublist hperm hnodes
  refine ⟨_, _, List.filter_sublist, hperm, text_of_guaranteed hmemory hset hparents hne, hlatest,
    hlatest.length_le, ?_⟩
  rw [bounded?_eq, entries_of_guaranteed hmemory hset, String.toList_ofList]

/-- If no way leads round in a circle, every node has a memory, and it is too long only if it is one of the two
fixed texts and that text is. -/
theorem length_text_le_iff (hacyclic : ¬graph.Cyclic) (config : MemoryConfig) :
    ∃ memory, ofGraph graph config = .ok memory ∧
      ∀ id, graph.contains id = true →
        ∃ set text, memory.guaranteedAncestors? id = some set ∧ memory.text id = .ok text ∧
          (text.length ≤ config.maxChars ↔
            (graph.parents id = [] → config.openingText.length ≤ config.maxChars) ∧
            (graph.parents id ≠ [] → set.isEmpty = true → config.convergeText.length ≤ config.maxChars)) := by
  have hmemory := ofGraph_of_not_cyclic hacyclic config
  refine ⟨_, hmemory, ?_⟩
  intro id hid
  obtain ⟨set, hset⟩ := (exists_guaranteedAncestors?_iff hmemory).2 hid
  by_cases hparents : graph.parents id = []
  · refine ⟨set, config.openingText, hset, text_of_no_parents hset hparents, ?_⟩
    exact ⟨fun hfits => ⟨fun _ => hfits, fun hne => absurd hparents hne⟩, fun h => h.1 hparents⟩
  · cases hempty : set.isEmpty with
    | true =>
      refine ⟨set, config.convergeText, hset, text_of_none_guaranteed hset hparents hempty, ?_⟩
      exact ⟨fun hfits => ⟨hparents.elim, fun _ _ => hfits⟩, fun h => h.2 hparents hempty⟩
    | false =>
      refine ⟨set, _, hset, text_of_guaranteed hmemory hset hparents hempty, ?_⟩
      refine iff_of_true (String.length_ofList.trans_le (length_bounded_le _ _)) ⟨hparents.elim, ?_⟩
      exact fun _ hnone => absurd (hempty.symm.trans hnone) Bool.false_ne_true

/-- The way leads from the road over the inn and the bay to the hall. There is room for two of the three entries
of the hall's memory. The road is the oldest of them, though its id comes last. -/
theorem text_keeps_latest_of_journey :
    let nodes : List Node := [("road", "Rain"), ("inn", "Dusk"), ("bay", "Gulls"), ("hall", "Feast")].map
      fun (id, summary) => ⟨id, summary, .normal⟩
    let edges : List Edge := [("road", "inn"), ("inn", "bay"), ("bay", "hall")].map
      fun (source, target) => ⟨source, target, none⟩
    let graph := edges.foldl Graph.addEdge (nodes.foldl Graph.addNode {})
    let config : MemoryConfig := { maxChars := 22 }
    ¬graph.Cyclic ∧ graph.parents "hall" ≠ [] ∧
      ∃ memory set, ofGraph graph config = .ok memory ∧ memory.guaranteedAncestors? "hall" = some set ∧
        set.isEmpty = false ∧ memory.text "hall" = .ok "[bay] Gulls\n[inn] Dusk" := by
  intro nodes edges graph config
  have hacyclic : ¬graph.Cyclic := length_placed_eq_size_iff.1 (by decide +kernel)
  have hparents : graph.parents "hall" ≠ [] := by decide +kernel
  let memory : Memory := ⟨graph, config, graph.placed, guaranteedIn graph graph.placed⟩
  let set : NameSet := .ofNames ["road", "inn", "bay"]
  have hmemory : ofGraph graph config = .ok memory := ofGraph_of_not_cyclic hacyclic config
  have hset : memory.guaranteedAncestors? "hall" = some set := by decide +kernel
  have hne : set.isEmpty = false := by decide +kernel
  obtain ⟨same, hsame, -, htexts⟩ := text_keeps_latest hacyclic config
  obtain rfl : memory = same := Except.ok.inj (hmemory.symm.trans hsame)
  obtain ⟨latest, text, hlatest, hperm, htext, hkeeps, -⟩ := htexts "hall" set hparents hset hne
  have hstory : ∀ latest ∈ memory.order.sublists, latest.Perm set.keys → latest = ["road", "inn", "bay"] := by
    decide +kernel
  obtain rfl := hstory latest (List.mem_sublists.2 hlatest) hperm
  refine ⟨hacyclic, hparents, memory, set, hmemory, hset, hne, ?_⟩
  -- all three entries are too long, and two of them fit
  have hlong : ¬(memory.told ["road", "inn", "bay"]).length ≤ 22 := by decide +kernel
  have hfits : ¬22 < (memory.told ["inn", "bay"]).length := by decide +kernel
  rw [htext]
  cases hkeeps with
  | @fits k _ hlonger hshort =>
    have hpos : k ≠ 0 := by
      rintro rfl
      exact hlong hshort
    have hle : k ≤ 1 := Nat.le_of_not_lt fun hlt => hfits (hlonger 1 hlt)
    obtain rfl : k = 1 := by omega
    exact congrArg Except.ok (by decide +kernel : memory.told ["inn", "bay"] = "[bay] Gulls\n[inn] Dusk")
  | cut _ hlonger => exact absurd (hlonger 1 (by decide)) hfits

/-- Two sources meet in the town, so nothing is guaranteed there. The memories of a source and of the town are fixed
texts of more than ten characters. The gate's would be as long but is cut. -/
theorem length_text_le_iff_of_two_sources :
    let node (id : NodeId) : Node := ⟨id, "Crowds", .normal⟩
    let edge (source target : NodeId) : Edge := ⟨source, target, none⟩
    let graph := [edge "inn" "town", edge "port" "town", edge "town" "gate"].foldl Graph.addEdge
      (["inn", "port", "town", "gate"].foldl (fun graph id => graph.addNode (node id)) { root := "inn" })
    let config : MemoryConfig := { maxChars := 10 }
    ¬graph.Cyclic ∧ (["inn", "town", "gate"].all graph.contains) = true ∧
      ∃ memory inn town gate, ofGraph graph config = .ok memory ∧
        memory.text "inn" = .ok inn ∧ 10 < inn.length ∧ memory.text "town" = .ok town ∧ 10 < town.length ∧
        memory.text "gate" = .ok gate ∧ gate.length ≤ 10 := by
  intro node edge graph config
  have hacyclic : ¬graph.Cyclic := length_placed_eq_size_iff.1 (by decide +kernel)
  let memory : Memory := ⟨graph, config, graph.placed, guaranteedIn graph graph.placed⟩
  have hmemory : ofGraph graph config = .ok memory := ofGraph_of_not_cyclic hacyclic config
  obtain ⟨same, hsame, htexts⟩ := length_text_le_iff hacyclic config
  obtain rfl : memory = same := Except.ok.inj (hmemory.symm.trans hsame)
  obtain ⟨_, inn, _, hinn, hopening⟩ := htexts "inn" (by decide +kernel)
  obtain ⟨certain, town, hcertain, htown, hconverge⟩ := htexts "town" (by decide +kernel)
  obtain ⟨certain', gate, hcertain', hgate, hcut⟩ := htexts "gate" (by decide +kernel)
  have hnone : memory.guaranteedAncestors? "town" = some .empty := by decide +kernel
  have hsome : memory.guaranteedAncestors? "gate" = some (.ofNames ["town"]) := by decide +kernel
  cases hcertain.symm.trans hnone
  cases hcertain'.symm.trans hsome
  refine ⟨hacyclic, by decide +kernel, memory, inn, town, gate, hmemory, hinn, ?_, htown, ?_, hgate, ?_⟩
  · refine Nat.lt_of_not_le fun hfits => ?_
    exact absurd ((hopening.1 hfits).1 (by decide +kernel)) (by decide +kernel)
  · refine Nat.lt_of_not_le fun hfits => ?_
    exact absurd ((hconverge.1 hfits).2 (by decide +kernel) rfl) (by decide +kernel)
  · refine hcut.2 ⟨fun hsource => ?_, fun _ hempty => ?_⟩
    · exact absurd hsource (by decide +kernel)
    · exact absurd hempty (by decide +kernel)

/-- Where no character is allowed the root still has a memory of seventeen. -/
theorem opening_exceeds_bound :
    let graph := ({} : Graph).addNode ⟨"root", "", .normal⟩
    let config : MemoryConfig := { maxChars := 0 }
    ¬graph.Cyclic ∧ graph.contains "root" = true ∧
      (ofGraph graph config).bind (·.text "root") = .ok "The story begins." ∧
      config.maxChars < "The story begins.".length := by
  intro graph config
  have hacyclic : ¬graph.Cyclic := length_placed_eq_size_iff.1 (by decide +kernel)
  exact ⟨hacyclic, by decide +kernel, by decide +kernel, by decide +kernel⟩

end Storyline.Memory
