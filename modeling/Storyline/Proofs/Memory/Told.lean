-- SUMMARY: A memory tells of nothing but what was played, as long as playing begins where the story begins.
import Storyline.Proofs.Memory.Guaranteed
import Storyline.Proofs.Playback.Finite

/-!
# What memories tell of

Memories are made from all paths that begin at a source, while playing begins at the root. A walk from the
root to a node is the end of such a path, so a guaranteed node lies on the walk unless all paths to the root
itself lead through it: `guaranteed_on_walk`. A root with parents is valid, and then its memory tells of nodes
that are never played. After a clean report the root is the only source and every guaranteed node was visited.
-/

namespace Storyline

open Storyline.Graph

variable {graph : Graph} {script : Script} {config : MemoryConfig} {memory : Memory}
  {id other : NodeId}

/-! ## The texts of memories -/

namespace Memory

/-- The text is one of the two fixed texts, or the end of entries that are all about nodes of a kind. -/
def TellsOf (memory : Memory) (Kind : NodeId → Prop) (text : String) : Prop :=
  text = memory.config.openingText ∨ text = memory.config.convergeText ∨
    ∃ entries : List Entry,
      (∀ entry ∈ entries, Kind entry.id ∧ memory.entryOf entry.id = some entry) ∧
        text.toList <:+ join entries

theorem TellsOf.mono {Kind Wider : NodeId → Prop} {text : String} (h : memory.TellsOf Kind text)
    (hwider : ∀ id, Kind id → Wider id) : memory.TellsOf Wider text := by
  rcases h with hopening | hconverge | ⟨entries, hentries, hends⟩
  · exact .inl hopening
  · exact .inr (.inl hconverge)
  · refine .inr (.inr ⟨entries, ?_, hends⟩)
    intro entry hentry
    obtain ⟨hkind, hof⟩ := hentries entry hentry
    exact ⟨hwider _ hkind, hof⟩

theorem id_of_entryOf {entry : Entry} (h : memory.entryOf id = some entry) : entry.id = id := by
  obtain ⟨node, -, rfl⟩ := Option.map_eq_some_iff.1 h
  rfl

/-- Keeping to the bound drops entries and the front of what is left. -/
theorem bounded_suffix (maxChars : Nat) (entries : List Entry) :
    ∃ kept ⊆ entries, bounded maxChars entries <:+ join kept :=
  ⟨_, List.filter_subset_self _, List.drop_suffix _ _⟩

theorem survivors_of_fits {maxChars total : Nat} (h : total ≤ maxChars) (entries : List Entry) :
    survivors maxChars total entries = entries := by
  cases entries with
  | nil => rfl
  | cons oldest rest =>
    cases rest with
    | nil => rfl
    | cons next rest => rw [survivors, if_pos h]

/-- Entries that fit are all kept, whatever their ages. -/
theorem bounded_of_fits {maxChars : Nat} {entries : List Entry}
    (h : (join entries).length ≤ maxChars) : bounded maxChars entries = join entries := by
  have hkept : entries.filter ((entries.mergeSort fun a b => a.age ≤ b.age).contains ·) = entries := by
    rw [List.filter_eq_self]
    intro entry hentry
    simpa using hentry
  simp only [bounded, survivors_of_fits h, hkept, Nat.sub_eq_zero_of_le h, List.drop_zero]

/-- A memory that fits tells of all that is guaranteed, in the order of the names. -/
theorem text_of_fits {set : NameSet} (hset : memory.guaranteedAncestors? id = some set)
    (hparents : memory.graph.parents id ≠ []) (hne : set.isEmpty = false)
    (hfits : (join (set.keys.filterMap memory.entryOf)).length ≤ memory.config.maxChars) :
    memory.text id = .ok (.ofList (join (set.keys.filterMap memory.entryOf))) := by
  rw [text, hset]
  simp only [List.isEmpty_eq_false_iff.2 hparents, hne, bounded_of_fits hfits, Bool.false_eq_true,
    if_false]

/-- The memory of a node tells of nodes that are guaranteed before it. -/
theorem text_eq_ok {set : NameSet} (h : memory.guaranteedAncestors? id = some set) :
    ∃ text, memory.text id = .ok text ∧ memory.TellsOf (set.contains · = true) text := by
  unfold text
  rw [h]
  dsimp only
  split
  · exact ⟨_, rfl, .inl rfl⟩
  · split
    · exact ⟨_, rfl, .inr (.inl rfl)⟩
    · obtain ⟨kept, hkept, hends⟩ :=
        bounded_suffix memory.config.maxChars (set.keys.filterMap memory.entryOf)
      refine ⟨_, rfl, .inr (.inr ⟨kept, ?_, by rwa [String.toList_ofList]⟩)⟩
      intro entry hentry
      obtain ⟨key, hkey, hof⟩ := List.mem_filterMap.1 (hkept hentry)
      obtain rfl := id_of_entryOf hof
      exact ⟨SortedMap.mem_keys.1 hkey, hof⟩

end Memory

/-! ## Walks from the root -/

/-- What is unavoidable before the end of a walk lies on the walk or is unavoidable before its beginning. -/
theorem Graph.Unavoidable.mem_walk {start : NodeId} {walk : List NodeId}
    (h : graph.Unavoidable id other) (hne : other ≠ id) (hwalk : graph.Path start id walk) :
    other ∈ walk.dropLast ∨ other ≠ start ∧ graph.Unavoidable start other := by
  by_cases hmem : other ∈ walk
  · exact .inl (hwalk.mem_dropLast hmem hne)
  · obtain ⟨rest, rfl⟩ := List.head?_eq_some_iff.1 hwalk.first
    rw [List.mem_cons, not_or] at hmem
    refine .inr ⟨hmem.1, ?_⟩
    intro source hsource path hpath
    rcases List.mem_append.1 (h source hsource _ (hpath.append hwalk)) with hpath | hrest
    · exact hpath
    · exact absurd hrest hmem.2

/-- Nothing is guaranteed before a source. -/
theorem Memory.not_guaranteed_of_source (hvalid : graph.Valid)
    (hmemory : ofGraph graph config = .ok memory) {set : NameSet} (hsource : id ∈ graph.sources)
    (hset : memory.guaranteedAncestors? id = some set) : set.contains other = false := by
  obtain ⟨_, hsame, hmem⟩ :=
    mem_guaranteed_iff_unavoidable hvalid hmemory (mem_sources.1 hsource).1
  cases hset.symm.trans hsame
  rw [Bool.eq_false_iff, Ne, hmem]
  rintro ⟨hne, hall⟩
  exact hne (List.mem_singleton.1 (hall id hsource [id] (.single graph id)))

/-- In a valid graph the memory of a node tells only of nodes that every walk from the root comes through
before the node, and of nodes that are guaranteed before the root itself. If the root has no parents, there
are none of the second kind. -/
theorem guaranteed_on_walk (hvalid : graph.validate = .ok ()) (config : MemoryConfig) :
    ∃ memory above, Memory.ofGraph graph config = .ok memory ∧
      memory.guaranteedAncestors? graph.root = some above ∧
      (graph.parents graph.root = [] → ∀ other, above.contains other = false) ∧
      ∀ id walk, graph.Path graph.root id walk →
        let Told (other : NodeId) : Prop := other ∈ walk.dropLast ∨ above.contains other = true
        ∃ set text, memory.guaranteedAncestors? id = some set ∧ memory.text id = .ok text ∧
          (∀ other, set.contains other = true → Told other) ∧ memory.TellsOf Told text := by
  have hgraph := valid_of_validate hvalid
  obtain ⟨order, -, hmemory⟩ := Memory.exists_ofGraph hgraph config
  have hguaranteed {id : NodeId} (hid : graph.contains id = true) :=
    Memory.mem_guaranteed_iff_unavoidable hgraph hmemory hid
  obtain ⟨above, habove, hroot⟩ := hguaranteed hgraph.root_known
  refine ⟨_, above, hmemory, habove, ?_, ?_⟩
  · intro hparents other
    have hsource := mem_sources.2 ⟨hgraph.root_known, hparents⟩
    exact Memory.not_guaranteed_of_source hgraph hmemory hsource habove
  · intro id walk hwalk Told
    have hid := hwalk.known hgraph hgraph.root_known id hwalk.target_mem
    obtain ⟨set, hset, hmem⟩ := hguaranteed hid
    have htold : ∀ other, set.contains other = true → Told other := by
      intro other hother
      obtain ⟨hne, hall⟩ := (hmem other).1 hother
      exact (hall.mem_walk hne hwalk).imp_right (hroot other).2
    obtain ⟨text, htext, htells⟩ := Memory.text_eq_ok hset
    exact ⟨set, text, hset, htext, htold, htells.mono htold⟩

/-- The inn leads to the road and the road to the town. Played from the inn, the town's memory tells of what
was played. -/
theorem guaranteed_on_walk_of_inn :
    let graph := [("inn", "road"), ("road", "town")].foldl
      (fun graph (source, target) => graph.addEdge ⟨source, target, none⟩)
      ([("inn", "Dusk"), ("road", "Rain"), ("town", "Market")].foldl
        (fun graph (id, summary) => graph.addNode ⟨id, summary, .normal⟩) { root := "inn" : Graph })
    graph.validate = .ok () ∧
      ∃ memory above, Memory.ofGraph graph {} = .ok memory ∧
        memory.guaranteedAncestors? graph.root = some above ∧
        (graph.parents graph.root = [] → ∀ other, above.contains other = false) ∧
        ∀ id walk, graph.Path graph.root id walk →
          let Told (other : NodeId) : Prop := other ∈ walk.dropLast ∨ above.contains other = true
          ∃ set text, memory.guaranteedAncestors? id = some set ∧ memory.text id = .ok text ∧
            (∀ other, set.contains other = true → Told other) ∧ memory.TellsOf Told text := by
  intro graph
  have hvalid : graph.validate = .ok () := by decide +kernel
  exact ⟨hvalid, guaranteed_on_walk hvalid {}⟩

/-- Played from the road, the town's memory still tells of the inn. -/
theorem memory_tells_of_unplayed :
    let graph := [("inn", "road"), ("road", "town")].foldl
      (fun graph (source, target) => graph.addEdge ⟨source, target, none⟩)
      ([("inn", "Dusk"), ("road", "Rain"), ("town", "Market")].foldl
        (fun graph (id, summary) => graph.addNode ⟨id, summary, .normal⟩) { root := "road" : Graph })
    graph.validate = .ok () ∧ graph.Path graph.root "town" ["road", "town"] ∧
      "inn" ∉ ["road", "town"] ∧
      ((Memory.ofGraph graph {}).toOption.bind (·.guaranteedAncestors? "town")).map (·.keys) =
        some ["inn", "road"] ∧
      (Memory.ofGraph graph {}).bind (·.text "town") = .ok "[inn] Dusk\n[road] Rain" := by
  intro graph
  refine ⟨by decide +kernel, by decide +kernel, by decide, by decide +kernel, ?_⟩
  let order : List NodeId := ["inn", "road", "town"]
  let memory : Memory := ⟨graph, {}, order, Memory.guaranteedIn graph order⟩
  have hmemory : Memory.ofGraph graph {} = .ok memory := by
    have horder : graph.topologicalOrder = .ok order := by decide +kernel
    rw [Memory.ofGraph, horder, Except.map]
  have hset : memory.guaranteedAncestors? "town" = some ((NameSet.add ∅ "inn").add "road") := by
    decide +kernel
  -- sorting the entries by age cannot be evaluated, but there is room for all of them
  rw [hmemory]
  refine (Memory.text_of_fits hset ?_ ?_ ?_).trans ?_ <;> decide +kernel

/-! ## After a clean report -/

/-- After a clean report, whatever calls were made, all nodes that are guaranteed before the current one were
visited. -/
theorem guaranteed_visited_of_clean (h : (lint graph script graph.root).isClean = true)
    (config : MemoryConfig) :
    ∃ memory, Memory.ofGraph graph config = .ok memory ∧
      ∀ moves : List Move,
        let session := (Session.start graph.root).after graph script moves
        ∃ set, memory.guaranteedAncestors? session.node = some set ∧
          ∀ id, set.contains id = true → id ∈ session.visited := by
  have hvalid := Lint.valid_of_isClean h
  have clean := Lint.clean_of_isClean h
  obtain ⟨order, -, hmemory⟩ := Memory.exists_ofGraph hvalid config
  refine ⟨_, hmemory, ?_⟩
  intro moves session
  have hsound : session.Sound graph script := (Session.sound_start graph script).after clean moves
  have hpath : graph.Path graph.root session.node session.visited :=
    ⟨hsound.path, hsound.root_first, hsound.visited_last⟩
  have hroot : graph.root ∈ graph.sources := by
    obtain ⟨source, hsource, -⟩ := hvalid.exists_path hvalid.root_known
    rwa [Lint.eq_root_of_mem_sources h hsource] at hsource
  obtain ⟨set, hset, hmem⟩ :=
    Memory.mem_guaranteed_iff_unavoidable hvalid hmemory (hsound.node_known clean)
  refine ⟨set, hset, ?_⟩
  intro id hid
  exact ((hmem id).1 hid).2 graph.root hroot session.visited hpath

/-- Two ways from the inn to the town: whichever is taken, the inn was visited, and that is all that the town's
memory may tell of. -/
theorem guaranteed_visited_of_two_ways :
    let graph := [("inn", "road"), ("inn", "ferry"), ("road", "town"), ("ferry", "town")].foldl
      (fun graph (source, target) => graph.addEdge ⟨source, target, none⟩)
      ([("inn", NodeKind.normal), ("road", .normal), ("ferry", .normal), ("town", .merge)].foldl
        (fun graph (id, kind) => graph.addNode ⟨id, "", kind⟩) { root := "inn" : Graph })
    let script : Script := .ofList
      [("inn", [.openMenu, .offer 1 "Walk" (some "road"), .offer 2 "Sail" (some "ferry")]),
        ("road", [.jump "town"]), ("ferry", [.narration "Waves.", .jump "town"]), ("town", [])]
    (lint graph script graph.root).isClean = true ∧
      ∃ memory, Memory.ofGraph graph {} = .ok memory ∧
        ∀ moves : List Move,
          let session := (Session.start graph.root).after graph script moves
          ∃ set, memory.guaranteedAncestors? session.node = some set ∧
            ∀ id, set.contains id = true → id ∈ session.visited := by
  intro graph script
  have hclean : (lint graph script graph.root).isClean = true := by decide +kernel
  exact ⟨hclean, guaranteed_visited_of_clean hclean {}⟩

end Storyline
