-- SUMMARY: What a story has told for certain by the time a node is reached.
import Storyline.Config
import Storyline.Graph.Order

/-!
# Memories

A node's content is written from its *memory*: the summaries of the nodes that come before it on every
way. For a node with one parent these are the parent and everything certain for the parent; for a merge
point only what is certain on the way through each of its parents. They are found in topological order.

A memory is kept short. The entries that come earliest in the story are dropped first; if the last one
alone is too long, its end is kept.
-/

namespace Storyline

/-- The nodes that are certain to have been told before each node. -/
abbrev Guaranteed := SortedMap NameSet

/-- What the memories of a graph are made from. -/
structure Memory where
  graph : Graph
  config : MemoryConfig
  /-- The nodes, parents first. -/
  order : List NodeId
  guaranteed : Guaranteed

/-- A node with the memory that its content is written from. -/
structure PlanStep where
  node : NodeId
  summary : String
  memory : String
  deriving DecidableEq

namespace Memory

/-! ## Guaranteed nodes -/

/-- What is certain on the way through one parent, if the parent is known. -/
def throughParent? (found : Guaranteed) (parent : NodeId) : Option NameSet :=
  (found.get? parent).map (·.add parent)

/-- What all ways have in common. -/
def common : List NameSet → NameSet
  | [] => .empty
  | first :: rest => rest.foldl NameSet.inter first

/-- What is certain before a node, given what is certain before its parents. -/
def certainBefore (graph : Graph) (found : Guaranteed) (id : NodeId) : NameSet :=
  common ((graph.parents id).filterMap (throughParent? found))

/-- What is certain before each node of a list in which parents come first. -/
def guaranteedIn (graph : Graph) (order : List NodeId) : Guaranteed :=
  order.foldl (fun found id => found.insert id (certainBefore graph found id)) .empty

/-- Prepares the memories of a graph. Fails if the graph has a cycle. -/
def ofGraph (graph : Graph) (config : MemoryConfig) : Except GraphError Memory :=
  graph.topologicalOrder.map fun order =>
    { graph, config, order, guaranteed := guaranteedIn graph order }

/-! ## Bounded texts -/

/-- What a memory says about one node, and the node's place in the order of the story. -/
structure Entry where
  age : Nat
  id : NodeId
  text : List Char
  deriving DecidableEq

/-- The entries in lines of their own. -/
def join (entries : List Entry) : List Char :=
  ['\n'].intercalate (entries.map (·.text))

/-- The entries that are left, oldest first, when the oldest ones are dropped until the rest fits.
`total` is the joined length; the last entry stays. -/
def survivors (maxChars : Nat) : (total : Nat) → List Entry → List Entry
  | total, oldest :: next :: rest =>
    if total ≤ maxChars then oldest :: next :: rest
    else survivors maxChars (total - (oldest.text.length + 1)) (next :: rest)
  | _, entries => entries

/-- The text of entries, which are given in the order of their display, within the bound. -/
def bounded (maxChars : Nat) (entries : List Entry) : List Char :=
  let oldestFirst := entries.mergeSort fun a b => a.age ≤ b.age
  let kept := survivors maxChars (join entries).length oldestFirst
  let text := join (entries.filter (kept.contains ·))
  text.drop (text.length - maxChars)

/-! ## Memories -/

/-- The entry of a node. -/
def entryOf (memory : Memory) (id : NodeId) : Option Entry :=
  (memory.graph.node? id).map fun node =>
    { age := memory.order.findIdx (· == id)
      id
      text := ("[" ++ node.id ++ "] " ++ node.summary).toList }

/-- The nodes that are certain before a node. -/
def guaranteedAncestors? (memory : Memory) (id : NodeId) : Option NameSet :=
  memory.guaranteed.get? id

/-- The memory of a node. -/
def text (memory : Memory) (id : NodeId) : Except GraphError String :=
  match memory.guaranteedAncestors? id with
  | none => .error (.unknownNode id)
  | some ancestors =>
    if (memory.graph.parents id).isEmpty then .ok memory.config.openingText
    else if ancestors.isEmpty then .ok memory.config.convergeText
    else
      .ok (String.ofList (bounded memory.config.maxChars (ancestors.keys.filterMap memory.entryOf)))

/-- The summary of a node. -/
def summary (memory : Memory) (id : NodeId) : String :=
  ((memory.graph.node? id).map (·.summary)).getD ""

/-- All nodes with their memories, parents first. -/
def plan (memory : Memory) : Except GraphError (List PlanStep) :=
  memory.order.mapM fun id => do
    let text ← memory.text id
    return { node := id, summary := memory.summary id, memory := text }

end Memory

end Storyline
