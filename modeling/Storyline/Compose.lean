-- SUMMARY: Writing script documents that fit a graph.
import Storyline.Graph.Order
import Storyline.Text.Blank

/-!
# Composing documents

A document is composed node by node: a header, the body, and the navigation that the graph asks for. A
single edge without a text becomes a jump; otherwise the edges become a menu of numbered offers.
-/

namespace Storyline.Compose

open Text

/-- The line that opens the section of a node. -/
def header (id : NodeId) : String :=
  "=== Node: " ++ id ++ " ==="

/-- The line of an offer. The offer of an edge without a text is named after the child. -/
def offerLine (number : Nat) (link : Link) : String :=
  toString number ++ ". " ++ link.choice.getD link.child ++ " -> " ++ link.child ++ "\n"

/-- The lines of offers, numbered from `number` on. -/
def offerLines (number : Nat) : List Link → String
  | [] => ""
  | link :: rest => offerLine number link ++ offerLines (number + 1) rest

/-- The navigation of a node. A node without children has none. -/
def footer (graph : Graph) (id : NodeId) : String :=
  match graph.children id with
  | [] => ""
  | [⟨child, none⟩] => "[JUMP: " ++ child ++ "]\n"
  | links => "[CHOICE]\n" ++ offerLines 1 links

/-- The section of a node with the given body. -/
def nodeSection (graph : Graph) (id : NodeId) (body : String) : String :=
  let body := String.ofList (trimRight body.toList)
  header id ++ "\n" ++ (if body.isEmpty then "" else body ++ "\n") ++ footer graph id ++ "\n"

/-- The document of nodes with their bodies. -/
def document (graph : Graph) (nodes : List (NodeId × String)) : String :=
  String.join (nodes.map fun (id, body) => nodeSection graph id body)

/-- The body that lets the narrator tell a summary. -/
def narratedBody (narrator summary : String) : String :=
  if summary.isEmpty then ""
  else "<content id=\"" ++ narrator ++ "\">" ++ summary ++ "</content>"

/-- The order in which a skeleton has its nodes: parents first, or as they were inserted if there is a
cycle. -/
def skeletonOrder (graph : Graph) : List NodeId :=
  match graph.topologicalOrder with
  | .ok order => order
  | .error _ => graph.ids

/-- A document in which the narrator tells the summary of every node. -/
def skeleton (graph : Graph) (narrator : String) : String :=
  document graph <| (skeletonOrder graph).map fun id =>
    (id, narratedBody narrator (((graph.node? id).map (·.summary)).getD ""))

end Storyline.Compose
