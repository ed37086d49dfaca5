-- SUMMARY: Design documents, the form in which story graphs are authored.
import Storyline.Graph
import Storyline.Json.Reader
import Storyline.Json.Writer
import Storyline.SortedMap

/-!
# Design documents

A design document gives nodes under their names and a list of edges. It is written in JSON:
`{"nodes": {"root": {"summary": "...", "type": "normal"}}, "edges": [{"from": "root", "to": "n1"}]}`.
-/

namespace Storyline

open Data

/-- A node as written in a design. The name under which it stands counts, not its own id. -/
structure NodeSpec where
  id : String := ""
  summary : String := ""
  kind : NodeKind := .normal
  deriving DecidableEq

/-- A design document. -/
structure Design where
  nodes : SortedMap NodeSpec := .empty
  edges : List Edge := []
  deriving DecidableEq

/-! ## Stored designs -/

/-- The name of a kind. -/
def NodeKind.name : NodeKind → String
  | normal => "normal"
  | merge => "merge"

/-- The kind with the given name. -/
def NodeKind.ofName? (name : String) : Option NodeKind :=
  [normal, merge].find? (·.name == name)

def NodeSpec.shape : Shape :=
  .record "NodeSpec" <|
    .cons "id" .defaulted .text <|
    .cons "summary" .defaulted .text <|
    .cons "type" .defaulted (.name ["normal", "merge"]) <|
    .nil

def NodeSpec.ofValue? (value : Value) : Option NodeSpec := do
  let id ← value.defaulted? "id" "" Value.toText?
  let summary ← value.defaulted? "summary" "" Value.toText?
  let kind ← value.defaulted? "type" .normal fun name => name.toName?.bind NodeKind.ofName?
  some { id, summary, kind }

def NodeSpec.toValue (spec : NodeSpec) : Value :=
  .record
    [("id", .text spec.id), ("summary", .text spec.summary), ("type", .name spec.kind.name)]

def Edge.shape : Shape :=
  .record "StoryEdge" <|
    .cons "from" .required .text <|
    .cons "to" .required .text <|
    .cons "choice_text" .omittable (.optional .text) <|
    .nil

def Edge.ofValue? (value : Value) : Option Edge := do
  let source ← value.required? "from" Value.toText?
  let target ← value.required? "to" Value.toText?
  let choice ← value.defaulted? "choice_text" none (Value.toOption? Value.toText?)
  some { source, target, choice }

def Edge.toValue (edge : Edge) : Value :=
  .record
    [("from", .text edge.source),
     ("to", .text edge.target),
     ("choice_text", .ofOption .text edge.choice)]

namespace Design

def shape : Shape :=
  .record "DesignDocument" <|
    .cons "nodes" .required (.dict NodeSpec.shape) <|
    .cons "edges" .defaulted (.list Edge.shape) <|
    .nil

def ofValue? (value : Value) : Option Design := do
  let nodes ← value.required? "nodes" (Value.toDict? NodeSpec.ofValue?)
  let edges ← value.defaulted? "edges" [] (Value.toList? Edge.ofValue?)
  some { nodes := .ofList nodes, edges }

def toValue (design : Design) : Value :=
  .record
    [("nodes", .dict (design.nodes.entries.map fun (id, spec) => (id, spec.toValue))),
     ("edges", .list (design.edges.map Edge.toValue))]

/-- Reads a design document written in JSON. -/
def ofJson? (text : String) : Option Design :=
  (Json.read? shape text).bind ofValue?

/-- The JSON text of a design document. -/
def toJson (design : Design) : String :=
  Json.pretty design.toValue

end Design

/-! ## Designs and graphs -/

/-- The graph of a design, with nodes in the order of their names. -/
def Graph.ofDesign (design : Design) (root : NodeId) : Graph :=
  let bare : Graph := { root }
  let noded := design.nodes.entries.foldl
    (fun graph (id, spec) => graph.addNode { id, summary := spec.summary, kind := spec.kind }) bare
  design.edges.foldl Graph.addEdge noded

/-- The design of a graph. -/
def Graph.toDesign (graph : Graph) : Design where
  nodes := .ofList <| graph.nodes.map fun node =>
    (node.id, { id := node.id, summary := node.summary, kind := node.kind })
  edges := graph.edges

end Storyline
