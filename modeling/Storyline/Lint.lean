-- SUMMARY: Checking a script against its graph.
import Storyline.Graph.Order
import Storyline.Graph.Reach
import Storyline.Script

/-!
# Lint

Errors make a story unplayable, warnings are worth a look. The graph is checked first, then whether graph
and script cover each other, then where the script leads.
-/

namespace Storyline

/-- What makes a story unplayable. -/
inductive LintError where
  | invalidGraph (error : GraphError)
  | unknownTarget (node target : NodeId)
  deriving DecidableEq

/-- The wording of a lint error. -/
def LintError.message : LintError → String
  | invalidGraph error => "Graph is invalid: " ++ error.message
  | unknownTarget node target => s!"Node '{node}' navigates to non-existent node '{target}'"

/-- What is worth a look. -/
inductive LintWarning where
  | unscripted (node : NodeId)
  | notInGraph (node : NodeId)
  | kindMismatch (node : NodeId) (parents : Nat)
  | unreachable (node root : NodeId)
  | extraSource (node : NodeId)
  | notAChild (node target : NodeId)
  | neverNavigates (node : NodeId) (children : Nat)
  deriving DecidableEq

/-- The wording of a lint warning. -/
def LintWarning.message : LintWarning → String
  | unscripted node => s!"Node '{node}' has no script"
  | notInGraph node => s!"Script defines node '{node}' which is not in the graph"
  | kindMismatch node parents =>
    s!"Node '{node}' declares a type that disagrees with its {parents} parent(s)"
  | unreachable node root => s!"Node '{node}' is unreachable from '{root}'"
  | extraSource node => s!"Node '{node}' has no parents but is not the root"
  | notAChild node target =>
    s!"Node '{node}' navigates to '{target}' which is not one of its children"
  | neverNavigates node children =>
    s!"Node '{node}' has {children} child node(s) but its script never navigates"

/-- What was found. -/
structure LintReport where
  errors : List LintError
  warnings : List LintWarning
  deriving DecidableEq

/-- Was nothing found? -/
def LintReport.isClean (report : LintReport) : Bool :=
  report.errors.isEmpty && report.warnings.isEmpty

namespace Lint

/-- The faults of the graph. -/
def graphErrors (graph : Graph) : List LintError :=
  match graph.validate with
  | .ok _ => []
  | .error error => [.invalidGraph error]

/-- Nodes of the graph without a script, and scripts without a node. -/
def coverage (graph : Graph) (script : Script) : List LintWarning :=
  (graph.ids.filter fun id => !script.contains id).map .unscripted ++
    (script.keys.filter fun id => !graph.contains id).map .notInGraph

/-- Nodes that stand at the wrong place in the graph. -/
def structureWarnings (graph : Graph) (root : NodeId) : List LintWarning :=
  graph.kindMismatches.map (fun id => .kindMismatch id (graph.parents id).length) ++
    (if graph.contains root then
      (graph.unreachableFrom root).map fun id => .unreachable id root
    else []) ++
    (graph.sources.filter (· != root)).map .extraSource

/-- The nodes that the instructions of a list lead to. -/
def targets (list : List Instruction) : List NodeId :=
  list.filterMap Instruction.navigationTarget

/-- Targets of a node that do not exist. -/
def targetErrors (graph : Graph) (id : NodeId) (list : List Instruction) : List LintError :=
  ((targets list).filter fun target => !graph.contains target).map (.unknownTarget id)

/-- Targets of a node that are no children of it, and children that are no targets at all. -/
def targetWarnings (graph : Graph) (id : NodeId) (list : List Instruction) : List LintWarning :=
  let children := graph.childIds id
  ((targets list).filter fun target => graph.contains target && !children.contains target).map
      (.notAChild id) ++
    (if (targets list).isEmpty && !children.isEmpty then
      [.neverNavigates id children.eraseDups.length]
    else [])

end Lint

open Lint in
/-- Checks a script against a graph that is played from `root`. -/
def lint (graph : Graph) (script : Script) (root : NodeId) : LintReport where
  errors :=
    graphErrors graph ++ script.entries.flatMap fun (id, list) => targetErrors graph id list
  warnings :=
    coverage graph script ++ structureWarnings graph root ++
      script.entries.flatMap fun (id, list) => targetWarnings graph id list

end Storyline
