-- SUMMARY: What a report says about a graph and its script when it lists nothing.
import Storyline.Lint
import Storyline.Proofs.Graph.Valid
import Storyline.Proofs.SortedMap

/-!
# Clean reports

A report lists faults one by one, and it is clean if all of its lists are empty. `Lint.Clean` says in one
place what follows for playing: there is an order of the nodes, every node has a list, and every target of a
list is a node and a child of the list's node. If only the errors are missing, the targets are nodes all the
same: `Lint.TargetsKnown`.
-/

namespace Storyline

namespace Lint

/-- The graph can be played with the script. -/
structure Clean (graph : Graph) (script : Script) : Prop where
  ordered : ∃ order, graph.topologicalOrder = .ok order
  root_known : graph.contains graph.root = true
  scripted {id : NodeId} : graph.contains id = true → ∃ list, script.get? id = some list
  leads {id target : NodeId} {list : List Instruction} {instruction : Instruction} :
    script.get? id = some list → instruction ∈ list → instruction.navigationTarget = some target →
      graph.contains target = true ∧ graph.Leads id target

variable {graph : Graph} {script : Script}

/-- No fault of the graph is found in a valid graph only. -/
theorem valid_of_graphErrors (h : graphErrors graph = []) : graph.Valid := by
  unfold graphErrors at h
  split at h
  · exact Graph.valid_of_validate ‹_›
  · cases h

/-- Every node that the script leads to is in the graph. -/
def TargetsKnown (graph : Graph) (script : Script) : Prop :=
  ∀ {id target : NodeId} {list : List Instruction} {instruction : Instruction},
    script.get? id = some list → instruction ∈ list → instruction.navigationTarget = some target →
      graph.contains target = true

/-- Without errors the targets are known, whatever the root is and whatever the warnings say. -/
theorem targetsKnown_of_errors {root : NodeId} (h : (lint graph script root).errors = []) :
    TargetsKnown graph script := by
  intro id target list instruction hlist hmem htarget
  have hall := List.flatMap_eq_nil_iff.1 (List.append_eq_nil_iff.1 h).2 (id, list)
    (SortedMap.mem_of_get? hlist)
  have hlisted : target ∈ targets list := List.mem_filterMap.2 ⟨_, hmem, htarget⟩
  simpa using List.filter_eq_nil_iff.1 (List.map_eq_nil_iff.1 hall) target hlisted

theorem isClean_iff {report : LintReport} :
    report.isClean = true ↔ report.errors = [] ∧ report.warnings = [] := by
  simp [LintReport.isClean]

theorem valid_of_isClean {root : NodeId} (h : (lint graph script root).isClean = true) :
    graph.Valid :=
  valid_of_graphErrors (List.append_eq_nil_iff.1 (isClean_iff.1 h).1).1

/-- After a clean report the root is the only source. -/
theorem eq_root_of_mem_sources {root source : NodeId}
    (h : (lint graph script root).isClean = true) (hsource : source ∈ graph.sources) :
    source = root := by
  have hwarnings := (isClean_iff.1 h).2
  simp only [lint, structureWarnings, List.append_eq_nil_iff, List.map_eq_nil_iff] at hwarnings
  obtain ⟨⟨-, -, hextra⟩, -⟩ := hwarnings
  simpa using List.filter_eq_nil_iff.1 hextra source hsource

theorem clean_of_isClean (h : (lint graph script graph.root).isClean = true) :
    Clean graph script := by
  have hvalid := valid_of_isClean h
  obtain ⟨herrors, hwarnings⟩ := isClean_iff.1 h
  simp only [lint, coverage, List.append_eq_nil_iff, List.map_eq_nil_iff, List.flatMap_eq_nil_iff,
    Prod.forall] at hwarnings
  obtain ⟨⟨⟨hscripted, -⟩, -⟩, hchildren⟩ := hwarnings
  refine ⟨hvalid.ordered, hvalid.root_known, ?_, ?_⟩
  · intro id hknown
    have hscript := List.filter_eq_nil_iff.1 hscripted id (Graph.mem_ids.2 hknown)
    rw [Bool.not_eq_true, Bool.not_eq_false', SortedMap.contains] at hscript
    exact Option.isSome_iff_exists.1 hscript
  · intro id target list instruction hlist hmem htarget
    have hknown := targetsKnown_of_errors herrors hlist hmem htarget
    have hlisted : target ∈ targets list := List.mem_filterMap.2 ⟨_, hmem, htarget⟩
    have hchild : target ∈ graph.childIds id := by
      have hall := hchildren id list (SortedMap.mem_of_get? hlist)
      unfold targetWarnings at hall
      rw [List.append_eq_nil_iff, List.map_eq_nil_iff] at hall
      simpa [hknown] using List.filter_eq_nil_iff.1 hall.1 target hlisted
    exact ⟨hknown, Graph.mem_childIds.1 hchild⟩

end Lint

end Storyline
