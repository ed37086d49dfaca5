-- SUMMARY: After a report without errors no call fails for an unknown node.
import Storyline.Proofs.Lint.Clean
import Storyline.Proofs.Playback.Consistency

/-!
# Known targets

A report has an error for every target in the script that is no node. Playing comes to other nodes by jumps
and by options only. A jump stands in a list of the script, and so does the offer behind an option, also when
the menu was put up by an earlier call. So without errors a session that begins at a node never meets an
unknown one. This does not need the warnings: playing may leave the edges of the graph, and it may go in
circles until it is stopped.
-/

namespace Storyline

open Playback

variable {graph : Graph} {script : Script} {level : LevelLookup} {session : Session}

/-! ## Staying at nodes -/

theorem Stage.Halt.node {stage : Stage} {made : Nat} {outcome : Outcome}
    (halt : Halt stage made session outcome) : outcome.session.node = session.node := by
  cases halt with
  | unscripted | atEnd | runaway | unknownTarget => rfl
  | stop _ _ performed =>
    rcases perform_stop_cases performed with ⟨_, _, _, rfl, _⟩ | ⟨_, _, _, rfl, _⟩ <;> rfl

namespace Session

/-- The session is at a node of the graph. -/
def Known (graph : Graph) (session : Session) : Prop :=
  graph.contains session.node = true

namespace Known

variable {made made' : Nat} {events fired : List Event} {next start last : Session} {call : Call}

theorem turn (h : session.Known graph)
    (hturn : Stage.Turn ⟨graph, script, level⟩ made session events made' next) :
    next.Known graph := by
  cases hturn with
  | proceed _ _ performed =>
    rw [perform_proceed_frame performed]
    exact h
  | jump _ _ _ known => exact known

theorem passage (h : session.Known graph)
    (hpassage : Stage.Passage ⟨graph, script, level⟩ made session fired made' last) :
    last.Known graph := by
  induction hpassage with
  | here => exact h
  | turn turn _ ih => exact ih (h.turn turn)

theorem begins (h : session.Known graph)
    (hbegins : Stage.Begins ⟨graph, script, level⟩ session call start) : start.Known graph := by
  cases hbegins with
  | step | advance | resume => exact h
  | enter _ _ _ _ known => exact known

theorem halt (h : session.Known graph) {stage : Stage} {outcome : Outcome}
    (hhalt : stage.Halt made session outcome) : outcome.session.Known graph := by
  unfold Known
  rw [hhalt.node]
  exact h

/-- A session at a node is at a node after any calls. -/
theorem after (h : session.Known graph) (moves : List Move) :
    (session.after graph script moves).Known graph := by
  apply after_preserves graph script _ h moves
  intro session move h
  exact (Stage.answer_preserves ⟨graph, script, move.level⟩ (fun h => h.begins)
    (fun _ h hturn => ⟨h.turn hturn, fun _ _ => trivial⟩)
    (fun _ h hhalt => ⟨h.halt hhalt, fun _ _ => trivial⟩) h move.call).1

end Known

end Session

/-! ## How calls fail -/

section Failing

variable (known : Lint.TargetsKnown graph script)
include known

/-- Where a jump stands in a list of the script, its target is a node. -/
theorem Stage.Halt.error_eq_runaway {made : Nat} {outcome : Outcome} {error : PlayError}
    (halt : Halt ⟨graph, script, level⟩ made session outcome) (herror : outcome.result = .error error) :
    ∃ node jumps, error = .runawayJumps node jumps := by
  cases halt with
  | unscripted | atEnd | stop => cases herror
  | runaway =>
    cases herror
    exact ⟨_, _, rfl⟩
  | unknownTarget hscript hfront _ hunknown =>
    have htarget := known hscript (mem_of_front hfront) rfl
    cases hunknown.symm.trans htarget

/-- A step from a node fails only if it jumps too often. -/
theorem Stage.step_error_eq_runaway (h : session.Known graph) {error : PlayError}
    (herror : (step ⟨graph, script, level⟩ session).result = .error error) :
    ∃ node jumps, error = .runawayJumps node jumps := by
  by_cases hready : session.Ready
  · obtain ⟨fired, made, last, ended, -, hhalt, houtcome⟩ :=
      step_eq_passage ⟨graph, script, level⟩ hready h
    rw [houtcome] at herror
    exact hhalt.error_eq_runaway known herror
  · rw [step_of_unready _ hready] at herror
    cases herror

/-- An option of the menu that is up leads to a node. -/
theorem Session.Consistent.option_known (h : session.Consistent graph script) {menu : Menu}
    {option : MenuOption} {index : Nat} {target : NodeId} (hmenu : session.menu = some menu)
    (hoption : menu.options[index]? = some option) (htarget : option.target = some target) :
    graph.contains target = true := by
  obtain ⟨number, hoffer⟩ := h.option_offered hmenu hoption
  obtain ⟨list, hlist, hmem⟩ := Script.get?_of_mem_listOf hoffer
  exact known hlist hmem htarget

theorem Session.Consistent.answer_error_cases (h : session.Consistent graph script)
    (hknown : session.Known graph) {call : Call} {error : PlayError}
    (herror : (Stage.answer ⟨graph, script, level⟩ session call).result = .error error) :
    (∃ state, error = .notAwaitingChoice state) ∨
      (∃ index available, error = .choiceOutOfRange index available) ∨
      ∃ node jumps, error = .runawayJumps node jumps := by
  rcases Stage.answer_cases ⟨graph, script, level⟩ session call with
    ⟨result, hidle, houtcome⟩ | ⟨start, hbegins⟩
  · rw [houtcome] at herror
    cases hidle with
    | step | advance => cases herror
    | notAwaiting =>
      cases herror
      exact .inl ⟨_, rfl⟩
    | outOfRange =>
      cases herror
      exact .inr (.inl ⟨_, _, rfl⟩)
    | unknownTarget _ hmenu hoption htarget hunknown =>
      have htarget := h.option_known known hmenu hoption htarget
      cases hunknown.symm.trans htarget
  · rw [hbegins.answer_eq] at herror
    exact .inr (.inr (Stage.step_error_eq_runaway known (hknown.begins hbegins) herror))

end Failing

/-- If the report on a graph and a script has no errors, whatever its warnings say, then no call on a session
that began at a node fails for a reason that lies in the graph: either there is nothing to choose, or the
choice is not on offer, or playing has gone in circles. -/
theorem error_cases_of_lint_errors {root node : NodeId}
    (herrors : (lint graph script root).errors = []) (hnode : graph.contains node = true)
    (moves : List Move) (move : Move) :
    let session := (Session.start node).after graph script moves
    ∀ error, (move.outcome graph script session).result = .error error →
      (∃ state, error = .notAwaitingChoice state) ∨
        (∃ index available, error = .choiceOutOfRange index available) ∨
        ∃ node jumps, error = .runawayJumps node jumps := by
  intro session error herror
  have known : Lint.TargetsKnown graph script := Lint.targetsKnown_of_errors herrors
  have hconsistent : session.Consistent graph script :=
    Session.consistent_after graph script node moves
  have hstart : (Session.start node).Known graph := hnode
  exact hconsistent.answer_error_cases known (hstart.after moves) herror

/-- Two nodes that lead to each other, though only one edge joins them: there are warnings and playing can go
in circles, but no call meets an unknown node. -/
theorem error_cases_of_circle :
    let graph : Graph := (((Graph.addNode { root := "inn" } ⟨"inn", "", .normal⟩).addNode
      ⟨"road", "", .normal⟩).addEdge ⟨"inn", "road", none⟩)
    let script : Script := (SortedMap.empty.insert "inn" [.jump "road"]).insert
      "road" [.openMenu, .offer 1 "Turn back" (some "inn"), .offer 2 "Rest" none]
    (lint graph script "inn").errors = [] ∧ (lint graph script "inn").warnings ≠ [] ∧
      graph.contains "road" = true ∧
      ∀ (moves : List Move) (move : Move),
        let session := (Session.start "road").after graph script moves
        ∀ error, (move.outcome graph script session).result = .error error →
          (∃ state, error = .notAwaitingChoice state) ∨
            (∃ index available, error = .choiceOutOfRange index available) ∨
            ∃ node jumps, error = .runawayJumps node jumps := by
  intro graph script
  have herrors : (lint graph script "inn").errors = [] := by decide +kernel
  have hwarnings : (lint graph script "inn").warnings ≠ [] := by decide +kernel
  have hnode : graph.contains "road" = true := by decide
  exact ⟨herrors, hwarnings, hnode, error_cases_of_lint_errors herrors hnode⟩

end Storyline
