-- SUMMARY: The turns that a call takes, one instruction each, and how it halts.
import Storyline.Proofs.Playback.Perform

/-!
# Turns

A call plays instruction after instruction. A *turn* is one of them that does not stop: the session goes on
behind it or in another node. A *passage* is the turns of one call in a row, and at the end of the passage
the call *halts*. `run_eq_passage` says that every run is a passage followed by a halt, so what every turn
and every halt keeps is kept by a run.
-/

namespace Storyline

/-- A session on which `step` plays. -/
structure Session.Ready (session : Session) : Prop where
  running : session.state = .running
  notWaiting : session.awaitingAdvance = false

theorem Session.not_ready_iff {session : Session} :
    ¬session.Ready ↔ session.state ≠ .running ∨ session.awaitingAdvance = true := by
  have hiff : session.Ready ↔ session.state = .running ∧ session.awaitingAdvance = false :=
    ⟨fun h => ⟨h.running, h.notWaiting⟩, fun h => ⟨h.1, h.2⟩⟩
  rw [hiff, Decidable.not_and_iff_not_or_not, Bool.not_eq_false]

theorem Session.ready_start (node : NodeId) : (start node).Ready := ⟨rfl, rfl⟩

theorem Session.ready_enter (session : Session) (target : NodeId) : (session.enter target).Ready :=
  ⟨rfl, rfl⟩

namespace Stage

open Playback

/-- One turn of a call that has made `made` jumps so far: what it fires, and the session and the number of
jumps with which the call goes on. -/
inductive Turn (stage : Stage) (made : Nat) (session : Session) :
    List Event → Nat → Session → Prop where
  | proceed {list rest : List Instruction} {instruction : Instruction} {next : Session}
      {skipped : Nat} {events : List Event}
      (script : stage.script.get? session.node = some list)
      (front : list.drop session.position = instruction :: rest)
      (performed : perform stage.level session rest instruction = .proceed next skipped events) :
      Turn stage made session events made { next with position := session.position + 1 + skipped }
  | jump {list rest : List Instruction} {target : NodeId}
      (script : stage.script.get? session.node = some list)
      (front : list.drop session.position = .jump target :: rest)
      (allowed : made + 1 ≤ stage.graph.size)
      (known : stage.graph.contains target = true) :
      Turn stage made session [] (made + 1) (session.enter target)

/-- Any number of turns in a row. -/
inductive Passage (stage : Stage) : Nat → Session → List Event → Nat → Session → Prop where
  | here (made : Nat) (session : Session) : Passage stage made session [] made session
  | turn {made made' made'' : Nat} {session next last : Session} {events fired : List Event} :
      Turn stage made session events made' next →
      Passage stage made' next fired made'' last →
      Passage stage made session (events ++ fired) made'' last

/-- How a call ends that has come to a session after `made` jumps. -/
inductive Halt (stage : Stage) (made : Nat) (session : Session) : Outcome → Prop where
  | unscripted (script : stage.script.get? session.node = none) :
      Halt stage made session
        ⟨(finish session).1, [.anomaly (.emptyNode session.node), .finished session.node],
          .ok .finished⟩
  | atEnd {list : List Instruction}
      (script : stage.script.get? session.node = some list)
      (front : list.drop session.position = []) :
      Halt stage made session ⟨(finish session).1, [.finished session.node], .ok .finished⟩
  | stop {list rest : List Instruction} {instruction : Instruction} {next : Session}
      {events : List Event}
      (script : stage.script.get? session.node = some list)
      (front : list.drop session.position = instruction :: rest)
      (performed : perform stage.level session rest instruction = .stop next events) :
      Halt stage made session ⟨next, events, .ok next.state⟩
  | runaway {list rest : List Instruction} {target : NodeId}
      (script : stage.script.get? session.node = some list)
      (front : list.drop session.position = .jump target :: rest)
      (exceeded : stage.graph.size < made + 1) :
      Halt stage made session ⟨session, [], .error (.runawayJumps target (made + 1))⟩
  | unknownTarget {list rest : List Instruction} {target : NodeId}
      (script : stage.script.get? session.node = some list)
      (front : list.drop session.position = .jump target :: rest)
      (allowed : made + 1 ≤ stage.graph.size)
      (unknown : stage.graph.contains target = false) :
      Halt stage made session ⟨session, [], .error (.structural (.unknownNode target))⟩

theorem Turn.ready {stage : Stage} {made made' : Nat} {session next : Session} {events : List Event}
    (turn : Turn stage made session events made' next) (h : session.Ready) : next.Ready := by
  cases turn with
  | proceed _ _ performed =>
    rw [perform_proceed_frame performed]
    exact ⟨h.running, h.notWaiting⟩
  | jump => exact session.ready_enter _

theorem Passage.trans {stage : Stage} {made made' made'' : Nat} {session middle last : Session}
    {fired later : List Event} (first : Passage stage made session fired made' middle)
    (second : Passage stage made' middle later made'' last) :
    Passage stage made session (fired ++ later) made'' last := by
  induction first with
  | here => exact second
  | turn hturn _ ih =>
    rw [List.append_assoc]
    exact .turn hturn (ih second)

theorem Passage.made_le {stage : Stage} {made made' : Nat} {session last : Session}
    {fired : List Event} (passage : Passage stage made session fired made' last) : made ≤ made' := by
  induction passage with
  | here => exact Nat.le_refl _
  | turn turn _ ih =>
    cases turn with
    | proceed => exact ih
    | jump => exact Nat.le_of_succ_le ih

/-- The jumps of a passage stay within the limit. -/
theorem Passage.made_allowed {stage : Stage} {made made' : Nat} {session last : Session}
    {fired : List Event} (passage : Passage stage made session fired made' last)
    (h : made ≤ stage.graph.size) : made' ≤ stage.graph.size := by
  induction passage with
  | here => exact h
  | turn turn _ ih =>
    cases turn with
    | proceed => exact ih h
    | jump _ _ allowed => exact ih allowed

theorem Passage.ready {stage : Stage} {made made' : Nat} {session last : Session}
    {fired : List Event} (passage : Passage stage made session fired made' last) (h : session.Ready) :
    last.Ready := by
  induction passage with
  | here => exact h
  | turn turn _ ih => exact ih (turn.ready h)

/-- What holds of a session and of all that was fired on the way to it, and is kept by every turn, holds at the
end of a passage. -/
theorem Passage.carries {stage : Stage} {Keeps : List Event → Session → Prop}
    (hturn : ∀ {past made session events made' next}, session.Ready → Keeps past session →
      Turn stage made session events made' next → Keeps (past ++ events) next)
    {made made' : Nat} {session last : Session} {past fired : List Event}
    (passage : Passage stage made session fired made' last) (hready : session.Ready)
    (h : Keeps past session) : Keeps (past ++ fired) last := by
  induction passage generalizing past with
  | here => rwa [List.append_nil]
  | turn turn _ ih =>
    rw [← List.append_assoc]
    exact ih (turn.ready hready) (hturn hready h turn)

/-- The nodes that are entered on a passage are counted by its jumps. -/
theorem Passage.trail_length {stage : Stage} {made made' : Nat} {session last : Session}
    {fired : List Event} (passage : Passage stage made session fired made' last) :
    last.trail.length + made = session.trail.length + made' := by
  induction passage with
  | here => rfl
  | turn turn _ ih =>
    cases turn with
    | proceed _ _ performed =>
      rw [perform_proceed_frame performed] at ih
      exact ih
    | jump =>
      rw [Session.enter, List.length_cons] at ih
      omega

theorem Halt.trail {stage : Stage} {made : Nat} {session : Session} {outcome : Outcome}
    (halt : Halt stage made session outcome) : outcome.session.trail = session.trail := by
  cases halt with
  | unscripted | atEnd | runaway | unknownTarget => rfl
  | stop _ _ performed =>
    rcases perform_stop_cases performed with ⟨_, _, _, rfl, _⟩ | ⟨_, _, _, rfl, _⟩ <;> rfl

/-- How playing inside one node ends at `last`. -/
inductive NodeEnd (level : LevelLookup) (list : List Instruction) (last : Session) :
    NodeOutcome → Prop where
  | atEnd (front : list.drop last.position = []) :
      NodeEnd level list last ⟨(finish last).1, [.finished last.node], none⟩
  | stop {rest : List Instruction} {instruction : Instruction} {next : Session}
      {events : List Event}
      (front : list.drop last.position = instruction :: rest)
      (performed : perform level last rest instruction = .stop next events) :
      NodeEnd level list last ⟨next, events, none⟩
  | jump {rest : List Instruction} {target : NodeId}
      (front : list.drop last.position = .jump target :: rest) :
      NodeEnd level list last ⟨last, [], some target⟩

theorem playNode_eq_passage (stage : Stage) (made : Nat) {session : Session}
    {list remaining : List Instruction} (hscript : stage.script.get? session.node = some list)
    (hremaining : list.drop session.position = remaining) :
    ∃ fired last ended, Passage stage made session fired made last ∧
      last.node = session.node ∧ NodeEnd stage.level list last ended ∧
      playNode stage.level session remaining = { ended with events := fired ++ ended.events } := by
  fun_induction playNode stage.level session remaining with
  | case1 session finished events hfinish =>
    cases hfinish
    exact ⟨[], session, _, .here made session, rfl, .atEnd hremaining, rfl⟩
  | case2 session instruction rest next skipped events hperform outcome ih =>
    have hnode : next.node = session.node := by rw [perform_proceed_frame hperform]
    have hrest := behind_of_front hremaining
    obtain ⟨fired, last, ended, hpassage, hlast, hended, houtcome⟩ :=
      ih (hnode ▸ hscript) (by rw [← hrest, List.drop_drop])
    refine ⟨events ++ fired, last, ended, .turn (.proceed hscript hremaining hperform) hpassage,
      hlast.trans hnode, hended, ?_⟩
    rw [show outcome = _ from houtcome, List.append_assoc]
  | case3 session instruction rest next events hperform =>
    exact ⟨[], session, _, .here made session, rfl, .stop hremaining hperform, rfl⟩
  | case4 session instruction rest target hperform =>
    obtain rfl := perform_jump hperform
    exact ⟨[], session, _, .here made session, rfl, .jump hremaining, rfl⟩

/-- A run is a passage and a halt. -/
theorem run_eq_passage (stage : Stage) (made : Nat) (session : Session) :
    ∃ fired made' last ended, Passage stage made session fired made' last ∧
      Halt stage made' last ended ∧
      stage.run made session = { ended with events := fired ++ ended.events } := by
  unfold run
  split
  · exact ⟨[], made, session, _, .here made session, .unscripted ‹_›, rfl⟩
  · rename_i list hscript
    obtain ⟨fired, last, ended, hpassage, hlast, hended, hplayed⟩ :=
      playNode_eq_passage stage made hscript rfl
    rw [← hlast] at hscript
    simp only [hplayed]
    cases hended with
    | atEnd front => exact ⟨fired, made, last, _, hpassage, .atEnd hscript front, rfl⟩
    | stop front performed =>
      exact ⟨fired, made, last, _, hpassage, .stop hscript front performed, rfl⟩
    | @jump _ target front =>
      dsimp only
      split
      · exact ⟨fired, made, last, _, hpassage, .runaway hscript front ‹_›, by simp⟩
      · rename_i hsize
        split
        · rename_i hknown
          have hturn := Turn.jump hscript front (Nat.le_of_not_lt hsize) hknown
          obtain ⟨later, made', final, ended, hlater, hended, houtcome⟩ :=
            run_eq_passage stage (made + 1) (last.enter target)
          exact ⟨_, made', final, ended, hpassage.trans (.turn hturn hlater), hended, by
            simp [houtcome]⟩
        · rename_i hunknown
          exact ⟨fired, made, last, _, hpassage,
            .unknownTarget hscript front (Nat.le_of_not_lt hsize) (eq_false_of_ne_true hunknown),
            by simp⟩
termination_by stage.graph.size - made

end Stage

end Storyline
