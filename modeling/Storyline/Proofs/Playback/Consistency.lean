-- SUMMARY: What the fields of a session have to do with each other, whatever calls were made.
import Storyline.Proofs.Playback.Calls

/-!
# Consistent sessions

The fields of a session depend on each other: a menu is up in one state only and shows the offers at the
current position, a line that waits is the line on display, and so on. `Session.Consistent` collects these
dependencies. Every turn, every halt and every beginning of a call keeps them, so they hold after any
sequence of calls, also after calls that fail.
-/

namespace Storyline

open Playback

variable {graph : Graph} {script : Script}

namespace Session

theorem visited_enter (session : Session) (target : NodeId) :
    (session.enter target).visited = session.visited ++ [target] :=
  List.reverse_cons

/-- How the fields of a session that is played on a graph and a script belong together. -/
structure Consistent (graph : Graph) (script : Script) (session : Session) : Prop where
  /-- A menu is up exactly while a choice is awaited. -/
  menu_up : session.state = .awaitingChoice ↔ session.menu.isSome = true
  /-- It shows the offers at the current position, and there are some. -/
  menu_shown : ∀ menu, session.menu = some menu → menu.options ≠ [] ∧
    menu = menuFrom session.position ((script.listOf session.node).drop session.position)
  /-- Only a running session waits on a line: the one at the current position, which is on display. -/
  line_shown : session.awaitingAdvance = true → session.state = .running ∧
    ∃ instruction speaker text,
      (script.listOf session.node)[session.position]? = some instruction ∧
      instruction.spoken? = some (speaker, text) ∧
      session.display.speaker = speaker ∧ session.display.text = some text
  position_le : session.position ≤ (script.listOf session.node).length
  /-- The current node was entered last. -/
  visited_last : session.visited.getLast? = some session.node
  /-- Only the node at which playing began may be unknown. -/
  visited_known : ∀ id ∈ session.visited.tail, graph.contains id = true
  /-- Every choice was on offer in its node. -/
  history_offered : ∀ choice ∈ session.history,
    ∃ index, .offer index choice.text choice.target ∈ script.listOf choice.node

theorem consistent_start (graph : Graph) (script : Script) (node : NodeId) :
    (start node).Consistent graph script where
  menu_up := by simp [start]
  menu_shown := by simp [start]
  line_shown := by simp [start]
  position_le := Nat.zero_le _
  visited_last := rfl
  visited_known := by simp [start, visited]
  history_offered := by simp [start, history]

namespace Consistent

variable {session : Session}

theorem menu_eq_none (h : session.Consistent graph script) (hready : session.Ready) :
    session.menu = none := by
  cases hmenu : session.menu with
  | none => rfl
  | some menu =>
    have hstate := h.menu_up.2 (by rw [hmenu]; rfl)
    rw [hready.running] at hstate
    cases hstate

theorem not_waiting (h : session.Consistent graph script) (hstate : session.state ≠ .running) :
    session.awaitingAdvance = false :=
  Bool.eq_false_iff.2 fun hwaiting => hstate (h.line_shown hwaiting).1

theorem lt_length_of_waiting (h : session.Consistent graph script)
    (hwaiting : session.awaitingAdvance = true) :
    session.position < (script.listOf session.node).length := by
  obtain ⟨_, _, _, _, hline, _⟩ := h.line_shown hwaiting
  exact (List.getElem?_eq_some_iff.1 hline).1

/-- Whatever has moved a session inside its node: it is consistent if it can play on without a menu. -/
theorem move {moved : Session} (h : session.Consistent graph script) (hready : moved.Ready)
    (hmenu : moved.menu = none) (hnode : moved.node = session.node)
    (htrail : moved.trail = session.trail) (hchoices : moved.choices = session.choices)
    (hposition : moved.position ≤ (script.listOf session.node).length) :
    moved.Consistent graph script where
  menu_up := by simp [hready.running, hmenu]
  menu_shown := by simp [hmenu]
  line_shown := by simp [hready.notWaiting]
  position_le := hnode ▸ hposition
  visited_last := by
    unfold visited
    rw [htrail, hnode]
    exact h.visited_last
  visited_known := by
    unfold visited
    rw [htrail]
    exact h.visited_known
  history_offered := by
    unfold history
    rw [hchoices]
    exact h.history_offered

/-- Another node is entered consistently, whatever the session was doing. -/
theorem enter (h : session.Consistent graph script) {target : NodeId}
    (hknown : graph.contains target = true) : (session.enter target).Consistent graph script where
  menu_up := by simp [Session.enter]
  menu_shown := by simp [Session.enter]
  line_shown := by simp [Session.enter]
  position_le := Nat.zero_le _
  visited_last := by rw [visited_enter, List.getLast?_concat]; rfl
  visited_known := by
    have hne : session.visited ≠ [] := by
      intro hnil
      have hlast := h.visited_last
      rw [hnil] at hlast
      cases hlast
    rw [visited_enter, List.tail_append_of_ne_nil hne]
    intro id hid
    rcases List.mem_append.1 hid with hid | hid
    · exact h.visited_known id hid
    · rwa [List.mem_singleton.1 hid]
  history_offered := h.history_offered

/-- An option of the menu that is up is an offer of the current node. -/
theorem option_offered (h : session.Consistent graph script) {menu : Menu} {option : MenuOption}
    {index : Nat} (hmenu : session.menu = some menu) (hoption : menu.options[index]? = some option) :
    ∃ number, .offer number option.text option.target ∈ script.listOf session.node := by
  have hmem := List.mem_of_getElem? hoption
  rw [(h.menu_shown menu hmenu).2] at hmem
  obtain ⟨number, hoffer⟩ := offer_mem_of_menuFrom hmem
  exact ⟨number, List.mem_of_mem_drop hoffer⟩

/-- A choice from the menu that is up may be put into the history. -/
theorem record (h : session.Consistent graph script) {menu : Menu} {option : MenuOption}
    {index : Nat} (hmenu : session.menu = some menu) (hoption : menu.options[index]? = some option) :
    (Stage.record session option).Consistent graph script :=
  { h with
    history_offered := by
      intro choice hchoice
      rcases List.mem_cons.1 (List.mem_reverse.1 hchoice) with rfl | hchoice
      · exact h.option_offered hmenu hoption
      · exact h.history_offered choice (List.mem_reverse.2 hchoice) }

theorem menu_resumeAt_le (h : session.Consistent graph script) {menu : Menu}
    (hmenu : session.menu = some menu) : menu.resumeAt ≤ (script.listOf session.node).length := by
  have hresume := menuFrom_resumeAt_le session.position
    ((script.listOf session.node).drop session.position)
  have hle := h.position_le
  rw [← (h.menu_shown menu hmenu).2, List.length_drop] at hresume
  omega

theorem turn (h : session.Consistent graph script) (hready : session.Ready) {level : LevelLookup}
    {made made' : Nat} {events : List Event} {next : Session}
    (hturn : Stage.Turn ⟨graph, script, level⟩ made session events made' next) :
    next.Consistent graph script := by
  have hready' := hturn.ready hready
  cases hturn with
  | jump _ _ _ hknown => exact h.enter hknown
  | proceed hscript hfront hperform =>
    have hlength := length_of_front hfront
    have hskipped := perform_skipped_le hperform
    rw [perform_proceed_frame hperform] at hready' ⊢
    apply h.move hready' (h.menu_eq_none hready) rfl rfl rfl
    rw [Script.listOf_of_get? hscript]
    dsimp only
    omega

theorem halt (h : session.Consistent graph script) (hready : session.Ready) {level : LevelLookup}
    {made : Nat} {outcome : Outcome} (hhalt : Stage.Halt ⟨graph, script, level⟩ made session outcome) :
    outcome.session.Consistent graph script := by
  cases hhalt with
  | unscripted | atEnd =>
    exact
      { menu_up := by simp [finish]
        menu_shown := by simp [finish]
        line_shown := by simp [finish, hready.notWaiting]
        position_le := h.position_le
        visited_last := h.visited_last
        visited_known := h.visited_known
        history_offered := h.history_offered }
  | runaway | unknownTarget => exact h
  | stop hscript hfront hperform =>
    have hlist := Script.listOf_of_get? hscript
    rcases perform_stop_cases hperform with
      ⟨speaker, text, hspoken, rfl, _⟩ | ⟨menu, rfl, hoptions, rfl, _⟩
    · exact
        { menu_up := h.menu_up
          menu_shown := h.menu_shown
          line_shown := fun _ => ⟨hready.running, _, speaker, text,
            hlist.symm ▸ getElem?_of_front hfront, hspoken, rfl, rfl⟩
          position_le := h.position_le
          visited_last := h.visited_last
          visited_known := h.visited_known
          history_offered := h.history_offered }
    · exact
        { menu_up := by simp
          menu_shown := by
            rintro menu ⟨⟩
            exact ⟨hoptions, by rw [hlist, hfront]⟩
          line_shown := by simp [hready.notWaiting]
          position_le := h.position_le
          visited_last := h.visited_last
          visited_known := h.visited_known
          history_offered := h.history_offered }

theorem begins (h : session.Consistent graph script) {level : LevelLookup} {call : Call}
    {start : Session} (hbegins : Stage.Begins ⟨graph, script, level⟩ session call start) :
    start.Consistent graph script := by
  cases hbegins with
  | step => exact h
  | advance hstate hwaiting =>
    have hlt := h.lt_length_of_waiting hwaiting
    have hmenu : session.menu = none := by
      have hup := h.menu_up
      rw [hstate] at hup
      simpa using hup
    refine h.move ⟨hstate, rfl⟩ hmenu rfl rfl rfl ?_
    unfold Stage.positionAfter
    rw [if_pos hlt]
    exact hlt
  | enter _ hmenu hoption _ hknown => exact (h.record hmenu hoption).enter hknown
  | resume hstate hmenu hoption =>
    exact (h.record hmenu hoption).move ⟨rfl, h.not_waiting (by simp [hstate])⟩ rfl rfl rfl rfl
      (h.menu_resumeAt_le hmenu)

end Consistent

/-- After any calls, under any levels, the session is consistent. -/
theorem consistent_after (graph : Graph) (script : Script) (node : NodeId) (moves : List Move) :
    ((start node).after graph script moves).Consistent graph script := by
  apply after_preserves graph script _ (consistent_start graph script node) moves
  intro session move h
  exact (Stage.answer_preserves ⟨graph, script, move.level⟩ (fun h => h.begins)
    (fun hready h hturn => ⟨h.turn hready hturn, fun _ _ => trivial⟩)
    (fun hready h hhalt => ⟨h.halt hready hhalt, fun _ _ => trivial⟩) h move.call).1

/-- After any calls, under any levels and whether they failed or not, the session is consistent, and a
further step either comes to rest in the state that it answers with or leaves the session to be played on. -/
theorem consistent_and_settled_after (graph : Graph) (script : Script) (node : NodeId)
    (moves : List Move) :
    ((start node).after graph script moves).Consistent graph script ∧
      ∀ level, Stage.Settled
        (Stage.step ⟨graph, script, level⟩ ((start node).after graph script moves)) :=
  ⟨consistent_after graph script node moves, fun _ => Stage.step_settled _ _⟩

end Session

end Storyline
