-- SUMMARY: After a clean report there are only so many calls that change anything.
import Storyline.Proofs.Playback.Sound

/-!
# Finite playing

Inside a node playing goes forward, and no node is entered twice. So what is left to play shrinks: the rest of
the current list and the lists of the nodes that were not visited. A call that plays uses up at least one
instruction of it, the one that the player was waiting at, except for the first step of a session.
-/

namespace Storyline

open Playback

/-- The outcome of a call that has succeeded and come to rest. -/
structure Outcome.Rests (graph : Graph) (script : Script) (outcome : Outcome) : Prop where
  sound : outcome.session.Sound graph script
  answers : outcome.result = .ok outcome.session.state
  unready : ¬outcome.session.Ready

/-! ## What is left to play -/

namespace Script

/-- The number of instructions in the lists of all nodes but the given ones. -/
def lengthWithout (script : Script) (visited : List NodeId) : Nat :=
  ((script.entries.filter fun entry => !visited.contains entry.1).flatMap (·.2)).length

/-- The number of all instructions. -/
def length (script : Script) : Nat :=
  (script.entries.flatMap (·.2)).length

theorem lengthWithout_nil (script : Script) : script.lengthWithout [] = script.length := by
  simp [lengthWithout, length]

/-- A node that is visited for the first time takes its list away from the others. -/
theorem lengthWithout_cons {script : Script} {id : NodeId} {list : List Instruction}
    {visited : List NodeId} (hlist : script.get? id = some list) (hnew : id ∉ visited) :
    script.lengthWithout (id :: visited) + list.length = script.lengthWithout visited := by
  obtain ⟨front, behind, hsplit, hfront⟩ := List.lookup_eq_some_iff.1 hlist
  have hsorted := script.sorted
  rw [hsplit, List.pairwise_append, List.pairwise_cons] at hsorted
  have hbehind : ∀ entry ∈ behind, entry.1 ≠ id := by
    intro entry hentry hid
    have hlt := hsorted.2.1.1 entry hentry
    rw [hid] at hlt
    exact String.lt_irrefl id hlt
  have hfront' : ∀ entry ∈ front, entry.1 ≠ id := by
    intro entry hentry hid
    simpa [hid] using hfront entry hentry
  have hsame (entries : List (String × List Instruction)) (h : ∀ entry ∈ entries, entry.1 ≠ id) :
      (entries.filter fun entry => !(id :: visited).contains entry.1) =
        entries.filter fun entry => !visited.contains entry.1 := by
    apply List.filter_congr
    intro entry hentry
    simp [h entry hentry]
  have hvisited : (!(id :: visited).contains id) = false := by simp
  have hunvisited : (!visited.contains id) = true := by simp [hnew]
  unfold lengthWithout
  simp only [hsplit, List.filter_append, List.filter_cons, hsame front hfront',
    hsame behind hbehind, hvisited, hunvisited, Bool.false_eq_true, if_false, if_true,
    List.flatMap_append, List.flatMap_cons, List.length_append]
  omega

end Script

namespace Session

/-- What is left to play of the script, in instructions. -/
def remaining (script : Script) (session : Session) : Nat :=
  script.lengthWithout session.trail + ((script.listOf session.node).length - session.position)

variable {graph : Graph} {script : Script} {session : Session}

/-- Whatever has moved a session forward inside its node has left less to play. -/
theorem remaining_lt_of_position {moved : Session} (hnode : moved.node = session.node)
    (htrail : moved.trail = session.trail) (hforward : session.position < moved.position)
    (hposition : moved.position ≤ (script.listOf session.node).length) :
    moved.remaining script < session.remaining script := by
  unfold remaining
  rw [hnode, htrail]
  omega

/-- A node that is entered for the first time has less to play than was left in front of it. -/
theorem remaining_enter_lt {target : NodeId} {list : List Instruction}
    (hlist : script.get? target = some list) (hnew : target ∉ session.trail)
    (hposition : session.position < (script.listOf session.node).length) :
    (session.enter target).remaining script < session.remaining script := by
  have hlength := Script.lengthWithout_cons hlist hnew
  unfold remaining enter
  simp only [Script.listOf_of_get? hlist]
  omega

namespace Sound

variable {level : LevelLookup} {made made' : Nat} {events fired : List Event} {next last : Session}

variable (clean : Lint.Clean graph script)
include clean

theorem remaining_turn (h : session.Sound graph script) (hready : session.Ready)
    (hturn : Stage.Turn ⟨graph, script, level⟩ made session events made' next) :
    next.remaining script < session.remaining script := by
  have hnext := (h.turn clean hready hturn).position_le
  cases hturn with
  | @proceed _ _ _ next _ _ _ _ performed =>
    have hframe := perform_proceed_frame performed
    have hnode : next.node = session.node := by rw [hframe]
    have htrail : next.trail = session.trail := by rw [hframe]
    dsimp only at hnext
    rw [hnode] at hnext
    exact remaining_lt_of_position hnode htrail (by dsimp only; omega) hnext
  | jump hscript hfront _ hknown =>
    have hleads := (clean.leads hscript (mem_of_front hfront) rfl).2
    obtain ⟨list, hlist⟩ := clean.scripted hknown
    have hlength := length_of_front hfront
    apply remaining_enter_lt hlist (h.not_mem_trail clean hknown hleads)
    rw [Script.listOf_of_get? hscript]
    omega

theorem remaining_passage (h : session.Sound graph script) (hready : session.Ready)
    (hpassage : Stage.Passage ⟨graph, script, level⟩ made session fired made' last) :
    last.remaining script ≤ session.remaining script := by
  induction hpassage with
  | here => exact Nat.le_refl _
  | turn hturn _ ih =>
    have hlt := h.remaining_turn clean hready hturn
    have hle := ih (h.turn clean hready hturn) (hturn.ready hready)
    omega

end Sound

theorem remaining_halt {stage : Stage} {made : Nat} {outcome : Outcome}
    (hhalt : stage.Halt made session outcome) :
    outcome.session.remaining script = session.remaining script := by
  cases hhalt with
  | unscripted | atEnd | runaway | unknownTarget => rfl
  | stop _ _ performed =>
    rcases perform_stop_cases performed with ⟨_, _, _, rfl, _⟩ | ⟨_, _, _, rfl, _⟩ <;> rfl

/-! ## What calls use up -/

instance (session : Session) : Decidable session.Ready :=
  decidable_of_iff (session.state = .running ∧ session.awaitingAdvance = false)
    ⟨fun h => ⟨h.1, h.2⟩, fun h => ⟨h.running, h.notWaiting⟩⟩

/-- At most so many calls can still change the session: one for every instruction that is left, and one if it
does not wait for the player. -/
def toGo (script : Script) (session : Session) : Nat :=
  (if session.Ready then 1 else 0) + session.remaining script

theorem toGo_of_ready (h : session.Ready) : session.toGo script = 1 + session.remaining script := by
  unfold toGo
  rw [if_pos h]

theorem toGo_of_not_ready (h : ¬session.Ready) :
    session.toGo script = session.remaining script := by
  unfold toGo
  rw [if_neg h, Nat.zero_add]

theorem toGo_start (clean : Lint.Clean graph script) :
    (start graph.root).toGo script = 1 + script.length := by
  obtain ⟨list, hlist⟩ := clean.scripted clean.root_known
  have hlength := Script.lengthWithout_cons hlist (List.not_mem_nil : graph.root ∉ [])
  rw [Script.lengthWithout_nil] at hlength
  rw [toGo_of_ready (ready_start graph.root), remaining]
  simp only [start, Script.listOf_of_get? hlist]
  omega

/-- A menu that is up begins at an instruction. -/
theorem Consistent.lt_resumeAt (h : session.Consistent graph script) {menu : Menu}
    (hmenu : session.menu = some menu) : session.position < menu.resumeAt := by
  obtain ⟨hoptions, hfrom⟩ := h.menu_shown menu hmenu
  rw [hfrom] at hoptions ⊢
  exact lt_menuFrom_resumeAt hoptions

namespace Sound

variable (clean : Lint.Clean graph script)
include clean

/-- A step succeeds and comes to rest. -/
theorem rests_step (h : session.Sound graph script) (level : LevelLookup) :
    (Stage.step ⟨graph, script, level⟩ session).Rests graph script := by
  obtain ⟨state, hok⟩ := h.step_eq_ok clean level
  have hsettled := Stage.step_settled ⟨graph, script, level⟩ session
  rw [Stage.Settled, hok] at hsettled
  exact ⟨(h.answer clean level .step).1, by rw [hok, hsettled.1], hsettled.2⟩

theorem remaining_step (h : session.Sound graph script) (level : LevelLookup) :
    (Stage.step ⟨graph, script, level⟩ session).session.remaining script ≤
      session.remaining script := by
  by_cases hready : session.Ready
  · obtain ⟨fired, made, last, ended, hpassage, hhalt, houtcome⟩ :=
      Stage.step_eq_passage ⟨graph, script, level⟩ hready (h.node_known clean)
    rw [houtcome]
    exact (remaining_halt hhalt).trans_le (h.remaining_passage clean hready hpassage)
  · rw [Stage.step_of_unready _ hready]

/-- A call that does not play on where it stands uses up the instruction that the player waited at. -/
theorem remaining_begins (h : session.Sound graph script) {level : LevelLookup} {call : Call}
    {start : Session}
    (hbegins : Stage.Begins ⟨graph, script, level⟩ session call start) :
    start.remaining script < session.toGo script := by
  cases hbegins with
  | step hready =>
    rw [toGo_of_ready hready]
    omega
  | advance hstate hwaiting =>
    have hlt := h.lt_length_of_waiting hwaiting
    have hunready : ¬session.Ready := not_ready_iff.2 (.inr hwaiting)
    rw [toGo_of_not_ready hunready, Stage.positionAfter, if_pos hlt]
    exact remaining_lt_of_position rfl rfl (Nat.lt_succ_self _) hlt
  | @enter _ _ option target hstate hmenu hoption htarget hknown =>
    have hlt := h.lt_resumeAt hmenu
    have hle := h.menu_resumeAt_le hmenu
    have hleads := (h.option_leads clean hmenu hoption htarget).2
    have hunready : ¬session.Ready := not_ready_iff.2 (.inl (by simp [hstate]))
    obtain ⟨list, hlist⟩ := clean.scripted hknown
    rw [toGo_of_not_ready hunready]
    have hless : ((Stage.record session option).enter target).remaining script <
        (Stage.record session option).remaining script :=
      remaining_enter_lt hlist (h.not_mem_trail clean hknown hleads) (Nat.lt_of_lt_of_le hlt hle)
    exact hless
  | resume hstate hmenu hoption =>
    have hlt := h.lt_resumeAt hmenu
    have hle := h.menu_resumeAt_le hmenu
    have hunready : ¬session.Ready := not_ready_iff.2 (.inl (by simp [hstate]))
    rw [toGo_of_not_ready hunready]
    exact remaining_lt_of_position rfl rfl hlt hle

/-- A call leaves the session as it is or brings it nearer to its end. -/
theorem toGo_answer (h : session.Sound graph script) (level : LevelLookup) (call : Call) :
    let next := (Stage.answer ⟨graph, script, level⟩ session call).session
    next = session ∨ next.toGo script < session.toGo script := by
  rcases Stage.answer_cases ⟨graph, script, level⟩ session call with
    ⟨result, _, houtcome⟩ | ⟨start, hbegins⟩
  · left
    rw [houtcome]
  · have hstart := h.begins clean hbegins
    have hlt := h.remaining_begins clean hbegins
    have hle := hstart.remaining_step clean level
    rw [hbegins.answer_eq]
    right
    rw [toGo_of_not_ready (hstart.rests_step clean level).unready]
    exact Nat.lt_of_le_of_lt hle hlt

end Sound

/-- How many moves of a sequence change the session. -/
def changes (graph : Graph) (script : Script) (session : Session) : List Move → Nat
  | [] => 0
  | move :: rest =>
    (if (move.outcome graph script session).session = session then 0 else 1) +
      (move.outcome graph script session).session.changes graph script rest

theorem Sound.after (clean : Lint.Clean graph script) (h : session.Sound graph script)
    (moves : List Move) : (session.after graph script moves).Sound graph script := by
  apply after_preserves graph script _ h moves
  intro session move h
  exact (h.answer clean move.level move.call).1

theorem Sound.changes_le (clean : Lint.Clean graph script) (h : session.Sound graph script)
    (moves : List Move) :
    session.changes graph script moves + (session.after graph script moves).toGo script ≤
      session.toGo script := by
  induction moves generalizing session with
  | nil => exact Nat.le_of_eq (Nat.zero_add _)
  | cons move rest ih =>
    have hmove : (move.outcome graph script session).session = session ∨
        (move.outcome graph script session).session.toGo script < session.toGo script :=
      h.toGo_answer clean move.level move.call
    have hnext : (move.outcome graph script session).session.Sound graph script :=
      (h.answer clean move.level move.call).1
    have hrest := ih hnext
    rw [changes, Session.after]
    by_cases hsame : (move.outcome graph script session).session = session
    · rw [if_pos hsame]
      rw [hsame] at hrest ⊢
      omega
    · have hlt := hmove.resolve_left hsame
      rw [if_neg hsame]
      omega

end Session

end Storyline
