-- SUMMARY: Plays, in which every call is one that the session asks for.
import Storyline.Proofs.Playback.CleanPlay

/-!
# Plays

A session that is not over asks the player for something: to step, to advance the line on display, or to pick
from the menu. A *play* makes no other calls. Where playing is sound, calls that are asked for do not fail and
use up what is left of the script, so plays are short, and a play that cannot go on has come to an end.
-/

namespace Storyline

variable {graph : Graph} {script : Script} {session : Session} {call : Call}

namespace Session

/-- Does a session ask for this call? A menu asks for any of its options. -/
inductive Asks (session : Session) : Call → Prop where
  | step (ready : session.Ready) : Asks session .step
  | advance (state : session.state = .running) (waiting : session.awaitingAdvance = true) :
      Asks session .advance
  | choose {menu : Menu} {index : Nat} (state : session.state = .awaitingChoice)
      (shown : session.menu = some menu) (offered : index < menu.options.length) :
      Asks session (.choose index)

/-- Is every one of these moves asked for by the session that it is made on? -/
def IsPlay (graph : Graph) (script : Script) (session : Session) : List Move → Prop
  | [] => True
  | move :: rest =>
    session.Asks move.call ∧ (move.outcome graph script session).session.IsPlay graph script rest

end Session

/-- A call that begins to play was asked for. -/
theorem Stage.Begins.asks {stage : Stage} {start : Session}
    (begins : Begins stage session call start) : session.Asks call := by
  cases begins with
  | step ready => exact .step ready
  | advance state waiting => exact .advance state waiting
  | enter state shown picked | resume state shown picked =>
    exact .choose state shown (List.getElem?_eq_some_iff.1 picked).1

namespace Session.Sound

variable (clean : Lint.Clean graph script)
include clean

theorem begins_of_asks (h : session.Sound graph script) (hasks : session.Asks call)
    (level : LevelLookup) :
    ∃ start, Stage.Begins ⟨graph, script, level⟩ session call start := by
  cases hasks with
  | step ready => exact ⟨session, .step ready⟩
  | advance state waiting => exact ⟨_, .advance state waiting⟩
  | choose state shown offered =>
    exact h.choose_begins level clean state shown (List.getElem?_eq_getElem offered)

/-- What is asked for does not fail. -/
theorem asked_eq_ok (h : session.Sound graph script) (hasks : session.Asks call)
    (level : LevelLookup) :
    ∃ state, (Stage.answer ⟨graph, script, level⟩ session call).result = .ok state := by
  obtain ⟨start, hbegins⟩ := h.begins_of_asks clean hasks level
  rw [hbegins.answer_eq]
  exact (h.begins clean hbegins).step_eq_ok clean level

theorem toGo_asked (h : session.Sound graph script) (hasks : session.Asks call)
    (level : LevelLookup) :
    (Stage.answer ⟨graph, script, level⟩ session call).session.toGo script < session.toGo script := by
  obtain ⟨start, hbegins⟩ := h.begins_of_asks clean hasks level
  have hstart := h.begins clean hbegins
  rw [hbegins.answer_eq, toGo_of_not_ready (hstart.rests_step clean level).unready]
  exact Nat.lt_of_le_of_lt (hstart.remaining_step clean level) (h.remaining_begins clean hbegins)

/-- A play makes at most as many moves as are left to go. -/
theorem length_play_le (h : session.Sound graph script) {moves : List Move}
    (hplay : session.IsPlay graph script moves) :
    moves.length + (session.after graph script moves).toGo script ≤ session.toGo script := by
  induction moves generalizing session with
  | nil => exact Nat.le_of_eq (Nat.zero_add _)
  | cons move rest ih =>
    obtain ⟨hasks, hrest⟩ := hplay
    have hlt : (move.outcome graph script session).session.toGo script < session.toGo script :=
      h.toGo_asked clean hasks move.level
    have hnext : (move.outcome graph script session).session.Sound graph script :=
      (h.answer clean move.level move.call).1
    have hle := ih hnext hrest
    rw [List.length_cons, Session.after]
    omega

omit clean in
/-- A session asks for something exactly until it is finished. -/
theorem exists_asks_iff (h : session.Sound graph script) :
    (∃ call, session.Asks call) ↔ session.state ≠ .finished := by
  constructor
  · rintro ⟨call, hasks⟩ hfinished
    cases hasks with
    | step ready => cases hfinished.symm.trans ready.running
    | advance state => cases hfinished.symm.trans state
    | choose state => cases hfinished.symm.trans state
  · intro hstate
    cases hsession : session.state with
    | finished => exact absurd hsession hstate
    | running =>
      cases hwaiting : session.awaitingAdvance with
      | false => exact ⟨_, .step ⟨hsession, hwaiting⟩⟩
      | true => exact ⟨_, .advance hsession hwaiting⟩
    | awaitingChoice =>
      obtain ⟨menu, hmenu⟩ := Option.isSome_iff_exists.1 (h.menu_up.1 hsession)
      exact ⟨.choose 0, .choose hsession hmenu (List.length_pos_iff.2 (h.menu_shown menu hmenu).1)⟩

end Session.Sound

end Storyline
