-- SUMMARY: What a choice that fails leaves behind.
import Mathlib.Data.List.Basic
import Storyline.Proofs.Playback.Calls

/-!
# Failed choices

A choice can fail in two ways. It is refused if there is nothing to choose from, if the menu has no such
entry, or if the entry leads to no node; then nothing has changed. Otherwise it is made, and playing goes on
behind it. If that fails, at a jump, the choice stays made: it is in the history and the menu is gone.
-/

namespace Storyline

open Playback

namespace Stage

variable {stage : Stage} {session start last : Session} {made made' : Nat} {fired : List Event}

/-- The turns of a call make no choice and put up no menu. -/
theorem Passage.choices_menu (passage : Passage stage made session fired made' last)
    (hready : session.Ready) (hmenu : session.menu = none) :
    last.choices = session.choices ∧ last.menu = none := by
  induction passage with
  | here => exact ⟨rfl, hmenu⟩
  | turn turn _ ih =>
    have hready' := turn.ready hready
    cases turn with
    | proceed _ _ performed =>
      rw [perform_proceed_frame performed] at ih hready'
      exact ih hready' hmenu
    | jump => exact ih hready' rfl

/-- Why playing fails: it has come to a node that is not in the graph, or it has jumped once more than there
are nodes. -/
inductive Stuck (stage : Stage) : PlayError → Prop where
  | nowhere {target : NodeId} (unknown : stage.graph.contains target = false) :
      Stuck stage (.structural (.unknownNode target))
  | circle (node : NodeId) : Stuck stage (.runawayJumps node (stage.graph.size + 1))

/-- A step that fails has played as far as it came and is stuck there. -/
theorem step_error_passage {error : PlayError} (herror : (stage.step session).result = .error error) :
    Stuck stage error ∧ session.Ready ∧
      ∃ fired made, Passage stage 0 session fired made (stage.step session).session := by
  rcases step_cases stage session with ⟨-, houtcome⟩ | ⟨hready, hunknown, houtcome⟩ |
    ⟨hready, -, fired, made, last, ended, hpassage, hhalt, houtcome⟩
  · rw [houtcome] at herror
    cases herror
  · rw [houtcome] at herror ⊢
    cases herror
    exact ⟨.nowhere hunknown, hready, [], 0, .here 0 session⟩
  · have hallowed := hpassage.made_allowed (Nat.zero_le _)
    rw [houtcome] at herror ⊢
    cases hhalt with
    | unscripted | atEnd | stop => cases herror
    | @runaway _ _ target _ _ exceeded =>
      cases herror
      have hmade : made = stage.graph.size := by omega
      exact ⟨hmade ▸ .circle target, hready, fired, made, hpassage⟩
    | unknownTarget _ _ _ unknown =>
      cases herror
      exact ⟨.nowhere unknown, hready, fired, made, hpassage⟩

/-- A step that fails leaves a session that can be played on, with the choices that were made before. -/
theorem step_error {error : PlayError} (herror : (stage.step session).result = .error error)
    (hmenu : session.menu = none) :
    Stuck stage error ∧ (stage.step session).session.Ready ∧
      (stage.step session).session.choices = session.choices ∧
      (stage.step session).session.menu = none := by
  obtain ⟨hstuck, hready, fired, made, hpassage⟩ := step_error_passage herror
  exact ⟨hstuck, hpassage.ready hready, hpassage.choices_menu hready hmenu⟩

/-- The session at which a choice begins to play has the choice in its history and no menu. -/
theorem Begins.of_choose {index : Nat} (begins : Begins stage session (.choose index) start) :
    ∃ menu option, session.state = .awaitingChoice ∧ session.menu = some menu ∧
      menu.options[index]? = some option ∧
      (∀ target, option.target = some target → stage.graph.contains target = true) ∧
      start.choices = ⟨session.node, option.text, option.target⟩ :: session.choices ∧
      start.menu = none := by
  cases begins with
  | enter state shown picked leads known =>
    refine ⟨_, _, state, shown, picked, ?_, rfl, rfl⟩
    intro target htarget
    cases leads.symm.trans htarget
    exact known
  | resume state shown picked stays =>
    refine ⟨_, _, state, shown, picked, ?_, rfl, rfl⟩
    intro target htarget
    cases stays.symm.trans htarget

/-- A choice that fails was refused, and nothing has changed, or it was made and playing got stuck behind it.
Then the session does not await the choice any more, and has it in its history. -/
theorem choose_error_cases {index : Nat} {error : PlayError}
    (herror : (stage.choose session index).result = .error error) :
    let outcome := stage.choose session index
    (Idle stage session (.choose index) (.error error) ∧ outcome.session = session ∧
      outcome.events = []) ∨
    (∃ menu option, session.state = .awaitingChoice ∧ session.menu = some menu ∧
      menu.options[index]? = some option ∧
      (∀ target, option.target = some target → stage.graph.contains target = true) ∧
      Stuck stage error ∧ outcome.session.state = .running ∧ outcome.session.menu = none ∧
      outcome.session.history =
        session.history ++ [⟨session.node, option.text, option.target⟩]) := by
  intro outcome
  have houtcome : outcome = stage.answer session (.choose index) := rfl
  rcases answer_cases stage session (.choose index) with ⟨result, hidle, hanswer⟩ | ⟨start, hbegins⟩
  · left
    rw [hanswer] at houtcome
    have hresult : result = .error error := by
      rw [← herror]
      exact (congrArg Outcome.result houtcome).symm
    rw [houtcome]
    exact ⟨hresult ▸ hidle, rfl, rfl⟩
  · right
    rw [hbegins.answer_eq] at houtcome
    obtain ⟨menu, option, hstate, hmenu, hpicked, hknown, hchoices, hnone⟩ := hbegins.of_choose
    have hstep : (stage.step start).result = .error error := by
      rw [← houtcome]
      exact herror
    obtain ⟨hstuck, hready, hkept, hclosed⟩ := step_error hstep hnone
    rw [houtcome]
    refine ⟨menu, option, hstate, hmenu, hpicked, hknown, hstuck, hready.running, hclosed, ?_⟩
    rw [Session.history, hkept, hchoices, List.reverse_cons]
    rfl

/-- In the hall one can stay, and behind that stands a jump that leads nowhere. -/
def hallToNowhere : Stage where
  graph := Graph.addNode { root := "hall" } ⟨"hall", "", .normal⟩
  script := .ofList [("hall", [.openMenu, .offer 1 "Stay" none, .jump "nowhere"])]
  level := fun _ => none

/-- The session that stands before the menu of the hall. -/
def inTheHall : Session :=
  (hallToNowhere.step (Session.start "hall")).session

theorem choose_error_cases_of_hall :
    let error : PlayError := .structural (.unknownNode "nowhere")
    let outcome := hallToNowhere.choose inTheHall 0
    outcome.result = .error error ∧
    ((Idle hallToNowhere inTheHall (.choose 0) (.error error) ∧ outcome.session = inTheHall ∧
      outcome.events = []) ∨
    (∃ menu option, inTheHall.state = .awaitingChoice ∧ inTheHall.menu = some menu ∧
      menu.options[0]? = some option ∧
      (∀ target, option.target = some target → hallToNowhere.graph.contains target = true) ∧
      Stuck hallToNowhere error ∧ outcome.session.state = .running ∧ outcome.session.menu = none ∧
      outcome.session.history =
        inTheHall.history ++ [⟨inTheHall.node, option.text, option.target⟩])) := by
  have herror : (hallToNowhere.choose inTheHall 0).result =
      .error (.structural (.unknownNode "nowhere")) := by decide +kernel
  exact ⟨herror, choose_error_cases herror⟩

/-- Staying in the hall fails, and yet it is in the history and the choice is not awaited any more. -/
theorem choose_error_changes_session :
    let outcome := hallToNowhere.choose inTheHall 0
    outcome.result = .error (.structural (.unknownNode "nowhere")) ∧ outcome.session ≠ inTheHall ∧
      inTheHall.state = .awaitingChoice ∧ outcome.session.state = .running ∧
      inTheHall.history = [] ∧ outcome.session.history = [⟨"hall", "Stay", none⟩] := by
  have hwaits : inTheHall.state = .awaitingChoice := by decide +kernel
  have hruns : (hallToNowhere.choose inTheHall 0).session.state = .running := by decide +kernel
  refine ⟨by decide +kernel, ?_, hwaits, hruns, by decide +kernel, by decide +kernel⟩
  intro hsame
  rw [hsame, hwaits] at hruns
  cases hruns

end Stage

end Storyline
