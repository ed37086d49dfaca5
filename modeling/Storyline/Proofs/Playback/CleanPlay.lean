-- SUMMARY: A clean report guarantees that playing is sound and comes to an end.
import Storyline.Proofs.Playback.Automatic
import Storyline.Proofs.Playback.Finite

/-!
# Playing after a clean report

An automatic player makes only calls that play on: it advances where a line waits and picks what is on offer.
Each of them brings the session nearer to its end, so a limit that leaves one call for every instruction is
never reached.
-/

namespace Storyline

open Playback

variable {graph : Graph} {script : Script} {session : Session}

/-! ## Calls that play on -/

namespace Session.Sound

/-- Something is left at a session that waits for the player. -/
theorem remaining_pos (h : session.Sound graph script) (hunready : ¬session.Ready)
    (hstate : session.state ≠ .finished) : 0 < session.remaining script := by
  have hlt : session.position < (script.listOf session.node).length := by
    cases hsession : session.state with
    | finished => exact absurd hsession hstate
    | running =>
      apply h.lt_length_of_waiting
      cases hwaiting : session.awaitingAdvance with
      | true => rfl
      | false => exact absurd ⟨hsession, hwaiting⟩ hunready
    | awaitingChoice =>
      obtain ⟨menu, hmenu⟩ := Option.isSome_iff_exists.1 (h.menu_up.1 hsession)
      exact Nat.lt_of_lt_of_le (h.lt_resumeAt hmenu) (h.menu_resumeAt_le hmenu)
  unfold remaining
  omega

theorem offering (h : session.Sound graph script) : session.Offering := by
  intro hawaiting
  obtain ⟨menu, hmenu⟩ := Option.isSome_iff_exists.1 (h.menu_up.1 hawaiting)
  exact ⟨menu, hmenu, (h.menu_shown menu hmenu).1⟩

/-- Whatever is picked from a menu that is up can be played. -/
theorem choose_begins (level : LevelLookup) (clean : Lint.Clean graph script)
    (h : session.Sound graph script) {menu : Menu} {option : MenuOption} {index : Nat}
    (hstate : session.state = .awaitingChoice) (hmenu : session.menu = some menu)
    (hoption : menu.options[index]? = some option) :
    ∃ start, Stage.Begins ⟨graph, script, level⟩ session (.choose index) start := by
  cases htarget : option.target with
  | some target =>
    have hknown := (h.option_leads clean hmenu hoption htarget).1
    exact ⟨_, .enter hstate hmenu hoption htarget hknown⟩
  | none => exact ⟨_, .resume hstate hmenu hoption htarget⟩

/-- At a session that waits, an automatic player makes a call that plays. -/
theorem next?_begins (level : LevelLookup) (clean : Lint.Clean graph script)
    (h : session.Sound graph script) (hunready : ¬session.Ready)
    (hstate : session.state ≠ .finished) (generator : Generator) :
    ∃ generator' call start,
      AutoPlayer.next? ⟨graph, script, level⟩ generator session session.state =
        some (generator', Stage.answer ⟨graph, script, level⟩ session call) ∧
      Stage.Begins ⟨graph, script, level⟩ session call start := by
  rcases AutoPlayer.next?_cases ⟨graph, script, level⟩ generator session with
    ⟨later, call, hlegal, hnext⟩ | ⟨-, hrest⟩
  · obtain ⟨start, hbegins⟩ : ∃ start, Stage.Begins ⟨graph, script, level⟩ session call start := by
      cases hlegal with
      | step running still => exact absurd ⟨running, still⟩ hunready
      | advance running waiting => exact ⟨_, .advance running waiting⟩
      | choose awaiting shown inside =>
        exact h.choose_begins level clean awaiting shown (List.getElem?_eq_getElem inside)
    exact ⟨later, call, start, hnext, hbegins⟩
  · exact absurd h.offering (hrest.resolve_left hstate)

end Session.Sound

/-! ## Automatic play -/

namespace AutoPlayer

/-- With a call left for every instruction that is left, going on ends in a finished session. -/
theorem carryOn_finishes (level : LevelLookup) (clean : Lint.Clean graph script)
    {maxSteps steps : Nat} {last : Outcome} (hrests : last.Rests graph script)
    (hsteps : steps + last.session.remaining script ≤ maxSteps) (generator : Generator)
    (earlier : List (List Event)) :
    let played := carryOn ⟨graph, script, level⟩ maxSteps generator steps earlier last
    played.2.1.session.state = .finished ∧ ∃ state, played.2.1.result = .ok state := by
  rw [carryOn, hrests.answers]
  dsimp only
  by_cases hstate : last.session.state = .finished
  · rw [hstate]
    simp only [next?, ite_self]
    exact ⟨hstate, _, rfl⟩
  · have hpos := hrests.sound.remaining_pos hrests.unready hstate
    obtain ⟨generator', call, start, hnext, hbegins⟩ :=
      hrests.sound.next?_begins level clean hrests.unready hstate generator
    have hsound := hrests.sound.begins clean hbegins
    have hlt := hrests.sound.remaining_begins clean hbegins
    have hle := hsound.remaining_step clean level
    rw [Session.toGo_of_not_ready hrests.unready] at hlt
    rw [if_pos (by omega), hnext, hbegins.answer_eq]
    exact carryOn_finishes level clean (hsound.rests_step clean level) (by omega) generator' _
termination_by maxSteps - steps

/-- An automatic player with enough calls gives an account of a finished session. -/
theorem play_finishes (level : LevelLookup) (clean : Lint.Clean graph script)
    (player : AutoPlayer) (hsteps : 1 + script.length ≤ player.maxSteps) :
    ∃ playthrough,
      (player.play ⟨graph, script, level⟩ (Session.start graph.root)).2.2 = .ok playthrough ∧
        playthrough.ending.isSome = true := by
  have hsound := Session.sound_start graph script
  have hready := Session.ready_start graph.root
  have hle := hsound.remaining_step clean level
  have hstart := Session.toGo_start clean
  rw [Session.toGo_of_ready hready] at hstart
  have hbudget : 1 + (Stage.step ⟨graph, script, level⟩ (Session.start graph.root)).session.remaining
      script ≤ player.maxSteps := by omega
  obtain ⟨hfinished, state, hok⟩ := carryOn_finishes level clean
    (hsound.rests_step clean level) hbudget player.generator []
  rw [play]
  dsimp only
  rw [hok]
  refine ⟨_, rfl, ?_⟩
  dsimp only
  rw [if_pos (by simp [Session.isFinished, hfinished])]
  rfl

end AutoPlayer

/-! ## Clean reports -/

/-- After a clean report the visited nodes are a path from the root without repetitions, no call fails for a
reason that lies in the story, no list is missing, and the calls that change something are bounded by the
length of the script. An automatic player that may make so many calls comes to an ending. -/
theorem plays_soundly_of_clean (h : (lint graph script graph.root).isClean = true) :
    (∀ moves : List Move,
      let session := (Session.start graph.root).after graph script moves
      session.visited.head? = some graph.root ∧
      session.visited.IsChain graph.Leads ∧
      session.visited.Nodup ∧
      (∀ move : Move,
        let outcome := move.outcome graph script session
        (∀ error, outcome.result ≠ .error (.structural error)) ∧
        (∀ node jumps, outcome.result ≠ .error (.runawayJumps node jumps)) ∧
        ∀ node, .anomaly (.emptyNode node) ∉ outcome.events) ∧
      (Session.start graph.root).changes graph script moves ≤ 1 + script.length) ∧
    ∀ (player : AutoPlayer) (level : LevelLookup), 1 + script.length ≤ player.maxSteps →
      ∃ playthrough,
        (player.play ⟨graph, script, level⟩ (Session.start graph.root)).2.2 = .ok playthrough ∧
          playthrough.ending.isSome = true := by
  have clean := Lint.clean_of_isClean h
  constructor
  · intro moves
    have hstart := Session.sound_start graph script
    have hsound := hstart.after clean moves
    have hchanges := hstart.changes_le clean moves
    rw [Session.toGo_start clean] at hchanges
    refine ⟨hsound.root_first, hsound.path, hsound.nodup clean, ?_, by omega⟩
    intro move
    refine ⟨?_, ?_, ?_⟩
    · intro error herror
      rcases hsound.answer_error clean herror with ⟨_, hother⟩ | ⟨_, _, hother⟩ <;> cases hother
    · intro node jumps herror
      rcases hsound.answer_error clean herror with ⟨_, hother⟩ | ⟨_, _, hother⟩ <;> cases hother
    · intro node hmem
      exact (hsound.answer clean move.level move.call).2 _ hmem node rfl
  · intro player level hsteps
    exact player.play_finishes level clean hsteps

/-- Two nodes, of which the first leads to the second: no more than four calls change anything. -/
theorem plays_soundly_of_two_nodes :
    let graph : Graph := (((Graph.addNode { root := "inn" } ⟨"inn", "", .normal⟩).addNode
      ⟨"road", "", .normal⟩).addEdge ⟨"inn", "road", none⟩)
    let script : Script := (SortedMap.empty.insert "inn" [.narration "Dusk.", .jump "road"]).insert
      "road" [.narration "Dawn."]
    (∀ moves : List Move,
      let session := (Session.start graph.root).after graph script moves
      session.visited.head? = some "inn" ∧
      session.visited.IsChain graph.Leads ∧
      session.visited.Nodup ∧
      (∀ move : Move,
        let outcome := move.outcome graph script session
        (∀ error, outcome.result ≠ .error (.structural error)) ∧
        (∀ node jumps, outcome.result ≠ .error (.runawayJumps node jumps)) ∧
        ∀ node, .anomaly (.emptyNode node) ∉ outcome.events) ∧
      (Session.start graph.root).changes graph script moves ≤ 4) ∧
    ∀ (player : AutoPlayer) (level : LevelLookup), 4 ≤ player.maxSteps →
      ∃ playthrough,
        (player.play ⟨graph, script, level⟩ (Session.start graph.root)).2.2 = .ok playthrough ∧
          playthrough.ending.isSome = true :=
  plays_soundly_of_clean (by decide +kernel)

end Storyline
