-- SUMMARY: An automatic player makes only legal calls, and its account is that of the calls it made.
import Storyline.AutoPlay
import Storyline.Proofs.Playback.Choosing

/-!
# Automatic calls

An automatic player takes one step and then makes the call that the session asks for, until playing is over, the
limit is reached, or a call fails. Whatever the session, a call that is asked for can only fail because of the
story, and what the player gives in the end is the account of the calls it made. It stops before the limit only
at a finished session or at a menu without entries, which no session comes to that was played from its start.
-/

namespace Storyline

open Playback

variable {stage : Stage} {session last : Session} {call : Call}

/-! ## Legal calls -/

/-- The calls that a session asks for: while it runs it is to go on, and when it awaits a choice an entry of the
menu is to be picked. -/
inductive Session.Legal (session : Session) : Call → Prop where
  | step (running : session.state = .running) (still : session.awaitingAdvance = false) :
      Legal session .step
  | advance (running : session.state = .running) (waiting : session.awaitingAdvance = true) :
      Legal session .advance
  | choose {menu : Menu} {index : Nat} (awaiting : session.state = .awaitingChoice)
      (shown : session.menu = some menu) (inside : index < menu.options.length) :
      Legal session (.choose index)

/-- Legal calls in a row, none of which fails, with the events that they fire and the session that they lead
to. -/
inductive Stage.LegalRun (stage : Stage) : Session → List Call → List Event → Session → Prop where
  | nil (session : Session) : LegalRun stage session [] [] session
  | cons {session last : Session} {call : Call} {state : PlayState} {calls : List Call}
      {events : List Event} (legal : session.Legal call)
      (succeeds : (stage.answer session call).result = .ok state)
      (later : LegalRun stage (stage.answer session call).session calls events last) :
      LegalRun stage session (call :: calls) ((stage.answer session call).events ++ events) last

namespace Stage

/-- A step that succeeds answers with the state of the session that it leaves. -/
theorem step_state {state : PlayState} (h : (stage.step session).result = .ok state) :
    state = (stage.step session).session.state := by
  have hsettled := step_settled stage session
  rw [Settled, h] at hsettled
  exact hsettled.1

/-- A call that succeeds answers with the state of the session that it leaves. -/
theorem answer_state {state : PlayState} (h : (stage.answer session call).result = .ok state) :
    state = (stage.answer session call).session.state := by
  rcases answer_cases stage session call with ⟨result, hidle, hanswer⟩ | ⟨start, hbegins⟩
  · rw [hanswer] at h ⊢
    obtain rfl := h
    cases hidle <;> rfl
  · rw [hbegins.answer_eq] at h ⊢
    exact step_state h

/-- A legal call fails only where the story does not go on. -/
theorem stuck_of_legal {error : PlayError} (legal : session.Legal call)
    (herror : (stage.answer session call).result = .error error) : Stuck stage error := by
  rcases answer_cases stage session call with ⟨result, hidle, hanswer⟩ | ⟨start, hbegins⟩
  · rw [hanswer] at herror
    obtain rfl := herror
    cases hidle with
    | unknownTarget _ _ _ _ unknown => exact .nowhere unknown
    | notAwaiting nothing =>
      cases legal with
      | choose awaiting shown =>
        cases shown.symm.trans (nothing awaiting)
    | outOfRange state shown picked =>
      cases legal with
      | choose _ shown' inside =>
        cases shown.symm.trans shown'
        rw [List.getElem?_eq_getElem inside] at picked
        cases picked
  · rw [hbegins.answer_eq] at herror
    exact (step_error_passage herror).1

/-- Where the story does not go on, no choice has been refused. -/
theorem Stuck.not_refused {error : PlayError} (h : Stuck stage error) :
    (∀ state, error ≠ .notAwaitingChoice state) ∧
      ∀ index available, error ≠ .choiceOutOfRange index available := by
  cases h with
  | nowhere | circle => exact ⟨nofun, nofun⟩

end Stage

/-! ## Menus with entries -/

/-- Is something on offer if a choice is awaited? -/
def Session.Offering (session : Session) : Prop :=
  session.state = .awaitingChoice → ∃ menu, session.menu = some menu ∧ menu.options ≠ []

namespace Session

theorem offering_of_running (h : session.state = .running) : session.Offering := by
  intro hawaiting
  cases h.symm.trans hawaiting

namespace Offering

theorem begins {start : Session} (h : session.Offering) (begins : Stage.Begins stage session call start) :
    start.Offering := by
  cases begins with
  | step => exact h
  | advance state => exact offering_of_running state
  | enter | resume => exact offering_of_running rfl

theorem halt {made : Nat} {outcome : Outcome} (h : session.Offering)
    (halt : Stage.Halt stage made session outcome) : outcome.session.Offering := by
  cases halt with
  | unscripted | atEnd => exact nofun
  | runaway | unknownTarget => exact h
  | stop _ _ performed =>
    rcases perform_stop_cases performed with ⟨_, _, _, rfl, _⟩ | ⟨menu, _, hoptions, rfl, _⟩
    · exact h
    · exact fun _ => ⟨menu, rfl, hoptions⟩

/-- Calls put up no menu without entries, on whatever story they are made. -/
theorem answer (h : session.Offering) (stage : Stage) (call : Call) :
    (stage.answer session call).session.Offering :=
  (stage.answer_preserves (fun h => h.begins)
    (fun hready _ turn => ⟨offering_of_running (turn.ready hready).running, fun _ _ => trivial⟩)
    (fun _ h halt => ⟨h.halt halt, fun _ _ => trivial⟩) h call).1

end Offering

theorem offering_after (graph : Graph) (script : Script) (node : NodeId) (moves : List Move) :
    ((start node).after graph script moves).Offering :=
  after_preserves graph script (fun _ move h => h.answer ⟨graph, script, move.level⟩ move.call)
    (offering_of_running rfl) moves

end Session

theorem Stage.LegalRun.offering {calls : List Call} {events : List Event}
    (run : stage.LegalRun session calls events last) (h : session.Offering) : last.Offering := by
  induction run with
  | nil => exact h
  | cons _ _ _ ih => exact ih (h.answer _ _)

/-! ## Going on -/

namespace AutoPlayer

/-- An automatic player draws one of the entries of a menu. -/
theorem next?_of_menu {generator later : Generator} {menu : Menu} {index : Nat}
    (hmenu : session.menu = some menu) (hpos : 0 < menu.options.length)
    (hdraw : generator.draw menu.options.length = (index, later)) :
    next? stage generator session .awaitingChoice = some (later, stage.choose session index) := by
  rw [next?, hmenu, Option.map_some, Option.getD_some, if_neg (Nat.ne_of_gt hpos)]
  -- the draw is taken apart as a whole, for checking would run it to its limit of repetitions
  split
  rename_i hdrawn
  cases hdraw.symm.trans hdrawn
  rfl

/-- An automatic player makes a legal call unless playing is over or nothing is on offer. -/
theorem next?_cases (stage : Stage) (generator : Generator) (session : Session) :
    (∃ later call, session.Legal call ∧
      next? stage generator session session.state = some (later, stage.answer session call)) ∨
    next? stage generator session session.state = none ∧
      (session.state = .finished ∨ ¬session.Offering) := by
  cases hstate : session.state with
  | finished => exact .inr ⟨rfl, .inl rfl⟩
  | running =>
    left
    cases hwaiting : session.awaitingAdvance with
    | true => exact ⟨generator, .advance, .advance hstate hwaiting, by simp [next?, hwaiting, Stage.answer]⟩
    | false => exact ⟨generator, .step, .step hstate hwaiting, by simp [next?, hwaiting, Stage.answer]⟩
  | awaitingChoice =>
    by_cases hoffering : ∃ menu, session.menu = some menu ∧ menu.options ≠ []
    · obtain ⟨menu, hmenu, hoptions⟩ := hoffering
      have hpos : 0 < menu.options.length := List.length_pos_iff.2 hoptions
      have hinside := Generator.draw_lt hpos generator
      cases hdraw : generator.draw menu.options.length with
      | mk index later =>
        rw [hdraw] at hinside
        exact .inl ⟨later, .choose index, .choose hstate hmenu hinside, next?_of_menu hmenu hpos hdraw⟩
    · refine .inr ⟨?_, .inr fun h => hoffering (h hstate)⟩
      have havailable : (session.menu.map (·.options.length)).getD 0 = 0 := by
        cases hmenu : session.menu with
        | none => rfl
        | some menu =>
          by_contra hlength
          exact hoffering ⟨menu, hmenu, fun hnil => hlength (by rw [Option.map_some, hnil]; rfl)⟩
      rw [next?, if_pos havailable]

/-- How automatic play goes on at a session, with `steps` calls and the events `past` behind it: it ends with an
outcome after `total` calls. -/
structure GoesOn (stage : Stage) (maxSteps steps : Nat) (past : List Event) (session : Session)
    (ended : Outcome) (total : Nat) : Prop where
  run : ∃ calls events, stage.LegalRun session calls events ended.session ∧
    ended.events = past ++ events ∧ total = steps + calls.length
  within : total ≤ max 1 maxSteps
  /-- It does not stop for nothing. -/
  stops : ended.session.state = .finished ∨ ¬ended.session.Offering ∨ maxSteps ≤ total

section GoesOn

variable {maxSteps steps total : Nat} {past : List Event} {ended : Outcome}

theorem GoesOn.here (session : Session) (result : Except PlayError PlayState)
    (hsteps : steps ≤ max 1 maxSteps)
    (hstops : session.state = .finished ∨ ¬session.Offering ∨ maxSteps ≤ steps) :
    GoesOn stage maxSteps steps past session ⟨session, past, result⟩ steps where
  run := ⟨[], [], .nil _, by rw [List.append_nil], rfl⟩
  within := hsteps
  stops := hstops

theorem GoesOn.behind {state : PlayState} (legal : session.Legal call)
    (succeeds : (stage.answer session call).result = .ok state)
    (later : GoesOn stage maxSteps (steps + 1) (past ++ (stage.answer session call).events)
      (stage.answer session call).session ended total) :
    GoesOn stage maxSteps steps past session ended total where
  run := by
    obtain ⟨calls, events, hrun, hevents, htotal⟩ := later.run
    refine ⟨call :: calls, _, .cons legal succeeds hrun, ?_, ?_⟩
    · rw [hevents, List.append_assoc]
    · rw [htotal, List.length_cons]
      omega
  within := later.within
  stops := later.stops

end GoesOn

/-- An automatic player that does not fail has carried on legally behind a call that succeeded; if it fails, the
story does not go on. -/
theorem carryOn_goesOn {maxSteps steps : Nat} {last : Outcome}
    (hstate : ∀ state, last.result = .ok state → state = last.session.state)
    (hstuck : ∀ error, last.result = .error error → Stage.Stuck stage error)
    (hsteps : steps ≤ max 1 maxSteps) (generator : Generator) (earlier : List (List Event)) :
    let (ended, total) := (carryOn stage maxSteps generator steps earlier last).2
    (∀ error, ended.result = .error error → Stage.Stuck stage error) ∧
    ∀ state, ended.result = .ok state → last.result = .ok last.session.state ∧
      GoesOn stage maxSteps steps (earlier.reverse.flatten ++ last.events) last.session ended total := by
  -- what is earlier for the next call has the events of this one at its end
  have hpast : (last.events :: earlier).reverse.flatten = earlier.reverse.flatten ++ last.events := by
    rw [List.reverse_cons, List.flatten_append, List.flatten_singleton]
  rw [carryOn]
  cases hresult : last.result with
  | error error =>
    refine ⟨fun other hother => ?_, nofun⟩
    cases hother
    exact hstuck error hresult
  | ok state =>
    obtain rfl := hstate state hresult
    dsimp only
    split
    · rename_i hlimit
      rcases next?_cases stage generator last.session with ⟨later, call, hlegal, hnext⟩ | ⟨hnext, hrest⟩
      · rw [hnext]
        have hmore : steps + 1 ≤ max 1 maxSteps := by omega
        obtain ⟨hfails, hgoesOn⟩ := carryOn_goesOn (fun _ => Stage.answer_state)
          (fun _ => Stage.stuck_of_legal hlegal) hmore later (last.events :: earlier)
        rw [hpast] at hgoesOn
        refine ⟨hfails, fun state hok => ⟨rfl, ?_⟩⟩
        obtain ⟨hsucceeds, hlater⟩ := hgoesOn state hok
        exact hlater.behind hlegal hsucceeds
      · rw [hnext, hpast]
        exact ⟨nofun, fun _ _ => ⟨rfl, .here last.session _ hsteps (hrest.imp_right .inl)⟩⟩
    · rename_i hlimit
      rw [hpast]
      exact ⟨nofun, fun _ _ => ⟨rfl, .here last.session _ hsteps (.inr (.inr (Nat.le_of_not_lt hlimit)))⟩⟩
termination_by maxSteps - steps

/-- An automatic player never picks from what is not on offer: it fails only where the story does not go on. If
it does not fail, the session has been played by one step and then by legal calls, at most as many as are
allowed, and the account is that of these calls and of the session that they lead to. Fewer calls than are
allowed come to an ending, on every session that was played from its start. -/
theorem play_legally (player : AutoPlayer) (stage : Stage) (session : Session) :
    let first := stage.step session
    let (last, account) := (player.play stage session).2
    (∀ error, account = .error error → Stage.Stuck stage error ∧
      (∀ state, error ≠ .notAwaitingChoice state) ∧
      ∀ index available, error ≠ .choiceOutOfRange index available) ∧
    ∀ playthrough, account = .ok playthrough →
      (∃ calls events, first.result = .ok first.session.state ∧
        stage.LegalRun first.session calls events last ∧
        playthrough.steps = 1 + calls.length ∧
        playthrough.lines = shownLines (first.events ++ events) ∧
        playthrough.anomalies = reportedAnomalies (first.events ++ events)) ∧
      1 ≤ playthrough.steps ∧ playthrough.steps ≤ max 1 player.maxSteps ∧
      playthrough.visited = last.visited ∧ playthrough.choices = last.history ∧
      (∀ node, playthrough.ending = some node ↔ last.state = .finished ∧ last.node = node) ∧
      ∀ graph script start moves, session = (Session.start start).after graph script moves →
        playthrough.ending = none → player.maxSteps ≤ playthrough.steps := by
  have hstate (state : PlayState) : (stage.step session).result = .ok state →
      state = (stage.step session).session.state := Stage.step_state
  obtain ⟨hfails, hgoesOn⟩ := carryOn_goesOn hstate
    (fun _ herror => (Stage.step_error_passage herror).1) (Nat.le_max_left 1 player.maxSteps)
    player.generator []
  rw [play]
  dsimp only
  generalize carryOn stage player.maxSteps player.generator 1 [] (stage.step session) = played at *
  obtain ⟨generator, ended, total⟩ := played
  dsimp only at hfails hgoesOn ⊢
  cases hresult : ended.result with
  | error error =>
    refine ⟨fun other hother => ?_, nofun⟩
    cases hother
    exact ⟨hfails error hresult, (hfails error hresult).not_refused⟩
  | ok state =>
    refine ⟨nofun, fun playthrough haccount => ?_⟩
    cases haccount
    obtain ⟨hfirst, ⟨calls, events, hrun, hevents, htotal⟩, hwithin, hstops⟩ := hgoesOn state hresult
    rw [List.reverse_nil, List.flatten_nil, List.nil_append] at hevents
    dsimp only
    refine ⟨⟨calls, events, hfirst, hrun, htotal, ?_, ?_⟩, by omega, hwithin, rfl, rfl, ?_, ?_⟩
    · rw [hevents]
    · rw [hevents]
    · simp [Session.isFinished]
    · rintro graph script start moves rfl hending
      have hoffering : ended.session.Offering :=
        hrun.offering ((Session.offering_after graph script start moves).answer stage .step)
      rcases hstops with hfinished | hempty | hlimit
      · simp [Session.isFinished, hfinished] at hending
      · exact absurd hoffering hempty
      · exact hlimit

end AutoPlayer

end Storyline
