-- SUMMARY: Sequences of calls on a session, and what all of them keep.
import Storyline.Proofs.Playback.Turn

/-!
# Calls

A player steps, advances and chooses in any order, and the levels may change between two calls. A call
either leaves the session alone or begins to play at a session that differs from it in a few fields. So a
property is kept by all calls if it is kept by these beginnings, by every turn and by every halt:
`after_preserves`.
-/

namespace Storyline

/-- A call of the player. -/
inductive Call where
  | step
  | advance
  | choose (index : Nat)

/-- A call and the levels under which it is made. -/
structure Move where
  level : LevelLookup
  call : Call

namespace Stage

open Playback

/-- What a call on a session leads to. -/
def answer (stage : Stage) (session : Session) : Call → Outcome
  | .step => stage.step session
  | .advance => stage.advance session
  | .choose index => stage.choose session index

/-! ## How a call begins -/

/-- What a call answers that leaves the session as it is. -/
inductive Idle (stage : Stage) (session : Session) : Call → Except PlayError PlayState → Prop where
  | step (unready : ¬session.Ready) : Idle stage session .step (.ok session.state)
  | advance (nothing : ¬(session.state = .running ∧ session.awaitingAdvance = true)) :
      Idle stage session .advance (.ok session.state)
  | notAwaiting {index : Nat} (nothing : session.state = .awaitingChoice → session.menu = none) :
      Idle stage session (.choose index) (.error (.notAwaitingChoice session.state))
  | outOfRange {index : Nat} {menu : Menu}
      (state : session.state = .awaitingChoice) (shown : session.menu = some menu)
      (picked : menu.options[index]? = none) :
      Idle stage session (.choose index) (.error (.choiceOutOfRange index menu.options.length))
  | unknownTarget {index : Nat} {menu : Menu} {option : MenuOption} {target : NodeId}
      (state : session.state = .awaitingChoice) (shown : session.menu = some menu)
      (picked : menu.options[index]? = some option) (leads : option.target = some target)
      (unknown : stage.graph.contains target = false) :
      Idle stage session (.choose index) (.error (.structural (.unknownNode target)))

/-- The record of a choice that is made at a session. -/
def record (session : Session) (option : MenuOption) : Session :=
  { session with choices := ⟨session.node, option.text, option.target⟩ :: session.choices }

/-- The session at which a call begins to play. -/
inductive Begins (stage : Stage) (session : Session) : Call → Session → Prop where
  | step (ready : session.Ready) : Begins stage session .step session
  | advance (state : session.state = .running) (waiting : session.awaitingAdvance = true) :
      Begins stage session .advance
        { session with
          awaitingAdvance := false
          position :=
            positionAfter session.position (stage.script.listOf session.node).length }
  | enter {index : Nat} {menu : Menu} {option : MenuOption} {target : NodeId}
      (state : session.state = .awaitingChoice) (shown : session.menu = some menu)
      (picked : menu.options[index]? = some option) (leads : option.target = some target)
      (known : stage.graph.contains target = true) :
      Begins stage session (.choose index) ((record session option).enter target)
  | resume {index : Nat} {menu : Menu} {option : MenuOption}
      (state : session.state = .awaitingChoice) (shown : session.menu = some menu)
      (picked : menu.options[index]? = some option) (stays : option.target = none) :
      Begins stage session (.choose index)
        { record session option with
          menu := none
          state := .running
          position := menu.resumeAt }

theorem step_of_unready (stage : Stage) {session : Session} (h : ¬session.Ready) :
    stage.step session = ⟨session, [], .ok session.state⟩ :=
  if_pos (Session.not_ready_iff.1 h)

theorem step_of_unknown (stage : Stage) {session : Session} (h : session.Ready)
    (hunknown : stage.graph.contains session.node = false) :
    stage.step session = ⟨session, [], .error (.structural (.unknownNode session.node))⟩ := by
  rw [step, if_neg (fun hidle => Session.not_ready_iff.2 hidle h), if_neg (by simp [hunknown])]

theorem step_eq_run (stage : Stage) {session : Session} (h : session.Ready)
    (hknown : stage.graph.contains session.node = true) : stage.step session = stage.run 0 session := by
  rw [step, if_neg (fun hidle => Session.not_ready_iff.2 hidle h), if_pos hknown]

/-- Where `step` plays, it makes a passage and comes to a halt. -/
theorem step_eq_passage (stage : Stage) {session : Session} (h : session.Ready)
    (hknown : stage.graph.contains session.node = true) :
    ∃ fired made last ended, Passage stage 0 session fired made last ∧
      Halt stage made last ended ∧
      stage.step session = { ended with events := fired ++ ended.events } := by
  rw [step_eq_run stage h hknown]
  exact run_eq_passage stage 0 session

/-- A step does nothing, or the session is at no node, or it plays. -/
theorem step_cases (stage : Stage) (session : Session) :
    (¬session.Ready ∧ stage.step session = ⟨session, [], .ok session.state⟩) ∨
    (session.Ready ∧ stage.graph.contains session.node = false ∧
      stage.step session = ⟨session, [], .error (.structural (.unknownNode session.node))⟩) ∨
    (session.Ready ∧ stage.graph.contains session.node = true ∧
      ∃ fired made last ended, Passage stage 0 session fired made last ∧
        Halt stage made last ended ∧
        stage.step session = { ended with events := fired ++ ended.events }) := by
  by_cases hready : session.Ready
  · right
    cases hknown : stage.graph.contains session.node with
    | false => exact .inl ⟨hready, rfl, step_of_unknown stage hready hknown⟩
    | true => exact .inr ⟨hready, rfl, step_eq_passage stage hready hknown⟩
  · exact .inl ⟨hready, step_of_unready stage hready⟩

/-- The state that an outcome answers with is the session's, and the session waits for the player in it;
after an error the session can be played on. -/
def Settled (outcome : Outcome) : Prop :=
  match outcome.result with
  | .ok state => state = outcome.session.state ∧ ¬outcome.session.Ready
  | .error _ => outcome.session.Ready

theorem Halt.settled {stage : Stage} {made : Nat} {session : Session} {outcome : Outcome}
    (halt : Halt stage made session outcome) (h : session.Ready) : Settled outcome := by
  cases halt with
  | unscripted | atEnd => exact ⟨rfl, by simp [Session.not_ready_iff, finish]⟩
  | runaway | unknownTarget => exact h
  | stop _ _ performed =>
    rcases perform_stop_cases performed with ⟨_, _, _, rfl, _⟩ | ⟨_, _, _, rfl, _⟩
    · exact ⟨rfl, by simp [Session.not_ready_iff]⟩
    · exact ⟨rfl, by simp [Session.not_ready_iff]⟩

theorem step_settled (stage : Stage) (session : Session) : Settled (stage.step session) := by
  rcases step_cases stage session with ⟨hready, houtcome⟩ | ⟨hready, -, houtcome⟩ |
    ⟨hready, -, fired, made, last, ended, hpassage, hended, houtcome⟩
  · rw [houtcome]
    exact ⟨rfl, hready⟩
  · rw [houtcome]
    exact hready
  · have hlast := hpassage.ready hready
    rw [houtcome]
    exact hended.settled hlast

/-- A call that begins to play is a step from where it begins. -/
theorem Begins.answer_eq {stage : Stage} {session start : Session} {call : Call}
    (begins : Begins stage session call start) : stage.answer session call = stage.step start := by
  cases begins with
  | step => rfl
  | advance state waiting => simp [answer, Stage.advance, state, waiting, Script.listOf]
  | enter state shown picked leads known =>
    simp [answer, Stage.choose, state, shown, picked, leads, known, record]
  | resume state shown picked stays => simp [answer, Stage.choose, state, shown, picked, stays, record]

/-- An idle call changes nothing and fires nothing. -/
theorem Idle.answer_eq {stage : Stage} {session : Session} {call : Call}
    {result : Except PlayError PlayState} (idle : Idle stage session call result) :
    stage.answer session call = ⟨session, [], result⟩ := by
  cases idle with
  | step unready => exact step_of_unready stage unready
  | advance nothing =>
    have hidle : session.state ≠ .running ∨ session.awaitingAdvance = false := by
      cases hw : session.awaitingAdvance <;> simp_all
    rw [answer, Stage.advance, if_pos hidle]
  | notAwaiting nothing =>
    rw [answer, choose]
    split
    · rename_i menu hstate hmenu
      cases hmenu.symm.trans (nothing hstate)
    · rfl
  | outOfRange state shown picked => simp [answer, choose, state, shown, picked]
  | unknownTarget state shown picked leads unknown =>
    simp [answer, choose, state, shown, picked, leads, unknown]

/-- A call leaves the session alone or begins to play. -/
theorem answer_cases (stage : Stage) (session : Session) (call : Call) :
    (∃ result, Idle stage session call result ∧
      stage.answer session call = ⟨session, [], result⟩) ∨
    ∃ start, Begins stage session call start := by
  suffices hcases : (∃ result, Idle stage session call result) ∨
      ∃ start, Begins stage session call start from
    hcases.imp_left fun ⟨result, hidle⟩ => ⟨result, hidle, hidle.answer_eq⟩
  cases call with
  | step =>
    by_cases h : session.Ready
    · exact .inr ⟨session, .step h⟩
    · exact .inl ⟨_, .step h⟩
  | advance =>
    by_cases h : session.state = .running ∧ session.awaitingAdvance = true
    · exact .inr ⟨_, .advance h.1 h.2⟩
    · exact .inl ⟨_, .advance h⟩
  | choose index =>
    by_cases hstate : session.state = .awaitingChoice
    · cases hmenu : session.menu with
      | none => exact .inl ⟨_, .notAwaiting fun _ => hmenu⟩
      | some menu =>
        cases hoption : menu.options[index]? with
        | none => exact .inl ⟨_, .outOfRange hstate hmenu hoption⟩
        | some option =>
          cases htarget : option.target with
          | none => exact .inr ⟨_, .resume hstate hmenu hoption htarget⟩
          | some target =>
            cases hknown : stage.graph.contains target with
            | true => exact .inr ⟨_, .enter hstate hmenu hoption htarget hknown⟩
            | false => exact .inl ⟨_, .unknownTarget hstate hmenu hoption htarget hknown⟩
    · exact .inl ⟨_, .notAwaiting fun hawaiting => absurd hawaiting hstate⟩

/-! ## What calls keep -/

section Carrying

variable (Keeps : List Event → Session → Prop) {past : List Event}

/-- What holds of a session and of all that was fired on the way to it, and is kept by the turns and the halts,
is kept by `step`. -/
theorem step_carries (stage : Stage)
    (hturn : ∀ {past made session events made' next}, session.Ready → Keeps past session →
      Turn stage made session events made' next → Keeps (past ++ events) next)
    (hhalt : ∀ {past made session outcome}, session.Ready → Keeps past session →
      Halt stage made session outcome → Keeps (past ++ outcome.events) outcome.session)
    {session : Session} (h : Keeps past session) :
    Keeps (past ++ (stage.step session).events) (stage.step session).session := by
  rcases step_cases stage session with ⟨-, houtcome⟩ | ⟨-, -, houtcome⟩ |
    ⟨hready, -, fired, made, last, ended, hpassage, hended, houtcome⟩
  · rw [houtcome]
    rwa [List.append_nil]
  · rw [houtcome]
    rwa [List.append_nil]
  · have hkept := hpassage.carries hturn hready h
    rw [houtcome, ← List.append_assoc]
    exact hhalt (hpassage.ready hready) hkept hended

/-- What is kept by the beginnings, the turns and the halts is kept by every call. -/
theorem answer_carries (stage : Stage)
    (hbegin : ∀ {past session call start}, Keeps past session → Begins stage session call start →
      Keeps past start)
    (hturn : ∀ {past made session events made' next}, session.Ready → Keeps past session →
      Turn stage made session events made' next → Keeps (past ++ events) next)
    (hhalt : ∀ {past made session outcome}, session.Ready → Keeps past session →
      Halt stage made session outcome → Keeps (past ++ outcome.events) outcome.session)
    {session : Session} (h : Keeps past session) (call : Call) :
    Keeps (past ++ (stage.answer session call).events) (stage.answer session call).session := by
  rcases answer_cases stage session call with ⟨result, _, houtcome⟩ | ⟨start, hbegins⟩
  · rw [houtcome]
    rwa [List.append_nil]
  · rw [hbegins.answer_eq]
    exact step_carries Keeps stage hturn hhalt (hbegin h hbegins)

end Carrying

/-- What the beginnings, the turns and the halts keep is kept by every call, and what they do not fire is
not fired by it. -/
theorem answer_preserves {Keeps : Session → Prop} {Fires : Event → Prop} (stage : Stage)
    (hbegin : ∀ {session call start}, Keeps session → Begins stage session call start → Keeps start)
    (hturn : ∀ {made session events made' next}, session.Ready → Keeps session →
      Turn stage made session events made' next → Keeps next ∧ ∀ event ∈ events, Fires event)
    (hhalt : ∀ {made session outcome}, session.Ready → Keeps session →
      Halt stage made session outcome →
      Keeps outcome.session ∧ ∀ event ∈ outcome.events, Fires event)
    {session : Session} (h : Keeps session) (call : Call) :
    Keeps (stage.answer session call).session ∧
      ∀ event ∈ (stage.answer session call).events, Fires event := by
  refine answer_carries (fun past session => Keeps session ∧ ∀ event ∈ past, Fires event) stage
    ?_ ?_ ?_ ⟨h, List.forall_mem_nil _⟩ call
  · intro past session call start hkept hbegins
    exact ⟨hbegin hkept.1 hbegins, hkept.2⟩
  · intro past made session events made' next hready hkept turn
    obtain ⟨hnext, hevents⟩ := hturn hready hkept.1 turn
    exact ⟨hnext, List.forall_mem_append.2 ⟨hkept.2, hevents⟩⟩
  · intro past made session outcome hready hkept halt
    obtain ⟨hlast, hevents⟩ := hhalt hready hkept.1 halt
    exact ⟨hlast, List.forall_mem_append.2 ⟨hkept.2, hevents⟩⟩

end Stage

/-! ## Sequences of calls -/

section Sequences

variable (graph : Graph) (script : Script)

/-- The outcome of a move on a session. -/
def Move.outcome (session : Session) (move : Move) : Outcome :=
  Stage.answer ⟨graph, script, move.level⟩ session move.call

/-- The session that a sequence of moves leads to. -/
def Session.after (session : Session) : List Move → Session
  | [] => session
  | move :: rest => Session.after (move.outcome graph script session).session rest

/-- The outcomes of a sequence of moves, each made on the session that the one before it left. -/
def Session.outcomes (session : Session) : List Move → List Outcome
  | [] => []
  | move :: rest =>
    let outcome := move.outcome graph script session
    outcome :: Session.outcomes outcome.session rest

/-- What every move keeps is kept by every sequence of moves. -/
theorem Session.after_preserves {Keeps : Session → Prop}
    (hmove : ∀ session move, Keeps session → Keeps (Move.outcome graph script session move).session)
    {session : Session} (h : Keeps session) (moves : List Move) :
    Keeps (session.after graph script moves) := by
  induction moves generalizing session with
  | nil => exact h
  | cons move rest ih => exact ih (hmove session move h)

end Sequences

end Storyline
