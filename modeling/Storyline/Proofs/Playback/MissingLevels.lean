-- SUMMARY: A role without a level is played as one at level 0, except that it is reported.
import Storyline.Proofs.Playback.Calls

/-!
# Missing levels

A session keeps the roles that were reported to have no level, and nothing else in it depends on them. So a
session may forget them: `answer_unreported` says that a call which is made under levels that are all there,
on a session that has forgotten its reports, does what the call does under the levels as they are, apart from
the reports. Two lookups that differ only in roles at level 0 are the same once all levels are there.
-/

namespace Storyline

open Playback

/-! ## Forgetting reports -/

/-- The levels with level 0 for the roles that have none. -/
def LevelLookup.completed (level : LevelLookup) : LevelLookup :=
  fun role => some ((level role).getD 0)

/-- The session without the roles that were reported. -/
def Session.unreported (session : Session) : Session :=
  { session with unknownRoles := .empty }

/-- Is this the report of a role without a level? -/
def Event.isRoleReport : Event → Bool
  | anomaly (.unknownRole _) => true
  | _ => false

/-- What was fired besides reports of roles without a level. -/
def besidesReports (events : List Event) : List Event :=
  events.filter (!·.isRoleReport)

theorem besidesReports_append (first second : List Event) :
    besidesReports (first ++ second) = besidesReports first ++ besidesReports second :=
  List.filter_append ..

/-- The outcome without reports of roles that have no level: neither fired nor kept. -/
def Outcome.unreported (outcome : Outcome) : Outcome :=
  { outcome with
    session := outcome.session.unreported
    events := besidesReports outcome.events }

namespace Playback

/-- The effect without reports of roles that have no level. -/
def Effect.unreported : Effect → Effect
  | proceed session skipped events => .proceed session.unreported skipped (besidesReports events)
  | stop session events => .stop session.unreported (besidesReports events)
  | jump target => .jump target

/-- The end of playing in a node, without reports of roles that have no level. -/
def NodeOutcome.unreported (outcome : NodeOutcome) : NodeOutcome :=
  { outcome with
    session := outcome.session.unreported
    events := besidesReports outcome.events }

/-! ## Playing without reports -/

theorem checkLevel_unreported (level : LevelLookup) (session : Session) (role : String)
    (threshold : Int) (rest : List Instruction) :
    checkLevel level.completed session.unreported role threshold rest =
      (checkLevel level session role threshold rest).unreported := by
  unfold checkLevel LevelLookup.completed
  by_cases hnew : ((level role).isNone && !session.unknownRoles.contains role) = true
  all_goals
    simp only [hnew, Option.isNone_some, Bool.false_and, Bool.false_eq_true, if_true, if_false,
      Option.getD_some]
    split
    · rfl
    · split <;> rfl

theorem leaveThenPart_unreported (session : Session) (rest : List Instruction) :
    leaveThenPart session.unreported rest = (leaveThenPart session rest).unreported := by
  obtain ⟨_, _, conditions⟩ := session
  unfold leaveThenPart
  cases endIf? 0 rest <;> cases conditions <;> rfl

theorem leaveCondition_unreported (session : Session) :
    leaveCondition session.unreported = (leaveCondition session).unreported := by
  obtain ⟨_, _, conditions⟩ := session
  cases conditions <;> rfl

theorem perform_unreported (level : LevelLookup) (session : Session) (rest : List Instruction)
    (instruction : Instruction) :
    perform level.completed session.unreported rest instruction =
      (perform level session rest instruction).unreported := by
  cases instruction with
  | scene | portrait | clearPortrait | narration | dialogue | jump => rfl
  | ifLevel role threshold => exact checkLevel_unreported level session role threshold rest
  | otherwise => exact leaveThenPart_unreported session rest
  | endIf => exact leaveCondition_unreported session
  | openMenu =>
    simp only [perform, showMenu]
    cases offers rest <;> rfl
  | offer => rfl

theorem playNode_unreported (level : LevelLookup) (session : Session) (list : List Instruction) :
    playNode level.completed session.unreported list =
      (playNode level session list).unreported := by
  fun_induction playNode level session list with
  | case1 session finished events hfinish =>
    cases hfinish
    rw [playNode]
    rfl
  | case2 session instruction rest next skipped events hperform outcome ih =>
    rw [playNode]
    simp only [perform_unreported, hperform, Effect.unreported, NodeOutcome.unreported, besidesReports_append]
    exact congrArg (fun later : NodeOutcome =>
      { later with events := besidesReports events ++ later.events }) ih
  | case3 session instruction rest next events hperform =>
    rw [playNode]
    simp only [perform_unreported, hperform, Effect.unreported, NodeOutcome.unreported]
  | case4 session instruction rest target hperform =>
    rw [playNode]
    simp only [perform_unreported, hperform, Effect.unreported]
    rfl

end Playback

namespace Stage

/-- The stage on which every role has a level. -/
def completed (stage : Stage) : Stage :=
  { stage with level := stage.level.completed }

theorem run_unreported (stage : Stage) (jumps : Nat) (session : Session) :
    stage.completed.run jumps session.unreported = (stage.run jumps session).unreported := by
  have hscript : stage.completed.script.get? session.unreported.node =
      stage.script.get? session.node := rfl
  rw [run, run, hscript]
  cases stage.script.get? session.node with
  | none => rfl
  | some list =>
    have hplayed : playNode stage.completed.level session.unreported
        (list.drop session.unreported.position) = _ :=
      playNode_unreported stage.level session (list.drop session.position)
    simp only [hplayed]
    obtain ⟨last, events, jump⟩ := playNode stage.level session (list.drop session.position)
    cases jump with
    | none => rfl
    | some target =>
      have hsize : stage.completed.graph = stage.graph := rfl
      simp only [NodeOutcome.unreported, hsize]
      split
      · rfl
      · rename_i hlimit
        split
        · have hlater : stage.completed.run (jumps + 1) (last.unreported.enter target) = _ :=
            run_unreported stage (jumps + 1) (last.enter target)
          simp only [hlater, Outcome.unreported, besidesReports_append]
        · rfl
termination_by stage.graph.size - jumps

theorem step_unreported (stage : Stage) (session : Session) :
    stage.completed.step session.unreported = (stage.step session).unreported := by
  have hstate : session.unreported.state = session.state := rfl
  have hwaiting : session.unreported.awaitingAdvance = session.awaitingAdvance := rfl
  have hknown : stage.completed.graph.contains session.unreported.node =
      stage.graph.contains session.node := rfl
  rw [step, step, hstate, hwaiting, hknown]
  split
  · rfl
  · split
    · exact run_unreported stage 0 session
    · rfl

theorem Idle.unreported {stage : Stage} {session : Session} {call : Call}
    {result : Except PlayError PlayState} (idle : Idle stage session call result) :
    Idle stage.completed session.unreported call result := by
  cases idle with
  | step unready => exact .step fun ready => unready ⟨ready.running, ready.notWaiting⟩
  | advance nothing => exact .advance nothing
  | notAwaiting nothing => exact .notAwaiting nothing
  | outOfRange state shown picked => exact .outOfRange state shown picked
  | unknownTarget state shown picked leads unknown =>
    exact .unknownTarget state shown picked leads unknown

theorem Begins.unreported {stage : Stage} {session start : Session} {call : Call}
    (begins : Begins stage session call start) :
    Begins stage.completed session.unreported call start.unreported := by
  cases begins with
  | step ready => exact .step ⟨ready.running, ready.notWaiting⟩
  | advance state waiting => exact .advance state waiting
  | enter state shown picked leads known => exact .enter state shown picked leads known
  | resume state shown picked stays => exact .resume state shown picked stays

/-- Under levels that are all there, a session without its reports is played as it is under the levels as they
are, apart from the reports. -/
theorem answer_unreported (stage : Stage) (session : Session) (call : Call) :
    stage.completed.answer session.unreported call = (stage.answer session call).unreported := by
  rcases answer_cases stage session call with ⟨result, hidle, houtcome⟩ | ⟨start, hbegins⟩
  · rw [houtcome, hidle.unreported.answer_eq]
    rfl
  · rw [hbegins.answer_eq, hbegins.unreported.answer_eq]
    exact step_unreported stage start

end Stage

/-! ## Sequences of calls -/

namespace Session

theorem outcomes_unreported (graph : Graph) (script : Script) (session : Session)
    (moves : List Move) :
    (session.outcomes graph script moves).map Outcome.unreported =
      session.unreported.outcomes graph script
        (moves.map fun move => { move with level := move.level.completed }) := by
  induction moves generalizing session with
  | nil => rfl
  | cons move rest ih =>
    have hmove : Move.outcome graph script session.unreported
        { move with level := move.level.completed } = _ :=
      Stage.answer_unreported ⟨graph, script, move.level⟩ session move.call
    simp only [outcomes, List.map_cons, ih, hmove]
    rfl

/-- Two lookups may differ in which roles have no level and which have level 0. Under both, the same calls have
the same results, fire the same events besides reports of roles, and leave sessions that differ in their reports
only. -/
theorem outcomes_eq_of_levels_agree {first second : LevelLookup}
    (hagree : ∀ role, (first role).getD 0 = (second role).getD 0) (graph : Graph) (script : Script)
    (session : Session) (calls : List Call) :
    (session.outcomes graph script (calls.map (Move.mk first))).map Outcome.unreported =
      (session.outcomes graph script (calls.map (Move.mk second))).map Outcome.unreported := by
  have hcompleted : first.completed = second.completed := funext fun role => congrArg some (hagree role)
  simp only [outcomes_unreported, List.map_map, Function.comp_def, hcompleted]

/-- For a stranger and for a beginner the same song is sung, and only the stranger's magic is reported to have
no level. -/
theorem outcomes_eq_of_levels_agree_of_stranger :
    let graph := Graph.addNode {} ⟨"inn", "", .normal⟩
    let script : Script := .ofList [("inn", [.ifLevel "magic" 1, .narration "A spell.", .otherwise,
      .ifLevel "music" 0, .narration "A song.", .endIf, .endIf])]
    let session := Session.start "inn"
    let stranger : LevelLookup := fun _ => none
    let beginner : LevelLookup := fun role => if role = "magic" then some 0 else none
    (∀ role, (stranger role).getD 0 = (beginner role).getD 0) ∧
      (Stage.step ⟨graph, script, stranger⟩ session).events =
        [.anomaly (.unknownRole "magic"), .anomaly (.unknownRole "music"), .line none "A song."] ∧
      (Stage.step ⟨graph, script, beginner⟩ session).events =
        [.anomaly (.unknownRole "music"), .line none "A song."] ∧
      ∀ calls : List Call,
        (session.outcomes graph script (calls.map (Move.mk stranger))).map Outcome.unreported =
          (session.outcomes graph script (calls.map (Move.mk beginner))).map Outcome.unreported := by
  intro graph script session stranger beginner
  have hagree : ∀ role, (stranger role).getD 0 = (beginner role).getD 0 := by
    intro role
    simp only [stranger, beginner]
    split <;> rfl
  exact ⟨hagree, by decide +kernel, by decide +kernel,
    outcomes_eq_of_levels_agree hagree graph script session⟩

end Session

end Storyline
