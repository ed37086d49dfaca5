-- SUMMARY: Playing a story: stepping through instructions, advancing lines and choosing from menus.
import Storyline.Anomaly
import Storyline.Graph.Order
import Storyline.Levels
import Storyline.Script
import Storyline.Session

/-!
# Playback

A session is played by three calls. `step` runs until a line is on display, a menu is up or the node is
at its end; `advance` goes on behind a line; `choose` picks from a menu. A call gives the new session, the
events that it fired and how it ended. A call that ends in an error has still changed the session.

Conditions are resolved on the flat list: a failed `ifLevel` looks ahead for the `otherwise` or `endIf` of
its own level. Inside a node playing only ever goes forward. It can go in circles by jumping, so a call
that jumps more often than there are nodes is stopped.
-/

namespace Storyline

/-- What a player is told while a call runs. -/
inductive Event where
  | scene (name : String)
  /-- There is no portrait when it was taken away. -/
  | portrait (portrait : Option Portrait)
  /-- There is no speaker when the narrator speaks. -/
  | line (speaker : Option String) (text : String)
  | choices (texts : List String)
  | finished (node : NodeId)
  | anomaly (anomaly : Anomaly)
  deriving DecidableEq

/-- Why a call failed. -/
inductive PlayError where
  | structural (error : GraphError)
  | notAwaitingChoice (state : PlayState)
  | choiceOutOfRange (index available : Nat)
  | runawayJumps (node : NodeId) (jumps : Nat)
  deriving DecidableEq

/-- The wording of a playback error. -/
def PlayError.message : PlayError → String
  | structural error => "structural error: " ++ error.message
  | notAwaitingChoice state => "not awaiting a choice (state: " ++ state.name ++ ")"
  | choiceOutOfRange index available =>
    s!"choice {index} is out of range ({available} options)"
  | runawayJumps node jumps =>
    s!"jumped {jumps} times without showing anything, last at node {node}"

/-- How a call ended: the session it left, the events it fired, and the state or the error that it
answers with. -/
structure Outcome where
  session : Session
  events : List Event
  result : Except PlayError PlayState

/-- What a session is played on. -/
structure Stage where
  graph : Graph
  script : Script
  level : LevelLookup

/-! ## Looking ahead -/

namespace Playback

/-- Where a failed condition goes on. -/
inductive Landing where
  /-- Behind the `otherwise`, so many instructions further. -/
  | otherwise (distance : Nat)
  /-- Behind the `endIf`, so many instructions further. -/
  | endIf (distance : Nat)
  deriving DecidableEq

/-- The same place, seen from one instruction before. -/
def Landing.succ : Landing → Landing
  | otherwise distance => otherwise (distance + 1)
  | endIf distance => endIf (distance + 1)

/-- Finds the `otherwise` or `endIf` of the condition whose body begins here, passing over `depth`
conditions that are open in it. -/
def landing? : (depth : Nat) → List Instruction → Option Landing
  | _, [] => none
  | depth, .ifLevel _ _ :: rest => (landing? (depth + 1) rest).map .succ
  | 0, .otherwise :: _ => some (.otherwise 1)
  | 0, .endIf :: _ => some (.endIf 1)
  | depth + 1, .endIf :: rest => (landing? depth rest).map .succ
  | depth, _ :: rest => (landing? depth rest).map .succ

/-- Finds the `endIf` of the condition whose other part begins here, and gives the distance to the
instruction behind it. -/
def endIf? : (depth : Nat) → List Instruction → Option Nat
  | _, [] => none
  | depth, .ifLevel _ _ :: rest => (endIf? (depth + 1) rest).map (· + 1)
  | 0, .endIf :: _ => some 1
  | depth + 1, .endIf :: rest => (endIf? depth rest).map (· + 1)
  | depth, _ :: rest => (endIf? depth rest).map (· + 1)

/-- The entries of the menu that the run of offers at the front of a list makes. -/
def offers : List Instruction → List MenuOption
  | .offer _ text target :: rest => ⟨text, target⟩ :: offers rest
  | _ => []

/-! ## Single instructions -/

/-- What one instruction leads to. -/
inductive Effect where
  /-- Go on in the same node, so many instructions further than the next one. -/
  | proceed (session : Session) (skipped : Nat) (events : List Event)
  /-- Stop in the given state until the player does something. -/
  | stop (session : Session) (events : List Event)
  /-- Go on in another node. -/
  | jump (target : NodeId)

/-- The anomaly of a condition in the current node. -/
def unbalanced (session : Session) (cause : Imbalance) : Event :=
  .anomaly (.unbalanced session.node cause)

/-- A condition: asks for the level of the role and looks ahead if it is too low. A role without a level
counts as level 0; it is reported once in a session. -/
def checkLevel (level : LevelLookup) (session : Session) (role : String) (threshold : Int)
    (rest : List Instruction) : Effect :=
  let isNew := (level role).isNone && !session.unknownRoles.contains role
  let reports := if isNew then [Event.anomaly (.unknownRole role)] else []
  let session :=
    if isNew then { session with unknownRoles := session.unknownRoles.add role } else session
  let inside (branch : Branch) : Session :=
    { session with conditions := ⟨session.position, branch⟩ :: session.conditions }
  if threshold ≤ (level role).getD 0 then .proceed (inside .thenPart) 0 reports
  else
    match landing? 0 rest with
    | some (.otherwise distance) => .proceed (inside .elsePart) distance reports
    | some (.endIf distance) => .proceed session distance reports
    | none => .proceed session rest.length (reports ++ [unbalanced session .ifWithoutEnd])

/-- The end of the part that was played when the condition held: goes on behind the `endIf`. -/
def leaveThenPart (session : Session) (rest : List Instruction) : Effect :=
  let (distance, unended) := match endIf? 0 rest with
    | some distance => (distance, [])
    | none => (rest.length, [unbalanced session .elseWithoutEnd])
  let outside := if session.conditions.isEmpty then [unbalanced session .elseReachedOutside] else []
  .proceed { session with conditions := session.conditions.tail } distance (unended ++ outside)

/-- The end of a condition. -/
def leaveCondition (session : Session) : Effect :=
  .proceed { session with conditions := session.conditions.tail } 0
    (if session.conditions.isEmpty then [unbalanced session .endIfReachedOutside] else [])

/-- A line comes on display and waits. -/
def showLine (session : Session) (speaker : Option String) (text : String) : Effect :=
  .stop
    { session with
      display := { session.display with speaker, text := some text }
      awaitingAdvance := true }
    [.line speaker text]

/-- A menu of offers, which begins `before` instructions behind the current one. Without offers there is
no menu. -/
def showMenu (session : Session) (before : Nat) (list : List Instruction) : Effect :=
  match offers list with
  | [] => .proceed session 0 [.anomaly (.emptyMenu session.node session.position)]
  | options =>
    let menu : Menu := ⟨options, session.position + before + options.length⟩
    .stop { session with menu := some menu, state := .awaitingChoice } [.choices menu.texts]

/-- Performs the instruction at the current position; `rest` is the list behind it. -/
def perform (level : LevelLookup) (session : Session) (rest : List Instruction) : Instruction → Effect
  | .scene name =>
    .proceed { session with display := { session.display with background := some name } } 0
      [.scene name]
  | .portrait speaker expression =>
    let portrait := some (Portrait.mk speaker expression)
    .proceed { session with display := { session.display with portrait } } 0 [.portrait portrait]
  | .clearPortrait =>
    .proceed { session with display := { session.display with portrait := none } } 0 [.portrait none]
  | .narration text => showLine session none text
  | .dialogue speaker text => showLine session (some speaker) text
  | .ifLevel role threshold => checkLevel level session role threshold rest
  | .otherwise => leaveThenPart session rest
  | .endIf => leaveCondition session
  | .jump target => .jump target
  | .openMenu => showMenu session 1 rest
  | .offer index text target => showMenu session 0 (.offer index text target :: rest)

/-! ## Nodes -/

/-- The end of a node. -/
def finish (session : Session) : Session × List Event :=
  ({ session with state := .finished, menu := none }, [.finished session.node])

/-- How playing inside one node ends: it stops, or it jumps. -/
structure NodeOutcome where
  session : Session
  events : List Event
  jump : Option NodeId

/-- Plays inside one node. `list` is what is left of the node's list at the current position. -/
def playNode (level : LevelLookup) (session : Session) (list : List Instruction) : NodeOutcome :=
  match list with
  | [] =>
    let (session, events) := finish session
    ⟨session, events, none⟩
  | instruction :: rest =>
    match perform level session rest instruction with
    | .proceed next skipped events =>
      let outcome := playNode level { next with position := session.position + 1 + skipped }
        (rest.drop skipped)
      { outcome with events := events ++ outcome.events }
    | .stop next events => ⟨next, events, none⟩
    | .jump target => ⟨session, [], some target⟩
termination_by list.length
decreasing_by simp only [List.length_drop, List.length_cons]; omega

end Playback

/-! ## The three calls -/

namespace Stage

open Playback

/-- Plays from the current position on, through as many nodes as it takes. `jumps` were made before in
the same call. -/
def run (stage : Stage) (jumps : Nat) (session : Session) : Outcome :=
  match stage.script.get? session.node with
  | none =>
    let (finished, events) := finish session
    ⟨finished, .anomaly (.emptyNode session.node) :: events, .ok finished.state⟩
  | some list =>
    let played := playNode stage.level session (list.drop session.position)
    match played.jump with
    | none => ⟨played.session, played.events, .ok played.session.state⟩
    | some target =>
      if stage.graph.size < jumps + 1 then
        ⟨played.session, played.events, .error (.runawayJumps target (jumps + 1))⟩
      else if stage.graph.contains target then
        let outcome := run stage (jumps + 1) (played.session.enter target)
        { outcome with events := played.events ++ outcome.events }
      else ⟨played.session, played.events, .error (.structural (.unknownNode target))⟩
termination_by stage.graph.size - jumps

/-- Plays until the player has to do something. Changes nothing unless the session is running and no
line waits. -/
def step (stage : Stage) (session : Session) : Outcome :=
  if session.state ≠ .running ∨ session.awaitingAdvance then ⟨session, [], .ok session.state⟩
  else if stage.graph.contains session.node then stage.run 0 session
  else ⟨session, [], .error (.structural (.unknownNode session.node))⟩

/-- The position behind a line. Behind the end of the list, where no line is, positions are 64-bit words
and begin again at 0. -/
def positionAfter (position length : Nat) : Nat :=
  if position < length then position + 1 else (position + 1) % Text.wordCount

/-- Goes on behind the line on display. Changes nothing unless a line waits. -/
def advance (stage : Stage) (session : Session) : Outcome :=
  if session.state ≠ .running ∨ session.awaitingAdvance = false then
    ⟨session, [], .ok session.state⟩
  else
    let length := ((stage.script.get? session.node).getD []).length
    stage.step
      { session with
        awaitingAdvance := false
        position := positionAfter session.position length }

/-- Picks an entry from the menu, counted from 0, and goes on. -/
def choose (stage : Stage) (session : Session) (index : Nat) : Outcome :=
  match session.state, session.menu with
  | .awaitingChoice, some menu =>
    match menu.options[index]? with
    | none => ⟨session, [], .error (.choiceOutOfRange index menu.options.length)⟩
    | some option =>
      let choice : ChoiceRecord := ⟨session.node, option.text, option.target⟩
      let chosen := { session with choices := choice :: session.choices }
      match option.target with
      | some target =>
        if stage.graph.contains target then stage.step (chosen.enter target)
        else ⟨session, [], .error (.structural (.unknownNode target))⟩
      | none => stage.step { chosen with menu := none, state := .running, position := menu.resumeAt }
  | state, _ => ⟨session, [], .error (.notAwaitingChoice state)⟩

end Stage

end Storyline
