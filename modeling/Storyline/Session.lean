-- SUMMARY: The state of one playthrough.
import Storyline.SortedMap
import Storyline.Story

/-!
# Sessions

A session is everything that changes while a story is played: where playing stands, what is on display,
and what has been chosen and visited. Positions are indices into the list of the current node. What piles
up while playing is kept with the latest first; `Session.history` and `Session.visited` give the choices
and the nodes in the order in which they came.
-/

namespace Storyline

/-- What a session is doing. -/
inductive PlayState where
  | running
  | awaitingChoice
  | finished
  deriving DecidableEq, Inhabited

/-- The name of a state. -/
def PlayState.name : PlayState → String
  | running => "Running"
  | awaitingChoice => "AwaitingChoice"
  | finished => "Finished"

/-- The state with the given name. -/
def PlayState.ofName? (name : String) : Option PlayState :=
  [running, awaitingChoice, finished].find? (·.name == name)

/-- A portrait on display. -/
structure Portrait where
  speaker : String
  expression : String
  deriving DecidableEq, Inhabited

/-- What is on display. A line of the narrator has no speaker. -/
structure Display where
  speaker : Option String := none
  text : Option String := none
  portrait : Option Portrait := none
  background : Option String := none
  deriving DecidableEq, Inhabited

/-- The part of a condition that is being played. -/
inductive Branch where
  | thenPart
  | elsePart
  deriving DecidableEq, Inhabited

/-- The name of a branch. -/
def Branch.name : Branch → String
  | thenPart => "Then"
  | elsePart => "Else"

/-- The branch with the given name. -/
def Branch.ofName? (name : String) : Option Branch :=
  [thenPart, elsePart].find? (·.name == name)

/-- A condition that playing is inside of, known by its position. -/
structure OpenCondition where
  position : Nat
  branch : Branch
  deriving DecidableEq, Inhabited

/-- An entry of a menu. -/
structure MenuOption where
  text : String
  target : Option NodeId
  deriving DecidableEq, Inhabited

/-- A menu on display. An option without a target goes on at `resumeAt`. -/
structure Menu where
  options : List MenuOption
  resumeAt : Nat
  deriving DecidableEq, Inhabited

/-- The texts to choose from. -/
def Menu.texts (menu : Menu) : List String :=
  menu.options.map (·.text)

/-- A choice that was made. -/
structure ChoiceRecord where
  node : NodeId
  text : String
  target : Option NodeId
  deriving DecidableEq, Inhabited

/-- The state of one playthrough. -/
structure Session where
  node : NodeId
  position : Nat := 0
  /-- The conditions that playing is inside of, innermost first. -/
  conditions : List OpenCondition := []
  display : Display := {}
  state : PlayState := .running
  /-- Is a line on display that waits for the player? -/
  awaitingAdvance : Bool := false
  menu : Option Menu := none
  /-- The choices that were made, the latest first. -/
  choices : List ChoiceRecord := []
  /-- The nodes that were entered, the latest first; playing began in the last of them. -/
  trail : List NodeId
  /-- The roles that were reported to have no level. -/
  unknownRoles : NameSet := .empty
  deriving DecidableEq

namespace Session

/-- A session that begins at a node. -/
def start (node : NodeId) : Session :=
  { node, trail := [node] }

instance : Inhabited Session := ⟨start ""⟩

/-- The choices that were made, in order. -/
def history (session : Session) : List ChoiceRecord :=
  session.choices.reverse

/-- The nodes that were entered, in order, with the first one. -/
def visited (session : Session) : List NodeId :=
  session.trail.reverse

/-- Is playing over? -/
def isFinished (session : Session) : Bool :=
  session.state = .finished

/-- Goes on at the beginning of another node. -/
def enter (session : Session) (target : NodeId) : Session :=
  { session with
    node := target
    position := 0
    conditions := []
    menu := none
    awaitingAdvance := false
    state := .running
    trail := target :: session.trail }

end Session

end Storyline
