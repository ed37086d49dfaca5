-- SUMMARY: Playing a story by itself with random choices.
import Storyline.Playback
import Storyline.Random

/-!
# Automatic play

An automatic player advances every line and picks from every menu at random, until the session is
finished or a limit on the number of calls is reached. One draw is made for every menu, also for a menu
with one entry.
-/

namespace Storyline

/-- The number of calls after which an automatic player stops. -/
def defaultMaxSteps : Nat := 10000

/-- What happened while a story was played by itself. -/
structure Playthrough where
  visited : List NodeId
  choices : List ChoiceRecord
  /-- The node that playing finished in; there is none if the limit was reached. -/
  ending : Option NodeId
  /-- The lines that were shown. Those of the narrator have no speaker. -/
  lines : List (Option String × String)
  anomalies : List Anomaly
  steps : Nat
  deriving DecidableEq

/-- A player that chooses at random. -/
structure AutoPlayer where
  generator : Generator
  maxSteps : Nat := defaultMaxSteps

namespace AutoPlayer

/-- The player with the given seed. -/
def ofSeed (seed : UInt64) (maxSteps : Nat := defaultMaxSteps) : AutoPlayer where
  generator := .ofSeed seed
  maxSteps := maxSteps

/-- The lines among the events of a play. -/
def shownLines (events : List Event) : List (Option String × String) :=
  events.filterMap fun
    | .line speaker text => some (speaker, text)
    | _ => none

/-- The anomalies among the events of a play. -/
def reportedAnomalies (events : List Event) : List Anomaly :=
  events.filterMap fun
    | .anomaly anomaly => some anomaly
    | _ => none

/-- The call that goes on with a session in the given state, if there is one. A menu without entries
leaves none. -/
def next? (stage : Stage) (generator : Generator) (session : Session) :
    PlayState → Option (Generator × Outcome)
  | .finished => none
  | .awaitingChoice =>
    let available := (session.menu.map (·.options.length)).getD 0
    if available = 0 then none
    else
      let (index, generator) := generator.draw available
      some (generator, stage.choose session index)
  | .running =>
    some (generator, if session.awaitingAdvance then stage.advance session else stage.step session)

/-- Goes on after `steps` calls, the last of which is `last`. `earlier` holds the events of the calls
before it, those of the latest first. Gives the outcome of the last call, with the events of all of
them, and the number of calls. -/
def carryOn (stage : Stage) (maxSteps : Nat) (generator : Generator) (steps : Nat)
    (earlier : List (List Event)) (last : Outcome) : Generator × Outcome × Nat :=
  let all := last.events :: earlier
  match last.result with
  | .error _ => (generator, { last with events := all.reverse.flatten }, steps)
  | .ok state =>
    if steps < maxSteps then
      match next? stage generator last.session state with
      | some (generator, outcome) => carryOn stage maxSteps generator (steps + 1) all outcome
      | none => (generator, { last with events := all.reverse.flatten }, steps)
    else (generator, { last with events := all.reverse.flatten }, steps)
termination_by maxSteps - steps

/-- Plays a session until it is finished or the limit is reached. -/
def play (player : AutoPlayer) (stage : Stage) (session : Session) :
    AutoPlayer × Session × Except PlayError Playthrough :=
  let (generator, outcome, steps) :=
    carryOn stage player.maxSteps player.generator 1 [] (stage.step session)
  let session := outcome.session
  ({ player with generator }, session, outcome.result.map fun _ =>
    { visited := session.visited
      choices := session.history
      ending := if session.isFinished then some session.node else none
      lines := shownLines outcome.events
      anomalies := reportedAnomalies outcome.events
      steps })

end AutoPlayer

end Storyline
