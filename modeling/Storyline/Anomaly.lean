-- SUMMARY: Faults in a story's content that are reported and then passed over.
import Storyline.Story

/-!
# Anomalies

Script text drifts from its format in small ways. An anomaly stops neither reading nor playing: it is
reported, and the piece it is about is skipped.
-/

namespace Storyline

/-- How the conditions of a node fail to nest. The first four are found and mended when a script is
read, the others are met when a list that was not mended is played. -/
inductive Imbalance where
  | secondElse
  | elseOutsideIf
  | endIfOutsideIf
  | ifNotClosed
  | ifWithoutEnd
  | elseWithoutEnd
  | elseReachedOutside
  | endIfReachedOutside
  deriving DecidableEq, Inhabited

/-- The wording of an imbalance. -/
def Imbalance.message : Imbalance → String
  | secondElse => "dropped a second [ELSE] for the same [IF]"
  | elseOutsideIf => "dropped an [ELSE] without an open [IF]"
  | endIfOutsideIf => "dropped an [ENDIF] without an open [IF]"
  | ifNotClosed => "closed an unterminated [IF] at the end of the node"
  | ifWithoutEnd => "[IF] has no matching [ELSE] or [ENDIF]"
  | elseWithoutEnd => "[ELSE] has no matching [ENDIF]"
  | elseReachedOutside => "[ELSE] reached with no open [IF]"
  | endIfReachedOutside => "[ENDIF] reached with no open [IF]"

/-- A fault in the content of a story. Lines are counted from one, instructions from zero. -/
inductive Anomaly where
  | unrecognizedLine (node : NodeId) (number : Nat) (line : String)
  | lineOutsideNode (number : Nat) (line : String)
  | duplicateNode (node : NodeId)
  | unbalanced (node : NodeId) (cause : Imbalance)
  | emptyMenu (node : NodeId) (position : Nat)
  | unknownRole (role : String)
  | emptyNode (node : NodeId)
  deriving DecidableEq, Inhabited

/-- The wording of an anomaly. -/
def Anomaly.message : Anomaly → String
  | unrecognizedLine node number line =>
    s!"node {node}, line {number}: unrecognized line '{line}'"
  | lineOutsideNode number line => s!"line {number} is outside any node: '{line}'"
  | duplicateNode node => s!"node {node} is defined more than once; keeping the last definition"
  | unbalanced node cause => s!"node {node}: " ++ cause.message
  | emptyMenu node position => s!"node {node}: choice block at instruction {position} has no options"
  | unknownRole role => s!"no progression value for role '{role}', treating it as level 0"
  | emptyNode node => s!"node {node} has no script"

end Storyline
