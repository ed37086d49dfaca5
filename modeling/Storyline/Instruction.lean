-- SUMMARY: The instructions that a node's script is made of.
import Storyline.Story

/-!
# Instructions

A node is played as a flat list of instructions. Conditions and menus are not trees: an `ifLevel`
reaches to its `endIf`, and a menu is the run of offers that stand next to each other.
-/

namespace Storyline

/-- One playable instruction. -/
inductive Instruction where
  /-- Show another background. -/
  | scene (name : String)
  /-- Show the portrait of a speaker. -/
  | portrait (speaker expression : String)
  /-- Take the portrait away. -/
  | clearPortrait
  /-- A line of the narrator. -/
  | narration (text : String)
  /-- A line of a speaker. -/
  | dialogue (speaker text : String)
  /-- Go on only if the level of `role` is at least `level`. -/
  | ifLevel (role : String) (level : Int)
  /-- The part played when the condition fails begins here. -/
  | otherwise
  /-- The condition ends here. -/
  | endIf
  /-- Go on in another node. -/
  | jump (target : NodeId)
  /-- A block of offers begins here. -/
  | openMenu
  /-- An entry of a menu, with the number that the author gave it. Without a target, picking it goes
  on behind the menu. -/
  | offer (index : Nat) (text : String) (target : Option NodeId)
  deriving DecidableEq, Inhabited

namespace Instruction

/-- Does the instruction show a line and wait for the player? -/
def isLine : Instruction → Bool
  | narration _ => true
  | dialogue _ _ => true
  | _ => false

/-- Is the instruction an entry of a menu? -/
def isOffer : Instruction → Bool
  | offer _ _ _ => true
  | _ => false

/-- The node that the instruction can lead to. -/
def navigationTarget : Instruction → Option NodeId
  | jump target => some target
  | offer _ _ target => target
  | _ => none

end Instruction

end Storyline
