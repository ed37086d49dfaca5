-- SUMMARY: Settings of a story: its root, how its script is read, and how long memories may be.
import Storyline.Story

/-!
# Configuration

The settings that a story can override. Every setting has a default.
-/

namespace Storyline

/-- The name of the root node when none is given. -/
def defaultRoot : NodeId := "root"

/-- Are the two texts equal when the case of ASCII letters is ignored? -/
def sameIgnoringCase (s t : String) : Bool :=
  s.toList.map Char.toLower == t.toList.map Char.toLower

/-- Settings of the script reader. -/
structure ScriptConfig where
  /-- The speakers whose lines are narration. -/
  narrators : List String := ["旁白", "narrator"]
  /-- The expressions that take the portrait away. -/
  clearTokens : List String := ["none", "无"]
  /-- The length of the longest speaker in a line written as `speaker: text`. -/
  maxSpeakerLength : Nat := 12
  deriving DecidableEq

namespace ScriptConfig

instance : Inhabited ScriptConfig := ⟨{}⟩

/-- Does a line of this speaker belong to the narrator? -/
def isNarrator (config : ScriptConfig) (speaker : String) : Bool :=
  config.narrators.any (sameIgnoringCase · speaker)

/-- Does this expression take the portrait away? The empty one always does. -/
def isClearToken (config : ScriptConfig) (expression : String) : Bool :=
  expression.isEmpty || config.clearTokens.any (sameIgnoringCase · expression)

end ScriptConfig

/-- Settings of the memories that a node's content is written from. -/
structure MemoryConfig where
  /-- The length that a memory is cut to. -/
  maxChars : Nat := 2000
  /-- The memory of a node whose parents share no ancestor. -/
  convergeText : String := "Multiple paths converge here."
  /-- The memory of a node without parents. -/
  openingText : String := "The story begins."
  deriving DecidableEq

instance : Inhabited MemoryConfig := ⟨{}⟩

/-- All settings of a story. -/
structure Config where
  root : NodeId := defaultRoot
  script : ScriptConfig := {}
  memory : MemoryConfig := {}
  deriving DecidableEq

instance : Inhabited Config := ⟨{}⟩

end Storyline
