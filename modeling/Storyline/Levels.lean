-- SUMMARY: The levels that characters have reached, which conditions in scripts ask for.
import Storyline.Ron.Reader
import Storyline.SortedMap

/-!
# Levels

A role has at most one level, a signed 32-bit number. Playing only reads levels; raising one stops at the
ends of the range.
-/

namespace Storyline

/-- The levels of roles. -/
abbrev Levels := SortedMap Int

/-- How playing looks up a level; a role may have none. -/
abbrev LevelLookup := String → Option Int

namespace Levels

/-- The nearest number that is a level. -/
def clamp (n : Int) : Int :=
  max (-Text.levelBound) (min (Text.levelBound - 1) n)

theorem fitsLevel_clamp (n : Int) : Text.fitsLevel (clamp n) = true := by
  rw [Text.fitsLevel, Bool.and_eq_true]
  unfold clamp Text.levelBound
  exact ⟨decide_eq_true (by omega), decide_eq_true (by omega)⟩

/-- Changes the level of a role, which counts as 0 if there is none. -/
def adjust (levels : Levels) (role : String) (delta : Int) : Levels :=
  levels.insert role (clamp ((levels.get? role).getD 0 + delta))

/-- The shape of stored levels. -/
def shape : Data.Shape :=
  .dict .level

/-- Reads levels written as a RON map. -/
def ofRon? (text : String) : Option Levels :=
  (Ron.read? shape text).bind fun value => (value.toDict? Data.Value.toInt?).map SortedMap.ofList

end Levels

end Storyline
