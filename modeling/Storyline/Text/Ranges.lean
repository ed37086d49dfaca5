-- SUMMARY: Sets of characters given by the bounds of their ranges.

/-!
# Character ranges

A set of characters is given by an ascending list of bounds: it holds the characters from the first
bound up to but not including the second, from the third up to the fourth, and so on.
-/

namespace Storyline.Text

/-- Is the code point `n` in a range, where `inside` tells whether the bounds read so far have opened
one? -/
def inRangesFrom (n : Nat) (inside : Bool) : List Nat → Bool
  | [] => inside
  | bound :: rest => if n < bound then inside else inRangesFrom n (!inside) rest

/-- Is the character in one of the ranges that `bounds` delimit? -/
def inRanges (bounds : List Nat) (c : Char) : Bool :=
  inRangesFrom c.toNat false bounds

end Storyline.Text
