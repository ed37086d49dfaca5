-- SUMMARY: A seeded generator of random numbers, and drawing uniformly below a bound.
import Storyline.Text.Numeral

/-!
# Random numbers

A generator is seeded with one 64-bit word and gives the key stream of the ChaCha cipher with twelve
rounds. Numbers below a bound are drawn by widening multiplication: the high half of the product of a
random word and the bound, where products whose low half falls into the uneven rest are drawn again.

Main statement: `draw_lt` (a number drawn below a positive bound is below it).
-/

namespace Storyline

namespace ChaCha

/-- The sixteen words that a block is computed on. -/
abbrev Block := Vector UInt32 16

def rotateLeft (x : UInt32) (n : UInt32) : UInt32 :=
  (x <<< n) ||| (x >>> (32 - n))

/-- One quarter round on the words at four places. -/
def quarterRound (s : Block) (a b c d : Fin 16) : Block :=
  let s := s.set a (s[a] + s[b])
  let s := s.set d (rotateLeft (s[d] ^^^ s[a]) 16)
  let s := s.set c (s[c] + s[d])
  let s := s.set b (rotateLeft (s[b] ^^^ s[c]) 12)
  let s := s.set a (s[a] + s[b])
  let s := s.set d (rotateLeft (s[d] ^^^ s[a]) 8)
  let s := s.set c (s[c] + s[d])
  s.set b (rotateLeft (s[b] ^^^ s[c]) 7)

/-- A round on the columns and a round on the diagonals. -/
def doubleRound (s : Block) : Block :=
  let s := quarterRound s 0 4 8 12
  let s := quarterRound s 1 5 9 13
  let s := quarterRound s 2 6 10 14
  let s := quarterRound s 3 7 11 15
  let s := quarterRound s 0 5 10 15
  let s := quarterRound s 1 6 11 12
  let s := quarterRound s 2 7 8 13
  quarterRound s 3 4 9 14

/-- The words that a block begins with: the constants, the key and the number of the block. -/
def initial (key : Vector UInt32 8) (number : UInt64) : Block :=
  (#v[0x61707865, 0x3320646e, 0x79622d32, 0x6b206574] : Vector UInt32 4) ++ key ++
    (#v[number.toUInt32, (number >>> 32).toUInt32, 0, 0] : Vector UInt32 4)

/-- The key stream of one block. -/
def block (key : Vector UInt32 8) (number : UInt64) : List UInt32 :=
  let start := initial key number
  let mixed := Nat.repeat doubleRound 6 start
  (Vector.zipWith (· + ·) mixed start).toList

end ChaCha

/-- A generator: its key, the number of the next block, and the words of the last block that were not
drawn yet. -/
structure Generator where
  key : Vector UInt32 8
  next : UInt64 := 0
  words : List UInt32 := []

namespace Generator

/-- The steps by which a seed is stretched to a key: every step gives one word. -/
def stretch : (count : Nat) → UInt64 → List UInt32
  | 0, _ => []
  | count + 1, state =>
    let state := state * 6364136223846793005 + 11634580027462260723
    let mixed := (((state >>> 18) ^^^ state) >>> 27).toUInt32
    let turn := (state >>> 59).toUInt32
    ((mixed >>> turn) ||| (mixed <<< ((32 - turn) % 32))) :: stretch count state

theorem length_stretch (count : Nat) (state : UInt64) : (stretch count state).length = count := by
  induction count generalizing state with
  | zero => rfl
  | succ count ih => simp [stretch, ih]

/-- The generator of a seed. -/
def ofSeed (seed : UInt64) : Generator where
  key := ⟨(stretch 8 seed).toArray, by simp [length_stretch]⟩

/-- Draws one word. -/
def word (generator : Generator) : UInt32 × Generator :=
  match generator.words with
  | w :: rest => (w, { generator with words := rest })
  | [] =>
    match ChaCha.block generator.key generator.next with
    | w :: rest => (w, { generator with next := generator.next + 1, words := rest })
    | [] => (0, generator)

/-- Draws a 64-bit number from two words, the low one first. -/
def wide (generator : Generator) : Nat × Generator :=
  let (low, generator) := generator.word
  let (high, generator) := generator.word
  (low.toNat + high.toNat * 0x100000000, generator)

theorem wide_lt (generator : Generator) : generator.wide.1 < Text.wordCount := by
  have hl := generator.word.1.toNat_lt
  have hh := generator.word.2.word.1.toNat_lt
  simp only [wide, Text.wordCount]
  omega

/-- Up to this number the low half of a product is accepted: one less than the largest multiple of the
bound by a power of two that fits into 64 bits. -/
def zone (bound : Nat) : Nat :=
  bound <<< (63 - bound.log2) - 1

/-- Draws a number below the bound. `retries` bounds how often a draw is repeated. -/
def drawFrom (bound : Nat) : (retries : Nat) → Generator → Nat × Generator
  | 0, generator =>
    let (value, generator) := generator.wide
    (value * bound / Text.wordCount, generator)
  | retries + 1, generator =>
    let (value, generator) := generator.wide
    if value * bound % Text.wordCount ≤ zone bound then (value * bound / Text.wordCount, generator)
    else drawFrom bound retries generator

/-- Draws a number below the bound. At least every second draw is accepted, so the limit on repetitions
is out of reach. -/
def draw (generator : Generator) (bound : Nat) : Nat × Generator :=
  drawFrom bound 1000 generator

theorem high_half_lt {value bound : Nat} (hv : value < Text.wordCount) (hb : 0 < bound) :
    value * bound / Text.wordCount < bound :=
  Nat.div_lt_of_lt_mul (Nat.mul_lt_mul_of_pos_right hv hb)

theorem drawFrom_lt {bound : Nat} (hb : 0 < bound) (retries : Nat) (generator : Generator) :
    (drawFrom bound retries generator).1 < bound := by
  induction retries generalizing generator with
  | zero => exact high_half_lt generator.wide_lt hb
  | succ retries ih =>
    simp only [drawFrom]
    split
    · exact high_half_lt generator.wide_lt hb
    · exact ih _

theorem draw_lt {bound : Nat} (hb : 0 < bound) (generator : Generator) :
    (generator.draw bound).1 < bound :=
  drawFrom_lt hb _ _

end Generator

end Storyline
