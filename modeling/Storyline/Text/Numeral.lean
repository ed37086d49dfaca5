-- SUMMARY: Reading and bounding whole numbers written in digits.

/-!
# Numerals

Whole numbers as texts: the digits of a numeral in some base, decimal numerals with an optional
sign, and the two ranges that stored numbers must fit in.
-/

namespace Storyline.Text

/-- The number of 64-bit words. -/
def wordCount : Nat := 0x10000000000000000

/-- The first number above the signed 32-bit numbers. -/
def levelBound : Int := 0x80000000

/-- Is the number a 64-bit word? -/
def fitsWord (n : Nat) : Bool :=
  n < wordCount

/-- Is the number a signed 32-bit level? -/
def fitsLevel (n : Int) : Bool :=
  -levelBound ≤ n && n < levelBound

/-- Is this one of the ten ASCII digits? -/
def isDigit (c : Char) : Bool :=
  '0' ≤ c && c ≤ '9'

/-- The value of a hexadecimal digit, in either case. -/
def hexDigit? (c : Char) : Option Nat :=
  if '0' ≤ c ∧ c ≤ '9' then some (c.toNat - '0'.toNat)
  else if 'a' ≤ c ∧ c ≤ 'f' then some (c.toNat - 'a'.toNat + 10)
  else if 'A' ≤ c ∧ c ≤ 'F' then some (c.toNat - 'A'.toNat + 10)
  else none

/-- The number written by `digits` in `base` behind a number `front` that is already read. -/
def digitsFrom (base front : Nat) : List Char → Option Nat
  | [] => some front
  | c :: rest =>
    match hexDigit? c with
    | some d => if d < base then digitsFrom base (front * base + d) rest else none
    | none => none

/-- The number that a nonempty list of digits writes in `base`. -/
def digits? (base : Nat) (s : List Char) : Option Nat :=
  if s.isEmpty then none else digitsFrom base 0 s

/-- Reads a decimal numeral, with an optional plus sign, that is a 64-bit word. -/
def word? (s : List Char) : Option Nat :=
  let digits := match s with
    | '+' :: rest => rest
    | _ => s
  (digits? 10 digits).filter fitsWord

/-- Reads a decimal numeral, with an optional sign, that is a signed 32-bit level. -/
def level? (s : List Char) : Option Int :=
  let value := match s with
    | '+' :: rest => (digits? 10 rest).map Int.ofNat
    | '-' :: rest => (digits? 10 rest).map fun n => -Int.ofNat n
    | _ => (digits? 10 s).map Int.ofNat
  value.filter fitsLevel

/-- The lower-case hexadecimal numeral of a number. -/
def hex (n : Nat) : List Char :=
  Nat.toDigits 16 n

end Storyline.Text
