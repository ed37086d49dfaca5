-- SUMMARY: Cutting a JSON text into its tokens.
import Storyline.Text.Numeral

/-!
# JSON tokens

The first half of reading JSON: brackets, marks, literals, numbers and strings, without the blanks
between them.

A string may escape a surrogate that has no partner. Such a string is no text; it is a token all the same,
because only the reader of a document knows whether the string matters.
-/

namespace Storyline.Json

open Text

/-- A token. A number is an integer if it has neither fraction nor exponent and is not minus zero. A
string is a text if all its surrogates are paired. -/
inductive Token where
  | openArray
  | closeArray
  | openObject
  | closeObject
  | comma
  | colon
  | null
  | bool (b : Bool)
  | number (integer : Option Int)
  | string (text : Option String)
  deriving DecidableEq

/-- The blanks between tokens. -/
def isSpace (c : Char) : Bool :=
  c == ' ' || c == '\n' || c == '\t' || c == '\r'

/-! ## Strings -/

/-- The character that a short escape stands for. -/
def shortEscape? : Char → Option Char
  | '"' => some '"'
  | '\\' => some '\\'
  | '/' => some '/'
  | 'b' => some '\x08'
  | 'f' => some '\x0c'
  | 'n' => some '\n'
  | 'r' => some '\r'
  | 't' => some '\t'
  | _ => none

/-- The code units of a string behind its opening quote, and what follows its closing quote. `front`
holds the units read so far, last one first. -/
def scanString (front : List Nat) : List Char → Option (List Nat × List Char)
  | [] => none
  | '"' :: rest => some (front, rest)
  | '\\' :: 'u' :: a :: b :: c :: d :: rest =>
    match digits? 16 [a, b, c, d] with
    | some unit => scanString (unit :: front) rest
    | none => none
  | '\\' :: e :: rest =>
    match shortEscape? e with
    | some c => scanString (c.toNat :: front) rest
    | none => none
  | c :: rest => if c.toNat < 0x20 || c == '\\' then none else scanString (c.toNat :: front) rest

def isHighSurrogate (unit : Nat) : Bool :=
  0xD800 ≤ unit && unit < 0xDC00

def isLowSurrogate (unit : Nat) : Bool :=
  0xDC00 ≤ unit && unit < 0xE000

/-- The text of code units, which are given last one first; `done` is the text behind them. -/
def joinUnits (done : List Char) : List Nat → Option (List Char)
  | [] => some done
  | [unit] =>
    if isHighSurrogate unit || isLowSurrogate unit then none else some (Char.ofNat unit :: done)
  | low :: high :: rest =>
    if isLowSurrogate low && isHighSurrogate high then
      joinUnits (Char.ofNat (0x10000 + (high - 0xD800) * 0x400 + (low - 0xDC00)) :: done) rest
    else if isHighSurrogate low || isLowSurrogate low then none
    else joinUnits (Char.ofNat low :: done) (high :: rest)

/-! ## Numbers -/

/-- What follows one or more digits. -/
def afterDigits? (s : List Char) : Option (List Char) :=
  match s with
  | c :: _ => if isDigit c then some (s.dropWhile isDigit) else none
  | [] => none

/-- Reads a number. -/
def scanNumber? (s : List Char) : Option (Option Int × List Char) := do
  let (negative, s) := match s with
    | '-' :: rest => (true, rest)
    | _ => (false, s)
  let whole := match s with
    | '0' :: _ => ['0']
    | _ => s.takeWhile isDigit
  let rest := s.drop whole.length
  let value ← digits? 10 whole
  let (integer, rest) ← match rest with
    | '.' :: rest => (afterDigits? rest).map fun rest => (false, rest)
    | _ => some (true, rest)
  let (integer, rest) ←
    match rest with
    | c :: rest' =>
      if c == 'e' || c == 'E' then
        let digits := match rest' with
          | '+' :: digits => digits
          | '-' :: digits => digits
          | _ => rest'
        (afterDigits? digits).map fun rest => (false, rest)
      else some (integer, rest)
    | [] => some (integer, rest)
  if integer && !(negative && value == 0) then
    some (some (if negative then -Int.ofNat value else Int.ofNat value), rest)
  else some (none, rest)

/-! ## Tokens -/

/-- The token at the front of a text that does not begin with a blank. -/
def scan? : List Char → Option (Token × List Char)
  | '[' :: rest => some (.openArray, rest)
  | ']' :: rest => some (.closeArray, rest)
  | '\x7b' :: rest => some (.openObject, rest)
  | '\x7d' :: rest => some (.closeObject, rest)
  | ',' :: rest => some (.comma, rest)
  | ':' :: rest => some (.colon, rest)
  | '"' :: rest =>
    (scanString [] rest).map fun (units, rest) =>
      (.string ((joinUnits [] units).map String.ofList), rest)
  | 'n' :: 'u' :: 'l' :: 'l' :: rest => some (.null, rest)
  | 't' :: 'r' :: 'u' :: 'e' :: rest => some (.bool true, rest)
  | 'f' :: 'a' :: 'l' :: 's' :: 'e' :: rest => some (.bool false, rest)
  | s => (scanNumber? s).map fun (integer, rest) => (.number integer, rest)

/-- The tokens of a text, put behind those of `front`, which are given last one first. The fuel bounds
the number of characters that are left. -/
def tokensFrom (front : List Token) : (fuel : Nat) → List Char → Option (List Token)
  | _, [] => some front.reverse
  | 0, _ :: _ => none
  | fuel + 1, c :: rest =>
    if isSpace c then tokensFrom front fuel rest
    else
      match scan? (c :: rest) with
      | some (token, rest) => tokensFrom (token :: front) fuel rest
      | none => none

/-- The tokens of a text. -/
def tokens? (s : List Char) : Option (List Token) :=
  tokensFrom [] s.length s

end Storyline.Json
