-- SUMMARY: The smallest parts of a RON text: blanks and comments, identifiers, numbers and strings.
import Storyline.Text.Numeral
import Storyline.Text.Piece

/-!
# Parts of a RON text

A reader takes its part from the front of the text and gives what follows it, or fails. Blanks and
comments may stand between any two parts.
-/

namespace Storyline.Ron

open Text

/-- Takes a part from the front of a text. -/
abbrev Reader (α : Type) := List Char → Option (α × List Char)

/-! ## Blanks and comments -/

/-- The blanks of the format. -/
def isSpace (c : Char) : Bool :=
  c == ' ' || c == '\t' || c == '\n' || c == '\r'

/-- Where a text is read that may be skipped. -/
inductive Skipping where
  | blanks
  /-- In a comment that goes to the end of the line. -/
  | line
  /-- In a comment between `/*` and `*/`, inside so many others. -/
  | block (outer : Nat)

/-- What follows the blanks and comments. A comment must be closed. -/
def skipFrom : Skipping → List Char → Option (List Char)
  | .blanks, '/' :: '/' :: rest => skipFrom .line rest
  | .blanks, '/' :: '*' :: rest => skipFrom (.block 0) rest
  | .blanks, c :: rest =>
    if isSpace c then skipFrom .blanks rest else if c == '/' then none else some (c :: rest)
  | .blanks, [] => some []
  | .line, c :: rest => skipFrom (if c == '\n' then .blanks else .line) rest
  | .line, [] => some []
  | .block outer, '/' :: '*' :: rest => skipFrom (.block (outer + 1)) rest
  | .block outer, '*' :: '/' :: rest =>
    skipFrom (match outer with
      | 0 => .blanks
      | outer + 1 => .block outer) rest
  | .block outer, _ :: rest => skipFrom (.block outer) rest
  | .block _, [] => none

/-- What follows the blanks and comments at the front of a text. -/
def skip (s : List Char) : Option (List Char) :=
  skipFrom .blanks s

/-- What follows the mark `c`, after blanks. -/
def mark? (c : Char) (s : List Char) : Option (List Char) := do
  let s ← skip s
  after? [c] s

/-! ## Identifiers -/

def isIdentStart (c : Char) : Bool :=
  ('a' ≤ c && c ≤ 'z') || ('A' ≤ c && c ≤ 'Z') || c == '_'

def isIdentChar (c : Char) : Bool :=
  isIdentStart c || isDigit c

/-- The characters of an identifier that is written as `r#name`. -/
def isRawIdentChar (c : Char) : Bool :=
  isIdentChar c || c == '.' || c == '+' || c == '-'

/-- Takes an identifier. One that would go on as a raw identifier must be written as such. -/
def identifier? : Reader String
  | ['r'] => none
  | 'r' :: '"' :: _ => none
  | 'r' :: '#' :: rest =>
    match rest.takeWhile isRawIdentChar with
    | [] => none
    | name => some (String.ofList name, rest.dropWhile isRawIdentChar)
  | c :: rest =>
    if isIdentStart c then
      let name := c :: rest.takeWhile isIdentChar
      let rest := rest.dropWhile isIdentChar
      match rest with
      | next :: _ => if isRawIdentChar next then none else some (String.ofList name, rest)
      | [] => some (String.ofList name, rest)
    else none
  | [] => none

/-- What follows the identifier `word` if it stands here by itself. -/
def word? (word : String) (s : List Char) : Option (List Char) :=
  match after? word.toList s with
  | some (c :: rest) => if isIdentChar c then none else some (c :: rest)
  | found => found

/-! ## Integers -/

/-- A character that may stand in a numeral, whatever its base. -/
def isNumeralChar (c : Char) : Bool :=
  (hexDigit? c).isSome || c == '_'

/-- Takes an integer without sign, in base ten or with a prefix for another base. Underscores may stand
behind its first digit. -/
def natural? (s : List Char) : Option (Nat × List Char) :=
  let (base, s) := match s with
    | '0' :: 'x' :: rest => (16, rest)
    | '0' :: 'b' :: rest => (2, rest)
    | '0' :: 'o' :: rest => (8, rest)
    | _ => (10, s)
  let numeral := s.takeWhile isNumeralChar
  match numeral with
  | '_' :: _ => none
  | _ => (digits? base (numeral.filter (· != '_'))).map fun n => (n, s.dropWhile isNumeralChar)

/-- Takes an integer that may have a sign. -/
def integer? : Reader Int
  | '+' :: rest => (natural? rest).map fun (n, rest) => (Int.ofNat n, rest)
  | '-' :: rest => (natural? rest).map fun (n, rest) => (-Int.ofNat n, rest)
  | s => (natural? s).map fun (n, rest) => (Int.ofNat n, rest)

/-! ## Strings -/

/-- The character with the given number, if there is one. -/
def scalar? (n : Nat) : Option Char :=
  if h : n.isValidChar then some (Char.ofNatAux n h) else none

/-- Takes what follows the backslash of an escape. -/
def escape? : Reader Char
  | '\'' :: rest => some ('\'', rest)
  | '"' :: rest => some ('"', rest)
  | '\\' :: rest => some ('\\', rest)
  | 'n' :: rest => some ('\n', rest)
  | 'r' :: rest => some ('\r', rest)
  | 't' :: rest => some ('\t', rest)
  | '0' :: rest => some ('\x00', rest)
  | 'x' :: a :: b :: rest => (digits? 16 [a, b]).map fun n => (Char.ofNat n, rest)
  | 'u' :: '\x7b' :: rest => do
    let digits := rest.takeWhile fun c => (hexDigit? c).isSome
    let rest ← after? ['\x7d'] (rest.dropWhile fun c => (hexDigit? c).isSome)
    if 6 < digits.length then none
    else
      let n ← digits? 16 digits
      let c ← scalar? n
      some (c, rest)
  | _ => none

/-- The content of a string behind its opening quote. `front` holds what was read so far, last one
first. The fuel bounds the number of characters that are left. -/
def stringFrom (front : List Char) : (fuel : Nat) → Reader (List Char)
  | _, [] => none
  | 0, _ => none
  | _ + 1, '"' :: rest => some (front.reverse, rest)
  | fuel + 1, '\\' :: rest =>
    match escape? rest with
    | some (c, rest) => stringFrom (c :: front) fuel rest
    | none => none
  | fuel + 1, c :: rest => stringFrom (c :: front) fuel rest

/-- The content of a raw string up to its `closing`. -/
def rawStringFrom (closing front : List Char) : Reader (List Char)
  | [] => none
  | c :: rest =>
    match after? closing (c :: rest) with
    | some rest => some (front.reverse, rest)
    | none => rawStringFrom closing (c :: front) rest

/-- Takes a string, plain or raw. -/
def string? : Reader String
  | '"' :: rest => (stringFrom [] rest.length rest).map fun (s, rest) => (String.ofList s, rest)
  | 'r' :: rest => do
    let hashes := rest.takeWhile (· == '#')
    let rest ← after? ['"'] (rest.dropWhile (· == '#'))
    let (s, rest) ← rawStringFrom ('"' :: hashes) [] rest
    some (String.ofList s, rest)
  | _ => none

/-- Takes a character between single quotes. -/
def char? : Reader Char
  | '\'' :: '\\' :: rest => do
    let (c, rest) ← escape? rest
    let rest ← after? ['\''] rest
    some (c, rest)
  | '\'' :: c :: '\'' :: rest => if c == '\'' then none else some (c, rest)
  | _ => none

/-! ## Numbers of any kind -/

def isFloatChar (c : Char) : Bool :=
  isDigit c || c == 'e' || c == 'E' || c == '.' || c == '+' || c == '-' || c == '_'

/-- Is this a decimal number with an optional sign, fraction and exponent? -/
def isDecimal (s : List Char) : Bool :=
  let unsigned := match s with
    | '+' :: rest => rest
    | '-' :: rest => rest
    | _ => s
  let whole := unsigned.takeWhile isDigit
  let rest := unsigned.dropWhile isDigit
  let (places, rest) := match rest with
    | '.' :: rest => (rest.takeWhile isDigit, rest.dropWhile isDigit)
    | _ => ([], rest)
  !(whole.isEmpty && places.isEmpty) &&
    match rest with
    | [] => true
    | c :: exponent =>
      let digits := match exponent with
        | '+' :: rest => rest
        | '-' :: rest => rest
        | _ => exponent
      (c == 'e' || c == 'E') && !digits.isEmpty && digits.all isDigit

/-- The numbers that have names, with their signs. -/
def namedNumbers : List String :=
  ["inf", "+inf", "-inf", "NaN", "+NaN", "-NaN"]

/-- Takes a decimal number, written without underscores, or a number that has a name. -/
def skipDecimal? (s : List Char) : Option (List Char) :=
  match namedNumbers.findSome? (word? · s) with
  | some rest => some rest
  | none => if isDecimal (s.takeWhile isFloatChar) then some (s.dropWhile isFloatChar) else none

/-- Takes a number of any kind: an integer of 64 bits, or else a decimal or named number. -/
def skipNumber? (s : List Char) : Option (List Char) :=
  let (signed, unsigned) := match s with
    | '+' :: rest => (true, rest)
    | '-' :: rest => (true, rest)
    | _ => (false, s)
  if (unsigned.takeWhile isNumeralChar).length < (unsigned.takeWhile isFloatChar).length then
    skipDecimal? s
  else
    match integer? s with
    | some (n, rest) =>
      let fits :=
        if signed then -0x8000000000000000 ≤ n && n < 0x8000000000000000 else fitsWord n.toNat
      if fits then some rest else skipDecimal? s
    | none => skipDecimal? s

end Storyline.Ron
