-- SUMMARY: Reading a RON text as the data of a declared shape.
import Storyline.Data.Value
import Storyline.Ron.Lexical

/-!
# Reading RON

A text begins with attributes that may loosen the notation of optional values, and holds one value. It
is read by the shape that is expected, so the same text can be a record, an optional record or nothing
that is known. The value of a field that the shape does not know is passed over; it may be anything
that the notation allows.

Values nest up to `nestingLimit` levels deep, where brackets and the items in them count separately.
-/

namespace Storyline.Ron

open Data Text

/-- What the attributes of a text allow. -/
structure Extensions where
  /-- A value may stand for itself where an optional value is expected. -/
  implicitSome : Bool := false

/-- The number of levels that values may nest. -/
def nestingLimit : Nat := 128

/-! ## Attributes -/

/-- Switches on an extension by its name. Two of them loosen the notation of wrapped values, which no
shape has. -/
def Extensions.enable? (extensions : Extensions) (name : String) : Option Extensions :=
  match name with
  | "implicit_some" => some { extensions with implicitSome := true }
  | "unwrap_newtypes" => some extensions
  | "unwrap_variant_newtypes" => some extensions
  | _ => none

/-- Takes the names of an attribute, with commas between them. The fuel bounds the number of characters
that are left. -/
def enableNames (extensions : Extensions) : (fuel : Nat) → Reader Extensions
  | 0, _ => none
  | fuel + 1, s => do
    let (name, rest) ← identifier? s
    let extensions ← extensions.enable? name
    let rest ← skip rest
    match rest with
    | ',' :: rest =>
      let rest ← skip rest
      match rest with
      | c :: _ => if isIdentChar c then enableNames extensions fuel rest else some (extensions, rest)
      | [] => some (extensions, rest)
    | _ => some (extensions, rest)

/-- Takes one attribute, whose first character is at the front of the text. -/
def attribute? (extensions : Extensions) (s : List Char) : Option (Extensions × List Char) := do
  let s ← mark? '#' s
  let s ← mark? '!' s
  let s ← mark? '[' s
  let s ← skip s
  let s ← after? "enable".toList s
  let s ← mark? '(' s
  let s ← skip s
  let (extensions, s) ← enableNames extensions s.length s
  let s ← mark? ')' s
  let s ← mark? ']' s
  some (extensions, s)

/-- Takes all attributes and the blanks behind them. The fuel bounds the number of characters. -/
def attributes? (extensions : Extensions) : (fuel : Nat) → Reader Extensions
  | 0, s => some (extensions, s)
  | fuel + 1, s =>
    match s with
    | '#' :: _ => do
      let (extensions, rest) ← attribute? extensions s
      let rest ← skip rest
      attributes? extensions fuel rest
    | _ => some (extensions, s)

/-! ## Items with commas between them -/

/-- Takes items up to a closing mark, with commas between them and perhaps one behind the last. The
fuel bounds the number of characters that are left. -/
def itemsFrom {α : Type} (item : Reader α) (closing : Char) : (fuel : Nat) → Reader (List α)
  | 0, _ => none
  | fuel + 1, s => do
    let s ← skip s
    match s with
    | [] => none
    | c :: rest =>
      if c == closing then some ([], rest)
      else
        let (value, rest) ← item s
        let rest ← skip rest
        match rest with
        | ',' :: rest =>
          let (values, rest) ← itemsFrom item closing fuel rest
          some (value :: values, rest)
        | _ =>
          let rest ← after? [closing] rest
          some ([value], rest)

/-- Takes the items of a list, a map or a record behind its opening mark. -/
def items? {α : Type} (item : Reader α) (closing : Char) : Reader (List α) := fun s =>
  itemsFrom item closing (s.length + 1) s

/-- Takes a key, a colon and the value of the key. -/
def keyed {α β : Type} (key : Reader α) (value : α → Reader β) : Reader (α × β) := fun s => do
  let (k, s) ← key s
  let s ← mark? ':' s
  let s ← skip s
  let (v, s) ← value k s
  some ((k, v), s)

/-! ## Values that are passed over -/

/-- Forgets what a reader took. -/
def forget {α : Type} (reader : Reader α) : Reader Unit := fun s =>
  (reader s).map fun (_, rest) => ((), rest)

/-- Takes an optional value, its content by `content`. -/
def option? {α : Type} (extensions : Extensions) (content : Reader α) : Reader (Option α) :=
  fun s =>
    match after? "None".toList s with
    | some rest => some (none, rest)
    | none => do
      match after? "Some".toList s with
      | some rest =>
        let rest ← skip rest
        match rest with
        | '(' :: rest =>
          let rest ← skip rest
          let (value, rest) ← content rest
          let rest ← skip rest
          let rest ← match rest with
            | ',' :: rest => skip rest
            | _ => some rest
          let rest ← after? [')'] rest
          some (some value, rest)
        | _ =>
          if extensions.implicitSome then (content rest).map fun (value, rest) => (some value, rest)
          else none
      | none =>
        if extensions.implicitSome then (content s).map fun (value, rest) => (some value, rest)
        else none

/-- Does a field with its name stand here, and not an item without one? -/
def startsField? (s : List Char) : Option Bool := do
  let s ← skip s
  match identifier? s with
  | none => some false
  | some (_, rest) =>
    let rest ← skip rest
    let c ← rest.head?
    some (c == ':')

/-- Passes over a number, a string or a character. -/
def skipLiteral : Reader Unit := fun s =>
  match s with
  | '"' :: _ => forget string? s
  | 'r' :: _ => forget string? s
  | '\'' :: _ => forget char? s
  | '.' :: _ => (skipDecimal? s).map fun rest => ((), rest)
  | c :: _ =>
    if isDigit c || c == '+' || c == '-' then (skipNumber? s).map fun rest => ((), rest) else none
  | [] => none

/-- The words that are values by themselves, whatever follows them. -/
def plainWords : List String :=
  ["true", "false", "None", "inf", "-inf", "NaN"]

/-- Passes over a value that holds no others: a literal, a name by itself, or the empty parentheses. -/
def skipPlain : Reader Unit := fun s =>
  if (word? "Some" s).isSome then none
  else
    match (plainWords.findSome? (word? · s)).or (after? ['(', ')'] s) with
    | some rest => some ((), rest)
    | none =>
      match identifier? s with
      | some (_, rest) => do
        let rest ← skip rest
        if rest.head? = some '(' then none else some ((), rest)
      | none => skipLiteral s

/-- Passes over items or fields in parentheses. -/
def skipParentheses (item : Reader Unit) : Reader Unit := fun s => do
  let s ← after? ['('] s
  if ← startsField? s then
    forget (items? (keyed identifier? fun _ => item) ')') s
  else
    forget (items? item ')') s

/-- Passes over brackets and the items in them. A name may stand before parentheses. -/
def skipBracketed (item : Reader Unit) : Reader Unit := fun s =>
  match identifier? s with
  | some (_, rest) => do
    let rest ← skip rest
    skipParentheses item rest
  | none =>
    match s with
    | '[' :: rest => forget (items? item ']') rest
    | '\x7b' :: rest => forget (items? (keyed item fun _ => item) '\x7d') rest
    | _ => skipParentheses item s

/-- Passes over any value; `room` is what is left of the nesting limit. The content of an optional value
takes one level of it, brackets take one, and the items in them one more. -/
def skipValue (extensions : Extensions) : (room : Nat) → Reader Unit
  | 0 => skipPlain
  | room + 1 => fun s =>
    let item : Reader Unit := match room with
      | 0 => fun _ => none
      | room + 1 => skipValue extensions room
    if (word? "Some" s).isSome then
      forget (option? extensions (skipValue extensions room)) s
    else (skipPlain s).or (skipBracketed item s)

/-! ## Values of a shape -/

/-- What follows the name of a record, if a name is written. It must be the declared one. -/
def recordName? (name : String) (s : List Char) : Option (List Char) :=
  match s with
  | c :: _ =>
    if isIdentChar c then
      match identifier? s with
      | some (found, rest) => if found = name then some rest else none
      | none => none
    else some s
  | [] => some s

/-- Are all fields there that may not be left out? -/
def complete (found : List (String × Value)) : Fields → Bool
  | .nil => true
  | .cons name presence _ rest =>
    (presence != .required || found.any (·.1 == name)) && complete found rest

/-- The fields that were taken, without those that were passed over. Fails if one was written twice or
a required one is missing. -/
def recordOf? (fields : Fields) (taken : List (String × Option Value)) : Option Value :=
  let found := taken.filterMap fun (name, value) => value.map (Prod.mk name)
  if (found.map Prod.fst).Nodup ∧ complete found fields = true then some (.record found) else none

mutual

/-- Takes a value of the given shape; `room` is what is left of the nesting limit. -/
def value? (extensions : Extensions) (room : Nat) : Shape → Reader Value
  | .bool => fun s =>
    match after? "true".toList s with
    | some rest => some (.bool true, rest)
    | none => (after? "false".toList s).map fun rest => (.bool false, rest)
  | .text => fun s => (string? s).map fun (text, rest) => (.text text, rest)
  | .word => fun s => do
    let (n, rest) ← natural? s
    if fitsWord n then some (.number n, rest) else none
  | .level => fun s => do
    let (n, rest) ← integer? s
    if fitsLevel n then some (.number n, rest) else none
  | .name choices => fun s => do
    let (name, rest) ← identifier? s
    if name ∈ choices then some (.name name, rest) else none
  | .optional inner => fun s =>
    (option? extensions (value? extensions (room - 1) inner) s).map fun (value, rest) =>
      (match value with
        | some value => .some value
        | none => .none, rest)
  | .list item => fun s => do
    let rest ← after? ['['] s
    let (values, rest) ← items? (value? extensions (room - 2) item) ']' rest
    some (.list values, rest)
  | .dict item => fun s => do
    let rest ← after? ['\x7b'] s
    let (entries, rest) ← items? (keyed string? fun _ => value? extensions (room - 2) item)
      '\x7d' rest
    some (.dict entries, rest)
  | .record name fields => fun s => do
    let s ← recordName? name s
    let rest ← mark? '(' s
    let (taken, rest) ← items? (keyed identifier? (field? extensions (room - 2) fields)) ')' rest
    let value ← recordOf? fields taken
    some (value, rest)

/-- Takes the value of the field with the given name, or passes over it if there is no such field. -/
def field? (extensions : Extensions) (room : Nat) : Fields → String → Reader (Option Value)
  | .nil, _ => fun s => (skipValue extensions room s).map fun (_, rest) => (none, rest)
  | .cons name _ shape rest, wanted =>
    if name = wanted then fun s =>
      (value? extensions room shape s).map fun (value, rest) => (some value, rest)
    else field? extensions room rest wanted

end

/-- Reads a text as a value of the given shape. -/
def read? (shape : Shape) (text : String) : Option Value := do
  let s ← skip text.toList
  let (extensions, s) ← attributes? {} s.length s
  let (value, rest) ← value? extensions nestingLimit shape s
  let rest ← skip rest
  if rest.isEmpty then some value else none

end Storyline.Ron
