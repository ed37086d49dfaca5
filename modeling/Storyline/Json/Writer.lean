-- SUMMARY: Writing data as an indented JSON text.
import Storyline.Data.Value
import Storyline.Text.Numeral

/-!
# Writing JSON

Lists and records are written with one item in each line, indented by two spaces for each level. Empty
ones take no line of their own.
-/

namespace Storyline.Json

open Data Text

/-- A character inside a JSON string. Only quotes, backslashes and control characters are escaped. -/
def escaped (c : Char) : List Char :=
  match c with
  | '"' => ['\\', '"']
  | '\\' => ['\\', '\\']
  | '\x08' => ['\\', 'b']
  | '\x0c' => ['\\', 'f']
  | '\n' => ['\\', 'n']
  | '\r' => ['\\', 'r']
  | '\t' => ['\\', 't']
  | _ => if c.toNat < 0x10 then "\\u000".toList ++ hex c.toNat
    else if c.toNat < 0x20 then "\\u00".toList ++ hex c.toNat
    else [c]

/-- The text as a JSON string. -/
def quoted (s : String) : List Char :=
  '"' :: s.toList.flatMap escaped ++ ['"']

/-- The beginning of a line at the given depth. -/
def newLine (depth : Nat) : List Char :=
  '\n' :: List.replicate (2 * depth) ' '

/-- Items between brackets, each in a line of its own. -/
def bracketed (opening closing : Char) (depth : Nat) (items : List (List Char)) : List Char :=
  match items with
  | [] => [opening, closing]
  | _ =>
    opening :: [','].intercalate (items.map (newLine (depth + 1) ++ ·)) ++ newLine depth ++ [closing]

mutual

/-- The text of a value, where lines begin at the given depth. -/
def write (depth : Nat) : Value → List Char
  | .bool b => (if b then "true" else "false").toList
  | .text s => quoted s
  | .number n => (toString n).toList
  | .name s => quoted s
  | .none => "null".toList
  | .some inner => write depth inner
  | .list items => bracketed '[' ']' depth (writeItems (depth + 1) items)
  | .dict entries => bracketed '\x7b' '\x7d' depth (writeMembers (depth + 1) entries)
  | .record fields => bracketed '\x7b' '\x7d' depth (writeMembers (depth + 1) fields)

/-- The texts of the items of a list. -/
def writeItems (depth : Nat) : List Value → List (List Char)
  | [] => []
  | item :: rest => write depth item :: writeItems depth rest

/-- The texts of the members of an object. -/
def writeMembers (depth : Nat) : List (String × Value) → List (List Char)
  | [] => []
  | (key, value) :: rest =>
    (quoted key ++ [':', ' '] ++ write depth value) :: writeMembers depth rest

end

/-- The text of a value. -/
def pretty (value : Value) : String :=
  String.ofList (write 0 value)

end Storyline.Json
