-- SUMMARY: Writing data as an indented RON text.
import Storyline.Data.Value
import Storyline.Text.Escaped

/-!
# Writing RON

Records and lists are written with one item in each line and a comma behind each item, indented by four
spaces for each level. Records have no names; empty lists take no line of their own.
-/

namespace Storyline.Ron

open Data Text

/-- The beginning of a line at the given depth. -/
def lineStart (depth : Nat) : List Char :=
  List.replicate (4 * depth) ' '

/-- Items between brackets, each in a line of its own. -/
def bracketed (opening closing : Char) (depth : Nat) (items : List (List Char)) : List Char :=
  match items with
  | [] => [opening, closing]
  | _ =>
    opening :: '\n' :: items.flatMap (fun item => lineStart (depth + 1) ++ item ++ [',', '\n'])
      ++ lineStart depth ++ [closing]

mutual

/-- The text of a value, where lines begin at the given depth. -/
def write (depth : Nat) : Value → List Char
  | .bool b => (if b then "true" else "false").toList
  | .text s => (quoted true s).toList
  | .number n => (toString n).toList
  | .name s => s.toList
  | .none => "None".toList
  | .some inner => "Some(".toList ++ write depth inner ++ [')']
  | .list items => bracketed '[' ']' depth (writeItems (depth + 1) items)
  | .dict entries => bracketed '\x7b' '\x7d' depth (writeEntries (depth + 1) entries)
  | .record fields => bracketed '(' ')' depth (writeFields (depth + 1) fields)

/-- The texts of the items of a list. -/
def writeItems (depth : Nat) : List Value → List (List Char)
  | [] => []
  | item :: rest => write depth item :: writeItems depth rest

/-- The texts of the entries of a map. -/
def writeEntries (depth : Nat) : List (String × Value) → List (List Char)
  | [] => []
  | (key, value) :: rest =>
    ((quoted true key).toList ++ [':', ' '] ++ write depth value) :: writeEntries depth rest

/-- The texts of the fields of a record. -/
def writeFields (depth : Nat) : List (String × Value) → List (List Char)
  | [] => []
  | (name, value) :: rest =>
    (name.toList ++ [':', ' '] ++ write depth value) :: writeFields depth rest

end

/-- The text of a value. -/
def pretty (value : Value) : String :=
  String.ofList (write 0 value)

end Storyline.Ron
