-- SUMMARY: The three kinds of lines in a script document: headers, body lines and lines to skip.
import Storyline.Story
import Storyline.Text.Blank
import Storyline.Text.Lines
import Storyline.Text.Piece
import Storyline.Text.WordChar

/-!
# Lines of a document

A header line `=== Node: id ===` opens the section of a node. Blank lines and end markers
(`=== End ===`) are skipped. Every other line belongs to a section's body. Lines are trimmed before
they are looked at.
-/

namespace Storyline.Script

open Text

/-- What a trimmed line of a document is. -/
inductive LineKind where
  | skipped
  | header (id : NodeId)
  | body
  deriving DecidableEq

/-- Is the line an end marker: `===`, blanks, and the word `end` in any case? -/
def isEndMarker (line : List Char) : Bool :=
  match (after? ['=', '=', '='] line).bind fun rest => afterCaseless? "end".toList (trimLeft rest) with
  | some [] => true
  | some (c :: _) => !isWordChar c
  | none => false

/-- The shortest beginning of `s` that is not empty and that `===` follows, after any blanks. -/
def beforeRule? : List Char → Option (List Char)
  | [] => none
  | c :: rest =>
    if (after? ['=', '=', '='] (trimLeft rest)).isSome then some [c]
    else (beforeRule? rest).map (c :: ·)

/-- The node that a header line names. A header may go on behind its second `===`. Its name is empty if
only blanks stand between the colon and the `===`. -/
def header? (line : List Char) : Option NodeId := do
  let rest ← after? ['=', '=', '='] line
  let rest ← afterCaseless? "node:".toList (trimLeft rest)
  let inner := trimLeft rest
  match beforeRule? inner with
  | some id => some (String.ofList (trim id))
  | none =>
    if inner.length < rest.length && (after? ['=', '=', '='] inner).isSome then some "" else none

/-- The kind of a trimmed line. -/
def lineKind (line : List Char) : LineKind :=
  if line.isEmpty || isEndMarker line then .skipped
  else
    match header? line with
    | some id => .header id
    | none => .body

/-- A line with its number in the document, counted from one. -/
structure NumberedLine where
  number : Nat
  text : List Char
  deriving DecidableEq

/-- The trimmed lines of a document with their numbers. -/
def numberedLines (document : List Char) : List NumberedLine :=
  ((lines document).map trim).zipIdx 1 |>.map fun (text, number) => ⟨number, text⟩

/-- The part of a document from one header to the next. -/
structure Section where
  id : NodeId
  lines : List NumberedLine

/-- Cuts a document into the lines before the first header and the sections. -/
def sections : List NumberedLine → List NumberedLine × List Section
  | [] => ([], [])
  | line :: rest =>
    let (front, later) := sections rest
    match lineKind line.text with
    | .skipped => (front, later)
    | .header id => ([], ⟨id, front⟩ :: later)
    | .body => (line :: front, later)

end Storyline.Script
