-- SUMMARY: Lines that stand further down in a document are read alike and reported by their new numbers.
import Storyline.Proofs.Script.Document

/-!
# Line numbers

Where lines are put in front of others, these move down. What is read from them stays the same, for numbers are
there for reports only, and every report about a line names the place to which it has moved.
-/

namespace Storyline

open Text

/-! ## Moving down -/

/-- The report when the line that it is about has moved down. -/
def Anomaly.further (count : Nat) : Anomaly → Anomaly
  | unrecognizedLine node number line => unrecognizedLine node (number + count) line
  | lineOutsideNode number line => lineOutsideNode (number + count) line
  | other => other

namespace Script

variable {config : ScriptConfig} {front line : List Char}

/-- The line when so many lines are put in front of it. -/
def NumberedLine.further (count : Nat) (line : NumberedLine) : NumberedLine :=
  { line with number := line.number + count }

/-- The section when so many lines are put in front of it. -/
def Section.further (count : Nat) (part : Section) : Section :=
  { part with lines := part.lines.map (·.further count) }

theorem NumberedLine.text_further (count : Nat) (line : NumberedLine) :
    (line.further count).text = line.text := rfl

theorem Section.id_further (count : Nat) (part : Section) : (part.further count).id = part.id := rfl

theorem Section.lines_further (count : Nat) (part : Section) :
    (part.further count).lines = part.lines.map (·.further count) := rfl

theorem numberedLines_append (h : LinesEnded front) (behind : List Char) :
    numberedLines (front ++ behind) =
      numberedLines front ++ (numberedLines behind).map (·.further (Text.lines front).length) := by
  unfold numberedLines
  rw [lines_append h, List.map_append, List.zipIdx_append, List.map_append, List.length_map,
    Nat.add_comm, ← List.map_snd_add_zipIdx_eq_zipIdx, List.map_map, List.map_map]
  rfl

theorem numberedLines_line_append (h : '\n' ∉ line) (behind : List Char) :
    numberedLines (line ++ '\n' :: behind) =
      ⟨1, trim line⟩ :: (numberedLines behind).map (·.further 1) := by
  have hended : LinesEnded (line ++ ['\n']) := .inr List.getLast?_concat
  have hline : Text.lines (line ++ ['\n']) = [chomp line] := lines_line_append line [] h
  have hnumber : numberedLines (line ++ ['\n']) = [⟨1, trim line⟩] := by
    rw [numberedLines, hline, List.map_singleton, trim_chomp]
    rfl
  rw [List.append_cons, numberedLines_append hended, hnumber, hline]
  rfl

/-! ## Reading lines that have moved -/

/-- Faults of conditions name no line. -/
theorem map_further_unbalanced (count : Nat) (node : NodeId) (causes : List Imbalance) :
    (causes.map (Anomaly.unbalanced node)).map (·.further count) = causes.map (.unbalanced node) :=
  List.map_map

theorem readBody_further (count : Nat) (node : NodeId) (body : List NumberedLine) :
    readBody config node (body.map (·.further count)) =
      ((readBody config node body).1, (readBody config node body).2.map (·.further count)) := by
  unfold readBody
  rw [readLines_map (NumberedLine.text_further count)]
  dsimp only
  rw [List.map_append, map_further_unbalanced, List.map_map, List.map_map]
  rfl

/-- The report of a section whose node has another one before it. -/
def repetition (script : Script) (id : NodeId) : List Anomaly :=
  if script.contains id then [.duplicateNode id] else []

theorem addSections_nil (script : Script) : addSections config script [] = (script, []) := rfl

theorem addSections_cons (script : Script) (part : Section) (rest : List Section) :
    addSections config script (part :: rest) =
      let (list, faults) := readBody config part.id part.lines
      let (script', later) := addSections config (script.insert part.id list) rest
      (script', repetition script part.id ++ faults ++ later) := rfl

theorem map_further_repetition (count : Nat) (script : Script) (id : NodeId) :
    (repetition script id).map (·.further count) = repetition script id := by
  unfold repetition
  split <;> rfl

theorem addSections_further (count : Nat) (script : Script) (parts : List Section) :
    addSections config script (parts.map (·.further count)) =
      ((addSections config script parts).1,
        (addSections config script parts).2.map (·.further count)) := by
  induction parts generalizing script with
  | nil => rfl
  | cons part rest ih =>
    rw [List.map_cons, addSections_cons, addSections_cons, Section.lines_further, readBody_further,
      Section.id_further]
    dsimp only
    rw [ih, List.map_append, List.map_append, map_further_repetition]

end Script

end Storyline
