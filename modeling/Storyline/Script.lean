-- SUMMARY: Scripts, and reading them from a document.
import Storyline.Anomaly
import Storyline.Script.Balance
import Storyline.Script.Line
import Storyline.Script.Rule
import Storyline.SortedMap

/-!
# Scripts

A script gives nodes their lists of instructions. It is written as a document of sections, one for each
node; reading it never fails. A line that no rule reads is left out and reported, and so is a line
outside of all sections. Where a node has several sections the last one counts.
-/

namespace Storyline

/-- The lists of instructions of the scripted nodes. -/
abbrev Script := SortedMap (List Instruction)

namespace Script

/-- Reads a line by the first rule that fits. -/
def readLine? (config : ScriptConfig) (nextOffer : Nat) (line : List Char) : Option Instruction :=
  LineRule.precedence.findSome? (·.read? config nextOffer line)

/-- Reads the lines of a body up to balancing; what no rule reads comes second. `count` is the number of
offers that stand together just before, and `inMenu` tells whether they began with the marker of a menu,
so that a numbered offer may follow. -/
def readLines (config : ScriptConfig) : (count : Nat) → (inMenu : Bool) → List NumberedLine →
    List Instruction × List NumberedLine
  | _, _, [] => ([], [])
  | count, inMenu, line :: rest =>
    let offer? :=
      if inMenu then (numberedOffer? line.text).or (taggedOffer? (count + 1) line.text) else none
    match offer? with
    | some offer =>
      let (list, lost) := readLines config (count + 1) true rest
      (offer :: list, lost)
    | none =>
      match readLine? config (count + 1) line.text with
      | some .openMenu =>
        let (list, lost) := readLines config 0 true rest
        (.openMenu :: list, lost)
      | some (.offer index text target) =>
        let (list, lost) := readLines config (count + 1) false rest
        (.offer index text target :: list, lost)
      | some instruction =>
        let (list, lost) := readLines config 0 false rest
        (instruction :: list, lost)
      | none =>
        let (list, lost) := readLines config count false rest
        (list, line :: lost)

/-- The report of a line of a node that no rule reads. -/
def lostLine (node : NodeId) (line : NumberedLine) : Anomaly :=
  .unrecognizedLine node line.number (String.ofList line.text)

/-- The list of a node whose section has these lines, and what is wrong with them. -/
def readBody (config : ScriptConfig) (node : NodeId) (body : List NumberedLine) :
    List Instruction × List Anomaly :=
  let (raw, lost) := readLines config 0 false body
  let (list, faults) := balance raw
  (list, lost.map (lostLine node) ++ faults.map (.unbalanced node))

/-- Adds the sections of a document to a script, first one first. -/
def addSections (config : ScriptConfig) : Script → List Section → Script × List Anomaly
  | script, [] => (script, [])
  | script, part :: rest =>
    let repeated := if script.contains part.id then [Anomaly.duplicateNode part.id] else []
    let (list, faults) := readBody config part.id part.lines
    let (script, later) := addSections config (script.insert part.id list) rest
    (script, repeated ++ faults ++ later)

/-- Reads a document. -/
def ofDocument (config : ScriptConfig) (document : List Char) : Script × List Anomaly :=
  let (front, parts) := sections (numberedLines document)
  let (script, faults) := addSections config .empty parts
  (script, front.map (fun line => .lineOutsideNode line.number (String.ofList line.text)) ++ faults)

/-- Reads a document given as a string. -/
def parse (config : ScriptConfig) (document : String) : Script × List Anomaly :=
  ofDocument config document.toList

/-- The lines of the body of one node. Its own header may stand in it; the header of another node is no
part of the body. -/
def bodyLines (node : NodeId) : List NumberedLine → List NumberedLine × List NumberedLine
  | [] => ([], [])
  | line :: rest =>
    let (body, foreign) := bodyLines node rest
    match lineKind line.text with
    | .skipped => (body, foreign)
    | .header id => if id = node then (body, foreign) else (body, line :: foreign)
    | .body => (line :: body, foreign)

/-- Reads the body of one node. -/
def parseBody (config : ScriptConfig) (node : NodeId) (text : String) :
    List Instruction × List Anomaly :=
  let (body, foreign) := bodyLines node (numberedLines text.toList)
  let (list, faults) := readBody config node body
  (list, foreign.map (lostLine node) ++ faults)

end Script

end Storyline
