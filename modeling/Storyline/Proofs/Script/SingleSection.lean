-- SUMMARY: A document of one section is read as the body of its node.
import Storyline.Proofs.Script.Numbering
import Storyline.Proofs.Script.Written

/-!
# Single sections

A document is read section by section, and a body is read for a node that is given. Where a document is nothing
but the header of a node and a body without headers, both come to the same; and a body may have the header of
its own node in front of it. Only the reports name their lines by one number more where the header is there.
-/

namespace Storyline

open Text

namespace Script

variable {config : ScriptConfig} {id : NodeId} {body : String}

/-- The document of one section. -/
def headed (id : NodeId) (body : String) : String :=
  Compose.header id ++ "\n" ++ body

theorem numberedLines_headed (hid : IsHeading id) (body : String) :
    numberedLines (headed id body).toList =
      ⟨1, (Compose.header id).toList⟩ :: (numberedLines body.toList).map (·.further 1) := by
  have hline := isLine_header hid
  have htext : (headed id body).toList = (Compose.header id).toList ++ '\n' :: body.toList := by
    rw [headed, String.toList_append, String.toList_append, List.append_assoc]
    rfl
  rw [htext, numberedLines_line_append hline.oneLine, trim_of_trimmed hline.trimmed]

theorem sections_headed (hid : IsHeading id) (hbody : HeaderFree body) :
    sections (numberedLines (headed id body).toList) =
      ([], [Section.further 1 ⟨id, (numberedLines body.toList).filter inBody⟩]) := by
  have hlines : sections ((numberedLines body.toList).map (·.further 1)) =
      (((numberedLines body.toList).filter inBody).map (·.further 1), []) := by
    rw [sections_map (NumberedLine.text_further 1), sections_of_no_header hbody.lineKind_ne]
    rfl
  have hfirst : lineKind (NumberedLine.mk 1 (Compose.header id).toList).text = .header id :=
    lineKind_header hid
  rw [numberedLines_headed hid, sections_header hfirst, hlines]
  rfl

theorem bodyLines_headed (hid : IsHeading id) (hbody : HeaderFree body) :
    bodyLines id (numberedLines (headed id body).toList) =
      (((numberedLines body.toList).filter inBody).map (·.further 1), []) := by
  have hlines : bodyLines id ((numberedLines body.toList).map (·.further 1)) =
      (((numberedLines body.toList).filter inBody).map (·.further 1), []) := by
    rw [bodyLines_map (NumberedLine.text_further 1), bodyLines_of_no_header id hbody.lineKind_ne]
    rfl
  rw [numberedLines_headed hid, bodyLines, hlines, lineKind_header hid]
  exact if_pos rfl

/-- The script of one section has nothing else. -/
theorem addSections_single (part : Section) :
    addSections config .empty [part] =
      (.ofList [(part.id, (readBody config part.id part.lines).1)],
        (readBody config part.id part.lines).2) := by
  have hfirst : repetition .empty part.id = [] := rfl
  rw [addSections_cons]
  dsimp only
  rw [addSections_nil, hfirst, List.nil_append, List.append_nil]
  rfl

theorem parse_headed (config : ScriptConfig) (hid : IsHeading id) (hbody : HeaderFree body) :
    parse config (headed id body) =
      (.ofList [(id, (parseBody config id body).1)],
        (parseBody config id body).2.map (·.further 1)) := by
  simp only [parse, ofDocument, sections_headed hid hbody, addSections_single, Section.id_further,
    Section.lines_further, readBody_further, parseBody_eq hbody, List.map_nil, List.nil_append]

theorem parseBody_headed (config : ScriptConfig) (hid : IsHeading id) (hbody : HeaderFree body) :
    parseBody config id (headed id body) =
      ((parseBody config id body).1, (parseBody config id body).2.map (·.further 1)) := by
  rw [parseBody_eq hbody]
  simp only [parseBody, bodyLines_headed hid hbody, readBody_further, List.map_nil, List.nil_append]

/-- A body without headers is read alike in three ways: for its node, with the header of the node in front of
it, and as a document with this header, whose script then has the list of that node and no other. The reports
are the same, with numbers of lines that are one higher behind the header. -/
theorem single_section_read_alike (config : ScriptConfig) {id : NodeId} {body : String}
    (hid : IsHeading id) (hbody : HeaderFree body) :
    let document := Compose.header id ++ "\n" ++ body
    let list := (parseBody config id body).1
    let faults := (parseBody config id body).2
    parse config document = (.ofList [(id, list)], faults.map (·.further 1)) ∧
      parseBody config id document = (list, faults.map (·.further 1)) :=
  ⟨parse_headed config hid hbody, parseBody_headed config hid hbody⟩

/-- The name of the gate begins like a header, and its body ends inside of a condition. -/
theorem single_section_read_alike_of_gate :
    let id := "=gate"
    let body := "1. Stay\r\n=== End ===\r\n\n[IF: guard >= 2]\nMio: Halt!"
    let document := Compose.header id ++ "\n" ++ body
    let list := [.ifLevel "guard" 2, .dialogue "Mio" "Halt!", .endIf]
    let faults := [.unrecognizedLine id 2 "1. Stay", .unbalanced id .ifNotClosed]
    IsHeading id ∧ HeaderFree body ∧
      parseBody {} id body =
        (list, [.unrecognizedLine id 1 "1. Stay", .unbalanced id .ifNotClosed]) ∧
      parse {} document = (.ofList [(id, list)], faults) ∧ parseBody {} id document = (list, faults) := by
  intro id body document list faults
  have hid : IsHeading id := by decide
  have hbody : HeaderFree body := by decide +kernel
  have halone : parseBody {} id body =
      (list, [.unrecognizedLine id 1 "1. Stay", .unbalanced id .ifNotClosed]) := by decide +kernel
  obtain ⟨hdocument, hheaded⟩ := single_section_read_alike {} hid hbody
  rw [halone] at hdocument hheaded
  exact ⟨hid, hbody, halone, hdocument, hheaded⟩

end Script

end Storyline
