-- SUMMARY: Two documents in a row are read as what each of them is read as.
import Storyline.Proofs.Script.Numbering

/-!
# Concatenated documents

A document is cut at its headers, and how a section is read depends on its own lines. So a document that opens
with a section can be put behind any other one whose last line has ended: the lists of its nodes win, and its
reports come behind those of the first, with the numbers of its lines in the whole. Only what is reported of
repeated nodes depends on all sections at once; there is a report for every section of a node but the first.
-/

namespace Storyline

open Text

/-- Does the anomaly report a node that has several sections? -/
def Anomaly.isRepetition : Anomaly → Bool
  | duplicateNode _ => true
  | _ => false

namespace Script

variable {config : ScriptConfig}

/-! ## Documents that open with a section -/

/-- Does a text open with a section? In front of its header it has only lines that are skipped. -/
def OpensSection (text : List Char) : Prop :=
  ∀ line ∈ ((Text.lines text).map trim).find? (lineKind · ≠ .skipped), (heading? line).isSome = true

instance (text : List Char) : Decidable (OpensSection text) :=
  decidable_of_iff
    ((((Text.lines text).map trim).find? (lineKind · ≠ .skipped)).all (heading? · |>.isSome) = true)
    (Option.all_eq_true _ _)

theorem sections_fst_eq_nil {lines : List NumberedLine}
    (h : ∀ line ∈ (lines.map (·.text)).find? (lineKind · ≠ .skipped), (heading? line).isSome = true) :
    (sections lines).1 = [] := by
  induction lines with
  | nil => rfl
  | cons line rest ih =>
    rw [List.map_cons] at h
    rw [sections]
    cases hkind : lineKind line.text with
    | header id => rfl
    | skipped =>
      rw [List.find?_cons_of_neg (by simp [hkind])] at h
      exact ih h
    | body =>
      rw [List.find?_cons_of_pos (by simp [hkind])] at h
      have hsome := h _ rfl
      rw [heading?, hkind] at hsome
      cases hsome

theorem OpensSection.front_eq_nil {text : List Char} (h : OpensSection text) :
    (sections (numberedLines text)).1 = [] := by
  apply sections_fst_eq_nil
  rwa [map_text_numberedLines]

theorem sections_concatenated {front behind : List Char} (hfront : LinesEnded front)
    (hbehind : OpensSection behind) :
    sections (numberedLines (front ++ behind)) =
      ((sections (numberedLines front)).1, (sections (numberedLines front)).2 ++
        (sections (numberedLines behind)).2.map (·.further (Text.lines front).length)) := by
  have hmoved := sections_map (NumberedLine.text_further (Text.lines front).length)
    (numberedLines behind)
  rw [hbehind.front_eq_nil] at hmoved
  rw [numberedLines_append hfront, sections_append (by rw [hmoved]; rfl), hmoved]
  rfl

/-! ## Adding sections in a row -/

theorem addSections_append (script : Script) (front behind : List Section) :
    addSections config script (front ++ behind) =
      let (middle, faults) := addSections config script front
      let (last, later) := addSections config middle behind
      (last, faults ++ later) := by
  induction front generalizing script with
  | nil => rfl
  | cons part rest ih =>
    rw [List.cons_append, addSections_cons, addSections_cons]
    dsimp only
    rw [ih]
    simp only [List.append_assoc]

/-- The lists that are added win over those that are there. -/
theorem get?_addSections (script : Script) (parts : List Section) (id : NodeId) :
    (addSections config script parts).1.get? id =
      ((addSections config .empty parts).1.get? id).or (script.get? id) := by
  rw [addSections_fst, addSections_fst, SortedMap.get?_insert_entries, SortedMap.get?_insert_entries,
    SortedMap.get?_empty, Option.or_none]

/-! ## Repeated nodes -/

/-- The reports that are not about repeated nodes. -/
def besidesRepetitions (faults : List Anomaly) : List Anomaly :=
  faults.filter (!·.isRepetition)

theorem besidesRepetitions_append (front behind : List Anomaly) :
    besidesRepetitions (front ++ behind) =
      besidesRepetitions front ++ besidesRepetitions behind :=
  List.filter_append ..

theorem isRepetition_further (count : Nat) (fault : Anomaly) :
    (fault.further count).isRepetition = fault.isRepetition := by
  cases fault <;> rfl

theorem besidesRepetitions_further (count : Nat) (faults : List Anomaly) :
    besidesRepetitions (faults.map (·.further count)) =
      (besidesRepetitions faults).map (·.further count) := by
  unfold besidesRepetitions
  rw [List.filter_map]
  simp only [Function.comp_def, isRepetition_further]

/-- In the body of a node nothing is known of other sections. -/
theorem isRepetition_readBody (node : NodeId) (body : List NumberedLine) :
    ∀ fault ∈ (readBody config node body).2, fault.isRepetition = false := by
  intro fault hfault
  rcases List.mem_append.1 hfault with hfault | hfault
  · obtain ⟨line, -, rfl⟩ := List.mem_map.1 hfault
    rfl
  · obtain ⟨cause, -, rfl⟩ := List.mem_map.1 hfault
    rfl

/-- Apart from repetitions, the reports are those of the bodies. -/
theorem besidesRepetitions_addSections (script : Script) (parts : List Section) :
    besidesRepetitions (addSections config script parts).2 =
      parts.flatMap fun part => (readBody config part.id part.lines).2 := by
  induction parts generalizing script with
  | nil => rfl
  | cons part rest ih =>
    have hrepetition : besidesRepetitions (repetition script part.id) = [] := by
      unfold repetition
      split <;> rfl
    have hbody : besidesRepetitions (readBody config part.id part.lines).2 =
        (readBody config part.id part.lines).2 := by
      apply List.filter_eq_self.2
      simpa using isRepetition_readBody part.id part.lines
    rw [addSections_cons]
    dsimp only
    rw [besidesRepetitions_append, besidesRepetitions_append, hrepetition, hbody, ih,
      List.nil_append, List.flatMap_cons]

/-- A node is reported once for each of its sections, but not for the first one in a script that has no list
for it. -/
theorem count_addSections (script : Script) (parts : List Section) (id : NodeId) :
    (addSections config script parts).2.count (.duplicateNode id) =
      (parts.map (·.id)).count id - if script.contains id then 0 else 1 := by
  induction parts generalizing script with
  | nil => exact (Nat.zero_sub _).symm
  | cons part rest ih =>
    have hbody : (readBody config part.id part.lines).2.count (.duplicateNode id) = 0 := by
      rw [List.count_eq_zero]
      intro hmem
      cases isRepetition_readBody part.id part.lines _ hmem
    rw [addSections_cons]
    dsimp only
    rw [List.count_append, List.count_append, hbody, ih, Nat.add_zero, List.map_cons]
    by_cases hid : part.id = id
    · subst hid
      have hadded (list : List Instruction) : (script.insert part.id list).contains part.id = true := by
        rw [SortedMap.contains, SortedMap.get?_insert, if_pos rfl]
        rfl
      rw [hadded, List.count_cons_self, repetition]
      cases script.contains part.id with
      | false => exact Nat.zero_add _
      | true =>
        rw [if_pos rfl, if_pos rfl, List.count_singleton_self, Nat.sub_zero, Nat.sub_zero, Nat.add_comm]
    · have hother (list : List Instruction) :
          (script.insert part.id list).contains id = script.contains id := by
        rw [SortedMap.contains, SortedMap.get?_insert, if_neg (Ne.symm hid)]
        rfl
      have hrepetition : (repetition script part.id).count (.duplicateNode id) = 0 := by
        unfold repetition
        split
        · rw [List.count_singleton, if_neg (by simpa using hid)]
        · rfl
      rw [hother, hrepetition, List.count_cons_of_ne hid, Nat.zero_add]

/-! ## Documents -/

theorem count_parse (config : ScriptConfig) (document : String) (id : NodeId) :
    (parse config document).2.count (.duplicateNode id) = (headings document.toList).count id - 1 := by
  have hfront : ((sections (numberedLines document.toList)).1.map fun line =>
      Anomaly.lineOutsideNode line.number (String.ofList line.text)).count (.duplicateNode id) = 0 := by
    rw [List.count_eq_zero]
    intro hmem
    obtain ⟨line, -, hline⟩ := List.mem_map.1 hmem
    cases hline
  rw [parse, ofDocument]
  dsimp only
  rw [List.count_append, hfront, Nat.zero_add, count_addSections, map_id_sections_numberedLines]
  rfl

/-- A document that opens with a section can be put behind another one whose lines have all ended. Then the lists
of its nodes count, and the other nodes have the lists of the first document; the reports are those of the one
and then, with their numbers of lines in the whole, those of the other. In every document, repeated nodes are
reported apart from this: once for each section of a node after the first. -/
theorem parse_concatenated (config : ScriptConfig) :
    (∀ front behind : String, LinesEnded front.toList → OpensSection behind.toList →
      let whole := parse config (front ++ behind)
      let first := parse config front
      let second := parse config behind
      (∀ id, whole.1.get? id = (second.1.get? id).or (first.1.get? id)) ∧
        besidesRepetitions whole.2 = besidesRepetitions first.2 ++
          (besidesRepetitions second.2).map (·.further (Text.lines front.toList).length)) ∧
    ∀ (document : String) (id : NodeId),
      (parse config document).2.count (.duplicateNode id) =
        (headings document.toList).count id - 1 := by
  refine ⟨?_, count_parse config⟩
  intro front behind hfront hbehind
  simp only [parse, ofDocument, String.toList_append, sections_concatenated hfront hbehind,
    addSections_append, addSections_further, hbehind.front_eq_nil]
  constructor
  · exact get?_addSections _ _
  · rw [List.map_nil, List.nil_append, ← List.append_assoc, besidesRepetitions_append,
      besidesRepetitions_further, besidesRepetitions_addSections, besidesRepetitions_addSections]

/-- The second document tells of the inn again, behind a line that is skipped, and leaves nothing of what was
told before. -/
theorem parse_concatenated_of_inn :
    let front := "Dusk\n=== Node: inn ===\n<scene>Bar</scene>\n??\r\n"
    let behind := "=== End ===\n=== Node: inn ===\n[ENDIF]\n!!"
    let whole := parse {} (front ++ behind)
    LinesEnded front.toList ∧ OpensSection behind.toList ∧ whole.1.get? "inn" = some [] ∧
      besidesRepetitions whole.2 = [.lineOutsideNode 1 "Dusk", .unrecognizedLine "inn" 4 "??",
        .unrecognizedLine "inn" 8 "!!", .unbalanced "inn" .endIfOutsideIf] ∧
      whole.2.count (.duplicateNode "inn") = 1 := by
  intro front behind whole
  have hfront : LinesEnded front.toList := by decide +kernel
  have hbehind : OpensSection behind.toList := by decide +kernel
  obtain ⟨hconcatenated, hrepeated⟩ := parse_concatenated {}
  obtain ⟨hlists, hfaults⟩ := hconcatenated front behind hfront hbehind
  refine ⟨hfront, hbehind, (hlists "inn").trans ?_, hfaults.trans ?_,
    (hrepeated (front ++ behind) "inn").trans ?_⟩
  all_goals decide +kernel

end Script

end Storyline
