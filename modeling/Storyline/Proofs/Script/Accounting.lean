-- SUMMARY: Every line of a document is read, reported, or blank, an end marker or a header.
import Storyline.Proofs.Playback.Finite
import Storyline.Proofs.Script.Concatenated
import Storyline.Proofs.Script.Reading

/-!
# Lines are accounted for

A line holds content if it is neither blank nor an end marker nor a header. Such a line stands before the first
header and is reported, or it is a line of a section; a line of a section is read as one instruction, or it is
lost and reported. Balancing drops and adds markers, each with its report. So the lines with content can be
counted from the script and the reports, and every report of a line names the place where the line stands.

Main statement: `lines_accounted_for`.
-/

namespace Storyline

open Text

/-! ## What anomalies report -/

namespace Imbalance

/-- Is it mended by dropping a marker? -/
def isDropped : Imbalance → Bool
  | secondElse => true
  | elseOutsideIf => true
  | endIfOutsideIf => true
  | _ => false

/-- Is it mended by adding an `endIf` at the end? -/
def isAdded : Imbalance → Bool
  | ifNotClosed => true
  | _ => false

end Imbalance

namespace Anomaly

/-- Does the anomaly report a line in front of all sections? -/
def isOutside : Anomaly → Bool
  | lineOutsideNode _ _ => true
  | _ => false

/-- Does the anomaly report a line that no rule reads? -/
def isUnrecognized : Anomaly → Bool
  | unrecognizedLine _ _ _ => true
  | _ => false

/-- Does the anomaly report a marker that was dropped? -/
def isDropped : Anomaly → Bool
  | unbalanced _ cause => cause.isDropped
  | _ => false

/-- Does the anomaly report an `endIf` that was added? -/
def isAdded : Anomaly → Bool
  | unbalanced _ cause => cause.isAdded
  | _ => false

end Anomaly

namespace Script

variable {config : ScriptConfig} {lines : List NumberedLine} {line : NumberedLine}

/-! ## Balancing -/

theorem Misfit.isDropped {instruction : Instruction} {cause : Imbalance} (h : Misfit instruction cause) :
    cause.isDropped = true ∧ cause.isAdded = false := by
  cases h <;> exact ⟨rfl, rfl⟩

theorem Mends.isDropped {front list kept : List Instruction} {causes : List Imbalance}
    (h : Mends front list kept causes) :
    ∀ cause ∈ causes, cause.isDropped = true ∧ cause.isAdded = false := by
  induction h with
  | nil => exact List.forall_mem_nil _
  | keep _ _ ih => exact ih
  | drop _ hmisfit _ ih => exact List.forall_mem_cons.2 ⟨hmisfit.isDropped, ih⟩

/-- What balancing drops and adds can be counted from its reports. -/
theorem length_balance (list : List Instruction) :
    list.length + (balance list).2.countP (·.isAdded) =
      (balance list).1.length + (balance list).2.countP (·.isDropped) := by
  obtain ⟨kept, dropped, added, hmends, -, hlength, hresult, hcauses⟩ := (mended_balance list).repair
  have hdropped : dropped.countP (·.isDropped) = dropped.length :=
    List.countP_eq_length.2 fun cause hcause => (hmends.isDropped cause hcause).1
  have hkept : dropped.countP (·.isAdded) = 0 :=
    List.countP_eq_zero.2 fun cause hcause => ne_true_of_eq_false (hmends.isDropped cause hcause).2
  rw [hresult, hcauses, List.countP_append, List.countP_append, hdropped, hkept, List.length_append,
    List.length_replicate, List.countP_replicate, List.countP_replicate]
  simp only [Imbalance.isAdded, Imbalance.isDropped, if_true, Bool.false_eq_true, if_false]
  omega

/-! ## Bodies -/

/-- Every line of a body is read as one instruction or lost. -/
theorem length_readFrom (config : ScriptConfig) (cursor : Cursor) (lines : List NumberedLine) :
    (readFrom config cursor lines).1.length + (readFrom config cursor lines).2.length = lines.length := by
  induction lines generalizing cursor with
  | nil => rfl
  | cons line rest ih =>
    cases hread : cursor.read? config line.text with
    | some instruction =>
      rw [readFrom_of_read hread, List.length_cons, List.length_cons, ← ih (cursor.past instruction)]
      exact Nat.add_right_comm _ _ _
    | none =>
      rw [readFrom_of_lost hread, List.length_cons, List.length_cons, ← ih ⟨cursor.count, false⟩]
      rfl

theorem mem_of_mem_lost (cursor : Cursor) (h : line ∈ (readFrom config cursor lines).2) :
    line ∈ lines := by
  induction lines generalizing cursor with
  | nil => cases h
  | cons first rest ih =>
    cases hread : cursor.read? config first.text with
    | some instruction =>
      rw [readFrom_of_read hread] at h
      exact List.mem_cons_of_mem first (ih _ h)
    | none =>
      rw [readFrom_of_lost hread] at h
      rcases List.mem_cons.1 h with rfl | hrest
      · exact List.mem_cons_self
      · exact List.mem_cons_of_mem first (ih _ hrest)

/-- The reports of a body: its lost lines, then what was mended. -/
theorem readBody_snd (config : ScriptConfig) (node : NodeId) (lines : List NumberedLine) :
    (readBody config node lines).2 = (readFrom config .start lines).2.map (lostLine node) ++
      (balance (readFrom config .start lines).1).2.map (.unbalanced node) := rfl

theorem countP_map_none {α : Type} {report : α → Anomaly} {p : Anomaly → Bool}
    (h : ∀ a, p (report a) = false) (list : List α) : (list.map report).countP p = 0 := by
  rw [List.countP_map, List.countP_eq_zero]
  exact fun a _ => ne_true_of_eq_false (h a)

theorem countP_map_all {α : Type} {report : α → Anomaly} {p : Anomaly → Bool}
    (h : ∀ a, p (report a) = true) (list : List α) : (list.map report).countP p = list.length := by
  rw [List.countP_map, List.countP_eq_length]
  exact fun a _ => h a

/-- The lines of a body can be counted from its list and its reports. -/
theorem length_readBody (config : ScriptConfig) (node : NodeId) (lines : List NumberedLine) :
    let faults := (readBody config node lines).2
    lines.length + faults.countP (·.isAdded) =
      faults.countP (·.isUnrecognized) + (readBody config node lines).1.length +
        faults.countP (·.isDropped) := by
  intro faults
  have hread := length_readFrom config .start lines
  have hbalance := length_balance (readFrom config .start lines).1
  have hlist : (readBody config node lines).1 = (balance (readFrom config .start lines).1).1 := rfl
  have hfaults (p : Anomaly → Bool) : faults.countP p =
      ((readFrom config .start lines).2.map (lostLine node)).countP p +
        ((balance (readFrom config .start lines).1).2.map (.unbalanced node)).countP p :=
    List.countP_append
  have hlost : faults.countP (·.isUnrecognized) = (readFrom config .start lines).2.length := by
    rw [hfaults, countP_map_all fun _ => rfl, countP_map_none fun _ => rfl, Nat.add_zero]
  have hadded : faults.countP (·.isAdded) =
      (balance (readFrom config .start lines).1).2.countP (·.isAdded) := by
    rw [hfaults, countP_map_none fun _ => rfl, Nat.zero_add, List.countP_map]
    rfl
  have hdropped : faults.countP (·.isDropped) =
      (balance (readFrom config .start lines).1).2.countP (·.isDropped) := by
    rw [hfaults, countP_map_none fun _ => rfl, Nat.zero_add, List.countP_map]
    rfl
  rw [hlist, hlost, hadded, hdropped]
  omega

/-! ## Sections -/

/-- The lines of all bodies can be counted from their lists and their reports. -/
theorem length_bodies (config : ScriptConfig) (parts : List Section) :
    let lists := parts.flatMap fun part => (readBody config part.id part.lines).1
    let faults := parts.flatMap fun part => (readBody config part.id part.lines).2
    (parts.flatMap (·.lines)).length + faults.countP (·.isAdded) =
      faults.countP (·.isUnrecognized) + lists.length + faults.countP (·.isDropped) := by
  induction parts with
  | nil => rfl
  | cons part rest ih =>
    have hbody := length_readBody config part.id part.lines
    simp only [List.flatMap_cons, List.countP_append, List.length_append] at ih ⊢
    omega

/-- Repeated nodes are not counted among the lines. -/
theorem countP_besidesRepetitions {p : Anomaly → Bool} (h : ∀ node, p (.duplicateNode node) = false)
    (faults : List Anomaly) : (besidesRepetitions faults).countP p = faults.countP p := by
  rw [besidesRepetitions, List.countP_filter]
  apply List.countP_congr
  intro fault _
  cases fault with
  | duplicateNode node => simp [h]
  | _ => exact Bool.and_true _ ▸ Iff.rfl

/-- If no node has two sections, the script is made of all that is read. -/
theorem length_addSections (config : ScriptConfig) {parts : List Section} (h : (parts.map (·.id)).Nodup) :
    (addSections config .empty parts).1.length =
      (parts.flatMap fun part => (readBody config part.id part.lines).1).length := by
  have hentries : (addSections config .empty parts).1 =
      .ofList (parts.map fun part => (part.id, (readBody config part.id part.lines).1)) := by
    simp only [addSections_fst, readBody_fst]
    rfl
  have hnodup : ((parts.map fun part => (part.id, (readBody config part.id part.lines).1)).map
      (·.1)).Nodup := by
    rwa [List.map_map]
  rw [Script.length, hentries, ((SortedMap.perm_ofList hnodup).flatMap_right _).length_eq,
    List.flatMap_map]

/-! ## Documents -/

/-- Does a trimmed line hold content? It is neither blank nor an end marker nor a header. -/
def isContent (line : List Char) : Bool :=
  !line.isEmpty && !isEndMarker line && (header? line).isNone

theorem isContent_eq (line : List Char) : isContent line = decide (lineKind line = .body) := by
  unfold isContent lineKind
  cases line.isEmpty <;> cases isEndMarker line <;> cases header? line <;> rfl

/-- How many lines of a document hold content? -/
def contentCount (document : List Char) : Nat :=
  ((Text.lines document).map trim).countP isContent

/-- Lines with content stand in front of the first header or in a section. -/
theorem countP_sections (lines : List NumberedLine) :
    (lines.map (·.text)).countP isContent =
      (sections lines).1.length + ((sections lines).2.flatMap (·.lines)).length := by
  induction lines with
  | nil => rfl
  | cons line rest ih =>
    rw [List.map_cons, List.countP_cons, ih, isContent_eq]
    cases hkind : lineKind line.text with
    | skipped => rw [sections, hkind]; rfl
    | header id => rw [sections_header hkind, List.flatMap_cons, List.length_append]; exact (Nat.zero_add _).symm
    | body => rw [sections, hkind]; exact Nat.add_right_comm _ _ _

/-- The report of a line in front of all sections. -/
def outsideLine (line : NumberedLine) : Anomaly :=
  .lineOutsideNode line.number (String.ofList line.text)

/-- The reports of a document, apart from repetitions: those of the lines in front, then those of the bodies. -/
theorem besidesRepetitions_parse (config : ScriptConfig) (document : String) :
    besidesRepetitions (parse config document).2 =
      (sections (numberedLines document.toList)).1.map outsideLine ++
        (sections (numberedLines document.toList)).2.flatMap fun part =>
          (readBody config part.id part.lines).2 := by
  rw [parse, ofDocument]
  dsimp only
  rw [besidesRepetitions_append, besidesRepetitions_addSections]
  congr 1
  exact List.filter_eq_self.2 fun fault hfault => by
    obtain ⟨line, -, rfl⟩ := List.mem_map.1 hfault
    rfl

theorem mem_readBody_snd {node : NodeId} {fault : Anomaly} (h : fault ∈ (readBody config node lines).2) :
    (∃ line ∈ lines, fault = lostLine node line) ∨ ∃ cause, fault = .unbalanced node cause := by
  rcases List.mem_append.1 h with hlost | hmended
  · obtain ⟨line, hline, rfl⟩ := List.mem_map.1 hlost
    exact .inl ⟨line, mem_of_mem_lost .start hline, rfl⟩
  · obtain ⟨cause, -, rfl⟩ := List.mem_map.1 hmended
    exact .inr ⟨cause, rfl⟩

/-- In a body no line stands outside of all sections. -/
theorem countP_isOutside_bodies (config : ScriptConfig) (parts : List Section) :
    (parts.flatMap fun part => (readBody config part.id part.lines).2).countP (·.isOutside) = 0 := by
  rw [List.countP_eq_zero]
  intro fault hfault
  obtain ⟨part, -, hbody⟩ := List.mem_flatMap.1 hfault
  rcases mem_readBody_snd hbody with ⟨line, -, rfl⟩ | ⟨cause, rfl⟩ <;> exact Bool.false_ne_true

/-- If no node is declared twice, the lines with content can be counted from the script and the reports. -/
theorem contentCount_eq (config : ScriptConfig) {document : String} (h : (headings document.toList).Nodup) :
    let script := (parse config document).1
    let faults := (parse config document).2
    contentCount document.toList + faults.countP (·.isAdded) =
      faults.countP (·.isOutside) + faults.countP (·.isUnrecognized) + script.length +
        faults.countP (·.isDropped) := by
  intro script faults
  rw [← map_id_sections_numberedLines] at h
  have hscript : script.length = _ := length_addSections config h
  have hbodies := length_bodies config (sections (numberedLines document.toList)).2
  have hcontent := countP_sections (numberedLines document.toList)
  rw [map_text_numberedLines] at hcontent
  have hfaults {p : Anomaly → Bool} (hp : ∀ node, p (.duplicateNode node) = false) : faults.countP p =
      ((sections (numberedLines document.toList)).1.map outsideLine).countP p +
        ((sections (numberedLines document.toList)).2.flatMap fun part =>
          (readBody config part.id part.lines).2).countP p := by
    rw [← countP_besidesRepetitions hp, besidesRepetitions_parse, List.countP_append]
  have houtside : faults.countP (·.isOutside) = (sections (numberedLines document.toList)).1.length := by
    rw [hfaults fun _ => rfl, countP_map_all fun _ => rfl, countP_isOutside_bodies, Nat.add_zero]
  have hinside {p : Anomaly → Bool} (hp : ∀ node, p (.duplicateNode node) = false)
      (hnone : ∀ line, p (outsideLine line) = false) : faults.countP p =
        ((sections (numberedLines document.toList)).2.flatMap fun part =>
          (readBody config part.id part.lines).2).countP p := by
    rw [hfaults hp, countP_map_none hnone, Nat.zero_add]
  rw [contentCount, hcontent, hscript, houtside, hinside (fun _ => rfl) fun _ => rfl,
    hinside (fun _ => rfl) fun _ => rfl, hinside (fun _ => rfl) fun _ => rfl]
  omega

/-! ## Places -/

/-- The node whose section is open behind trimmed lines: the one that the last header names. -/
def openSection (lines : List (List Char)) : Option NodeId :=
  (lines.filterMap heading?).getLast?

theorem openSection_cons (line : List Char) (rest : List (List Char)) :
    openSection (line :: rest) = (openSection rest).or (heading? line) := by
  rw [openSection, openSection, List.filterMap_cons]
  cases heading? line with
  | none => exact (Option.or_none).symm
  | some id => rw [List.getLast?_cons]; cases (rest.filterMap heading?).getLast? <;> rfl

/-- A line with content stands among others, where the section of this node is open, or none. -/
def Placed (lines : List NumberedLine) (line : NumberedLine) (node : Option NodeId) : Prop :=
  ∃ front behind, lines = front ++ line :: behind ∧ isContent line.text = true ∧
    openSection (front.map (·.text)) = node

theorem Placed.cons {node : Option NodeId} (h : Placed lines line node) (first : NumberedLine) :
    Placed (first :: lines) line (node.or (heading? first.text)) := by
  obtain ⟨front, behind, rfl, hcontent, rfl⟩ := h
  exact ⟨first :: front, behind, rfl, hcontent, openSection_cons _ _⟩

theorem placed_of_mem_front (h : line ∈ (sections lines).1) : Placed lines line none := by
  induction lines with
  | nil => cases h
  | cons first rest ih =>
    rw [sections] at h
    cases hkind : lineKind first.text with
    | header id =>
      rw [hkind] at h
      cases h
    | skipped =>
      rw [hkind] at h
      have hnone : heading? first.text = none := by rw [heading?, hkind]
      exact hnone ▸ (ih h).cons first
    | body =>
      rw [hkind] at h
      have hnone : heading? first.text = none := by rw [heading?, hkind]
      rcases List.mem_cons.1 h with rfl | hrest
      · exact ⟨[], rest, rfl, by rw [isContent_eq, hkind]; rfl, rfl⟩
      · exact hnone ▸ (ih hrest).cons first

theorem placed_of_mem_section {part : Section} (hpart : part ∈ (sections lines).2)
    (h : line ∈ part.lines) : Placed lines line (some part.id) := by
  induction lines with
  | nil => cases hpart
  | cons first rest ih =>
    rw [sections] at hpart
    cases hkind : lineKind first.text with
    | header id =>
      rw [hkind] at hpart
      have hid : heading? first.text = some id := by rw [heading?, hkind]
      rcases List.mem_cons.1 hpart with rfl | hlater
      · exact hid ▸ (placed_of_mem_front h).cons first
      · exact (ih hlater).cons first
    | skipped | body =>
      rw [hkind] at hpart
      exact (ih hpart).cons first

theorem map_number_numberedLines (document : List Char) :
    (numberedLines document).map (·.number) = List.range' 1 (Text.lines document).length := by
  unfold numberedLines
  rw [List.map_map, ← List.length_map trim]
  exact List.zipIdx_map_snd 1 _

/-- Lines are counted from one. -/
theorem number_eq {document : List Char} {front behind : List NumberedLine}
    (h : numberedLines document = front ++ line :: behind) : line.number = front.length + 1 := by
  have hnumbers := map_number_numberedLines document
  rw [h, List.map_append, List.map_cons, eq_comm, List.range'_eq_append_iff] at hnumbers
  obtain ⟨count, -, hfront, hbehind⟩ := hnumbers
  have hcount : front.length = count := by rw [← List.length_map, hfront, List.length_range']
  obtain ⟨hnumber, -⟩ := List.range'_eq_cons_iff.1 hbehind.symm
  omega

/-- The report of a line with content gives the number of the line in the document, counted from one, and the
trimmed line; `node` is the node of the last header before it. -/
def StandsAt (document : String) (number : Nat) (line : String) (node : Option NodeId) : Prop :=
  ∃ front raw behind, Text.lines document.toList = front ++ raw :: behind ∧ number = front.length + 1 ∧
    line = String.ofList (trim raw) ∧ isContent (trim raw) = true ∧ openSection (front.map trim) = node

theorem standsAt_of_placed {document : String} {node : Option NodeId}
    (h : Placed (numberedLines document.toList) line node) :
    StandsAt document line.number (String.ofList line.text) node := by
  obtain ⟨front, behind, hlines, hcontent, rfl⟩ := h
  have htexts : (Text.lines document.toList).map trim =
      front.map (·.text) ++ line.text :: behind.map (·.text) := by
    rw [← map_text_numberedLines, hlines, List.map_append, List.map_cons]
  obtain ⟨before, later, hsplit, hfront, hlater⟩ := List.map_eq_append_iff.1 htexts
  obtain ⟨raw, after, rfl, hraw, -⟩ := List.map_eq_cons_iff.1 hlater
  have hlength : front.length = before.length := by
    rw [← List.length_map, ← hfront, List.length_map]
  exact ⟨before, raw, after, hsplit, hlength ▸ number_eq hlines, by rw [hraw], hraw ▸ hcontent,
    hfront ▸ rfl⟩

/-- Every report of a document is about a line in front, about a line of a section or about no line at all. -/
theorem cases_of_mem_parse {document : String} {fault : Anomaly} (h : fault ∈ (parse config document).2) :
    (∃ line, fault = outsideLine line ∧ Placed (numberedLines document.toList) line none) ∨
    (∃ node line, fault = lostLine node line ∧ Placed (numberedLines document.toList) line (some node)) ∨
    (∃ node cause, fault = .unbalanced node cause) ∨ ∃ node, fault = .duplicateNode node := by
  cases hrepetition : fault.isRepetition with
  | true =>
    cases fault with
    | duplicateNode node => exact .inr (.inr (.inr ⟨node, rfl⟩))
    | _ => cases hrepetition
  | false =>
    have hmem : fault ∈ besidesRepetitions (parse config document).2 :=
      List.mem_filter.2 ⟨h, by rw [hrepetition]; rfl⟩
    rw [besidesRepetitions_parse] at hmem
    rcases List.mem_append.1 hmem with hfront | hbodies
    · obtain ⟨line, hline, rfl⟩ := List.mem_map.1 hfront
      exact .inl ⟨line, rfl, placed_of_mem_front hline⟩
    · obtain ⟨part, hpart, hbody⟩ := List.mem_flatMap.1 hbodies
      rcases mem_readBody_snd hbody with ⟨line, hline, rfl⟩ | ⟨cause, rfl⟩
      · exact .inr (.inl ⟨part.id, line, rfl, placed_of_mem_section hpart hline⟩)
      · exact .inr (.inr (.inl ⟨part.id, cause, rfl⟩))

/-- No line is lost without a report. If no node is declared twice, there are as many lines with content as there
are lines reported outside of nodes, lines reported as unrecognized and instructions in the script, with one more
for each marker that was dropped and one less for each that was added. And in every document the report of a line
gives its number and its trimmed text, and an unrecognized line is reported for the node of the last header
before it. -/
theorem lines_accounted_for (config : ScriptConfig) (document : String) :
    let script := (parse config document).1
    let faults := (parse config document).2
    ((headings document.toList).Nodup →
      contentCount document.toList + faults.countP (·.isAdded) =
        faults.countP (·.isOutside) + faults.countP (·.isUnrecognized) + script.length +
          faults.countP (·.isDropped)) ∧
    (∀ number line, .lineOutsideNode number line ∈ faults → StandsAt document number line none) ∧
    ∀ node number line, .unrecognizedLine node number line ∈ faults →
      StandsAt document number line (some node) := by
  intro script faults
  refine ⟨contentCount_eq config, ?_, ?_⟩
  · intro number line hfault
    rcases cases_of_mem_parse hfault with ⟨_, ⟨⟩, hplaced⟩ | ⟨_, _, ⟨⟩, -⟩ | ⟨_, _, ⟨⟩⟩ | ⟨_, ⟨⟩⟩
    exact standsAt_of_placed hplaced
  · intro node number line hfault
    rcases cases_of_mem_parse hfault with ⟨_, ⟨⟩, -⟩ | ⟨_, _, ⟨⟩, hplaced⟩ | ⟨_, _, ⟨⟩⟩ | ⟨_, ⟨⟩⟩
    exact standsAt_of_placed hplaced

/-- Ten lines with content: one in front of the first header, two that are lost, a marker that fits nowhere, and
six that are read; a condition is left open. Blank lines and end markers only count for the numbers. -/
theorem lines_accounted_for_at_inn :
    let document := "Dusk\r\n\r\n=== Node: inn ===\r\n<scene>Bar</scene>\r\n  ??\r\n[ELSE]\r\n[CHOICE]\r\n" ++
      "1. Stay\n=== End ===\n\n=== Node: road ===\n[IF: Mio >= 1]\n1. Go\nMio: On!\n[JUMP: inn]"
    let script := (parse {} document).1
    let faults := (parse {} document).2
    (headings document.toList).Nodup ∧
      contentCount document.toList = 10 ∧ script.length = 7 ∧
      faults = [.lineOutsideNode 1 "Dusk", .unrecognizedLine "inn" 5 "??", .unbalanced "inn" .elseOutsideIf,
        .unrecognizedLine "road" 13 "1. Go", .unbalanced "road" .ifNotClosed] ∧
      contentCount document.toList + faults.countP (·.isAdded) =
        faults.countP (·.isOutside) + faults.countP (·.isUnrecognized) + script.length +
          faults.countP (·.isDropped) ∧
      StandsAt document 1 "Dusk" none ∧ StandsAt document 5 "??" (some "inn") ∧
      StandsAt document 13 "1. Go" (some "road") := by
  intro document script faults
  have hnodup : (headings document.toList).Nodup := by decide +kernel
  have hfaults : faults = [.lineOutsideNode 1 "Dusk", .unrecognizedLine "inn" 5 "??",
      .unbalanced "inn" .elseOutsideIf, .unrecognizedLine "road" 13 "1. Go",
      .unbalanced "road" .ifNotClosed] := by decide +kernel
  obtain ⟨hcount, houtside, hlost⟩ := lines_accounted_for {} document
  refine ⟨hnodup, by decide +kernel, by decide +kernel, hfaults, hcount hnodup, houtside _ _ ?_,
    hlost _ _ _ ?_, hlost _ _ _ ?_⟩
  all_goals
    rw [show (parse {} document).2 = _ from hfaults]
    decide

end Script

end Storyline
