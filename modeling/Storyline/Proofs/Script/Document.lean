-- SUMMARY: What a document is read as depends on its trimmed lines, section by section.
import Storyline.Proofs.Script.Nesting
import Storyline.Proofs.Text.Lines

/-!
# Reading documents

The numbers of lines are there for reports only, and blank lines are skipped. So the script that a document is
read as is made of its full lines: `ofDocument_eq`. Sections do not touch each other, and behind a body whose
conditions are closed any instructions without conditions are read as if they stood alone.
-/

namespace Storyline.Script

open Text

variable {config : ScriptConfig} {lines front behind : List NumberedLine}

/-! ## Line numbers and blank lines -/

/-- Lines with no number of their own. -/
def plain (texts : List (List Char)) : List NumberedLine :=
  texts.map (⟨0, ·⟩)

theorem plain_append (front behind : List (List Char)) :
    plain (front ++ behind) = plain front ++ plain behind :=
  List.map_append

theorem plain_cons (text : List Char) (rest : List (List Char)) :
    plain (text :: rest) = ⟨0, text⟩ :: plain rest := rfl

theorem map_text_plain (texts : List (List Char)) : (plain texts).map (·.text) = texts := by
  simp [plain, Function.comp_def]

section Map

variable {f : NumberedLine → NumberedLine} (hf : ∀ line, (f line).text = line.text)

include hf

/-- What lines are read as depends on their texts alone. -/
theorem readLines_map (count : Nat) (inMenu : Bool) (lines : List NumberedLine) :
    readLines config count inMenu (lines.map f) =
      ((readLines config count inMenu lines).1, (readLines config count inMenu lines).2.map f) := by
  induction lines generalizing count inMenu with
  | nil => rfl
  | cons line rest ih =>
    rw [List.map_cons]
    unfold readLines
    simp only [hf]
    split
    · rw [ih]
    · split
      all_goals rw [ih]
      rw [List.map_cons]

theorem sections_map (lines : List NumberedLine) :
    sections (lines.map f) =
      ((sections lines).1.map f,
        (sections lines).2.map fun part => ⟨part.id, part.lines.map f⟩) := by
  induction lines with
  | nil => rfl
  | cons line rest ih =>
    rw [List.map_cons]
    unfold sections
    simp only [hf]
    split
    all_goals rw [ih]
    all_goals rfl

theorem bodyLines_map (node : NodeId) (lines : List NumberedLine) :
    bodyLines node (lines.map f) =
      ((bodyLines node lines).1.map f, (bodyLines node lines).2.map f) := by
  induction lines with
  | nil => rfl
  | cons line rest ih =>
    rw [List.map_cons]
    unfold bodyLines
    simp only [hf]
    split
    · rw [ih]
    · rw [ih]
      split <;> rfl
    · rw [ih]
      rfl

end Map

theorem plain_map_text (lines : List NumberedLine) :
    plain (lines.map (·.text)) = lines.map (⟨0, ·.text⟩) :=
  List.map_map

theorem readLines_plain (count : Nat) (inMenu : Bool) (lines : List NumberedLine) :
    (readLines config count inMenu (plain (lines.map (·.text)))).1 =
      (readLines config count inMenu lines).1 := by
  rw [plain_map_text, readLines_map (f := fun line => ⟨0, line.text⟩) fun _ => rfl]

theorem sections_plain (lines : List NumberedLine) :
    sections (plain (lines.map (·.text))) =
      (plain ((sections lines).1.map (·.text)),
        (sections lines).2.map fun part => ⟨part.id, plain (part.lines.map (·.text))⟩) := by
  simp only [plain_map_text]
  exact sections_map (f := fun line => ⟨0, line.text⟩) (fun _ => rfl) lines

/-- Blank lines do not count. -/
theorem sections_full (lines : List NumberedLine) :
    sections (lines.filter (!·.text.isEmpty)) = sections lines := by
  induction lines with
  | nil => rfl
  | cons line rest ih =>
    by_cases hblank : line.text = []
    · have hkind : lineKind line.text = .skipped := by rw [hblank]; rfl
      rw [List.filter_cons_of_neg (by simp [hblank]), ih, sections, hkind]
    · rw [List.filter_cons_of_pos (by simp [hblank]), sections, sections, ih]

theorem map_text_numberedLines (document : List Char) :
    (numberedLines document).map (·.text) = (Text.lines document).map trim := by
  unfold numberedLines
  rw [List.map_map]
  exact List.zipIdx_map_fst 1 _

theorem plain_fullLines (document : List Char) :
    plain (fullLines document) =
      plain (((numberedLines document).filter (!·.text.isEmpty)).map (·.text)) := by
  rw [fullLines, ← map_text_numberedLines, List.filter_map]
  rfl

/-! ## Sections -/

/-- A document that begins with a header does not touch what stands before it. -/
theorem sections_append (h : (sections behind).1 = []) :
    sections (front ++ behind) =
      ((sections front).1, (sections front).2 ++ (sections behind).2) := by
  induction front with
  | nil => exact Prod.ext h rfl
  | cons line rest ih =>
    rw [List.cons_append, sections, sections, ih]
    dsimp only
    split <;> rfl

/-- The node whose section a line opens. -/
def heading? (line : List Char) : Option NodeId :=
  match lineKind line with
  | .header id => some id
  | _ => none

theorem heading?_eq_some_iff {line : List Char} {id : NodeId} :
    heading? line = some id ↔ lineKind line = .header id := by
  unfold heading?
  split <;> simp_all

theorem heading?_eq_none_iff {line : List Char} :
    heading? line = none ↔ ∀ id, lineKind line ≠ .header id := by
  simp only [Option.eq_none_iff_forall_ne_some, Ne, heading?_eq_some_iff]

/-- The nodes whose sections a document opens, in order. -/
def headings (document : List Char) : List NodeId :=
  ((Text.lines document).map trim).filterMap heading?

/-- There is a section for every heading. -/
theorem map_id_sections (lines : List NumberedLine) :
    (sections lines).2.map (·.id) = (lines.map (·.text)).filterMap heading? := by
  induction lines with
  | nil => rfl
  | cons line rest ih =>
    rw [List.map_cons, List.filterMap_cons, ← ih, sections, heading?]
    cases lineKind line.text <;> rfl

theorem map_id_sections_numberedLines (document : List Char) :
    (sections (numberedLines document)).2.map (·.id) = headings document := by
  rw [map_id_sections, map_text_numberedLines, headings]

/-- The lines of a body among other lines. -/
def inBody (line : NumberedLine) : Bool :=
  lineKind line.text = .body

theorem sections_of_no_header (h : ∀ line ∈ lines, ∀ id, lineKind line.text ≠ .header id) :
    sections lines = (lines.filter inBody, []) := by
  induction lines with
  | nil => rfl
  | cons line rest ih =>
    obtain ⟨hline, hrest⟩ := List.forall_mem_cons.1 h
    rw [sections, ih hrest, List.filter_cons, inBody]
    cases hkind : lineKind line.text with
    | skipped => rfl
    | header id => exact absurd hkind (hline id)
    | body => rfl

theorem bodyLines_of_no_header (node : NodeId)
    (h : ∀ line ∈ lines, ∀ id, lineKind line.text ≠ .header id) :
    bodyLines node lines = (lines.filter inBody, []) := by
  induction lines with
  | nil => rfl
  | cons line rest ih =>
    obtain ⟨hline, hrest⟩ := List.forall_mem_cons.1 h
    rw [bodyLines, ih hrest, List.filter_cons, inBody]
    cases hkind : lineKind line.text with
    | skipped => rfl
    | header id => exact absurd hkind (hline id)
    | body => rfl

theorem sections_header {line : NumberedLine} {id : NodeId} (h : lineKind line.text = .header id) :
    sections (line :: behind) = ([], ⟨id, (sections behind).1⟩ :: (sections behind).2) := by
  rw [sections, h]

/-! ## The lists of a document -/

/-- The list that is read from lines. Neither their numbers nor the node play a part in it. -/
def listOfLines (config : ScriptConfig) (texts : List (List Char)) : List Instruction :=
  (balance (readLines config 0 false (plain texts)).1).1

theorem readBody_fst (node : NodeId) (lines : List NumberedLine) :
    (readBody config node lines).1 = listOfLines config (lines.map (·.text)) := by
  rw [listOfLines, readLines_plain]
  rfl

theorem addSections_fst (script : Script) (parts : List Section) :
    (addSections config script parts).1 =
      (parts.map fun part => (part.id, listOfLines config (part.lines.map (·.text)))).foldl
        (fun script entry => script.insert entry.1 entry.2) script := by
  induction parts generalizing script with
  | nil => rfl
  | cons part rest ih =>
    rw [List.map_cons, List.foldl_cons, ← readBody_fst part.id]
    exact ih _

/-- The script of a document is made of its full lines. -/
theorem ofDocument_eq (document : List Char) :
    (ofDocument config document).1 =
      .ofList ((sections (plain (fullLines document))).2.map fun part =>
        (part.id, listOfLines config (part.lines.map (·.text)))) := by
  have hscript : (ofDocument config document).1 =
      (addSections config .empty (sections (numberedLines document)).2).1 := rfl
  rw [hscript, addSections_fst, plain_fullLines, sections_plain, sections_full, SortedMap.ofList,
    List.map_map]
  simp only [Function.comp_def, map_text_plain]

/-- The lines of a text that belong to a body. -/
def bodyTexts (text : List Char) : List (List Char) :=
  (fullLines text).filter (lineKind · = .body)

/-- Does no line of a text name a node? -/
def HeaderFree (text : String) : Prop :=
  ∀ line ∈ fullLines text.toList, ∀ id, lineKind line ≠ .header id

instance (text : String) : Decidable (HeaderFree text) :=
  decidable_of_iff (∀ line ∈ fullLines text.toList, heading? line = none)
    (by simp only [HeaderFree, heading?_eq_none_iff])

/-- Blank lines name no node either. -/
theorem HeaderFree.lineKind_ne {text : String} (h : HeaderFree text) :
    ∀ line ∈ numberedLines text.toList, ∀ id, lineKind line.text ≠ .header id := by
  intro line hline id
  have htext : line.text ∈ (numberedLines text.toList).map (·.text) := List.mem_map_of_mem hline
  rw [map_text_numberedLines] at htext
  by_cases hblank : line.text = []
  · rw [hblank]
    exact nofun
  · exact h _ (List.mem_filter.2 ⟨htext, by simp [hblank]⟩) id

theorem bodyTexts_eq (text : List Char) :
    bodyTexts text = ((numberedLines text).filter inBody).map (·.text) := by
  have hfull (line : List Char) :
      (decide (lineKind line = .body) && !line.isEmpty) = decide (lineKind line = .body) := by
    cases line with
    | nil => rfl
    | cons => exact Bool.and_true _
  have hkind : inBody = (fun line : List Char => decide (lineKind line = .body)) ∘ (·.text) := rfl
  rw [bodyTexts, Text.fullLines, List.filter_filter, ← map_text_numberedLines]
  simp only [hfull]
  rw [hkind, ← List.filter_map]

/-- A body without headers is read as its lines are. -/
theorem parseBody_eq {text : String} (h : HeaderFree text) (node : NodeId) :
    parseBody config node text =
      readBody config node ((numberedLines text.toList).filter inBody) := by
  rw [parseBody, bodyLines_of_no_header node h.lineKind_ne]
  rfl

theorem parseBody_fst {text : String} (h : HeaderFree text) (node : NodeId) :
    (parseBody config node text).1 = listOfLines config (bodyTexts text.toList) := by
  rw [parseBody_eq h, readBody_fst, bodyTexts_eq]

/-! ## Behind a body -/

theorem balanceFrom_of_no_marker {later : List Instruction}
    (h : ∀ instruction ∈ later, instruction.isMarker = false) : balanceFrom [] later = (later, []) := by
  induction later with
  | nil => rfl
  | cons instruction rest ih =>
    obtain ⟨hfirst, hrest⟩ := List.forall_mem_cons.1 h
    rw [balanceFrom_plain [] hfirst, ih hrest]

/-- What follows conditions that are closed is not mended. -/
theorem balanceFrom_append (opened : List Bool) {list later : List Instruction}
    (hclosed : (balanceFrom opened list).2 = [])
    (hlater : ∀ instruction ∈ later, instruction.isMarker = false) :
    (balanceFrom opened (list ++ later)).1 = (balanceFrom opened list).1 ++ later := by
  induction list generalizing opened with
  | nil =>
    obtain rfl := List.map_eq_nil_iff.1 hclosed
    rw [List.nil_append, balanceFrom_of_no_marker hlater]
    rfl
  | cons instruction rest ih =>
    cases instruction using Instruction.markerCases with
    | ifLevel role level =>
      exact congrArg _ (ih (false :: opened) hclosed)
    | otherwise =>
      match opened with
      | [] => cases hclosed
      | false :: opened => exact congrArg _ (ih (true :: opened) hclosed)
      | true :: opened => cases hclosed
    | endIf =>
      match opened with
      | [] => cases hclosed
      | met :: opened =>
        cases met <;> exact congrArg _ (ih opened hclosed)
    | plain instruction h =>
      rw [balanceFrom_plain opened h] at hclosed ⊢
      rw [List.cons_append, balanceFrom_plain opened h, ih opened hclosed]
      rfl

end Storyline.Script
