-- SUMMARY: The texts in the instructions of a script, and which of them can be blank.
import Storyline.Proofs.Script.Reading

/-!
# Texts in instructions

No text that is read from a document is padded, and most are full. What can be blank is told by `Unfilled`: a
name between fixed words can be a single blank, and in a tag the text of an offer and the speaker of a portrait
can be empty. The rules for lines of speakers look for blank texts, and so does the directive for portraits.
-/

namespace Storyline

open Text

namespace Instruction

/-- The texts in an instruction. -/
def texts : Instruction → List String
  | scene name => [name]
  | portrait speaker expression => [speaker, expression]
  | narration text => [text]
  | dialogue speaker text => [speaker, text]
  | ifLevel role _ => [role]
  | jump target => [target]
  | offer _ text target => text :: target.toList
  | clearPortrait => []
  | otherwise => []
  | endIf => []
  | openMenu => []

/-- Are all texts in the instruction full? -/
def Filled (instruction : Instruction) : Prop :=
  ∀ text ∈ instruction.texts, IsFull text

instance (instruction : Instruction) : Decidable instruction.Filled :=
  inferInstanceAs (Decidable (∀ text ∈ instruction.texts, IsFull text))

/-- The instructions with a blank text that can be read. -/
inductive Unfilled : Instruction → Prop
  | scene {name : String} (h : IsOneBlank name) : Unfilled (.scene name)
  | ifLevel {role : String} (level : Int) (h : IsOneBlank role) : Unfilled (.ifLevel role level)
  | jump {target : NodeId} (h : IsOneBlank target) : Unfilled (.jump target)
  | portrait {expression : String} (h : IsFull expression) : Unfilled (.portrait "" expression)
  | offer (index : Nat) {target : Option NodeId} (h : ∀ word ∈ target, IsFull word) :
    Unfilled (.offer index "" target)

variable {instruction : Instruction}

theorem filled_iff_of_two {first second : String} (h : instruction.texts = [first, second]) :
    instruction.Filled ↔ IsFull first ∧ IsFull second := by
  rw [Filled, h, List.forall_mem_cons, List.forall_mem_singleton]

theorem filled_offer {index : Nat} {text : String} {target : Option NodeId} (htext : IsFull text)
    (htarget : ∀ word ∈ target, IsFull word) : (offer index text target).Filled :=
  List.forall_mem_cons.2 ⟨htext, by simpa using htarget⟩

/-- No rule leaves a text padded, and none but these leave one blank. -/
theorem filled_or_unfilled_of_yields {rule : LineRule} (h : rule.Yields instruction) :
    instruction.Filled ∨ instruction.Unfilled := by
  cases h with
  | scene hname =>
    exact hname.imp List.forall_mem_singleton.2 .scene
  | ifLevel hrole =>
    exact hrole.imp List.forall_mem_singleton.2 (.ifLevel _)
  | jump htarget =>
    exact htarget.imp List.forall_mem_singleton.2 .jump
  | portrait hspeaker hexpression =>
    obtain rfl | hspeaker := eq_empty_or_isFull hspeaker
    · exact .inr (.portrait hexpression)
    · exact .inl ((filled_iff_of_two rfl).2 ⟨hspeaker, hexpression⟩)
  | narration _ htext => exact .inl (List.forall_mem_singleton.2 htext)
  | dialogue _ hspeaker htext => exact .inl ((filled_iff_of_two rfl).2 ⟨hspeaker, htext⟩)
  | offer htext htarget =>
    obtain rfl | htext := eq_empty_or_isFull htext
    · exact .inr (.offer _ htarget)
    · exact .inl (filled_offer htext htarget)
  | otherwise => exact .inl nofun
  | endIf => exact .inl nofun
  | clearPortrait => exact .inl nofun
  | openMenu => exact .inl nofun

theorem Unfilled.not_filled (h : instruction.Unfilled) : ¬instruction.Filled := by
  intro hfilled
  cases h with
  | scene h => exact h.not_isFull (hfilled _ List.mem_cons_self)
  | ifLevel _ h => exact h.not_isFull (hfilled _ List.mem_cons_self)
  | jump h => exact h.not_isFull (hfilled _ List.mem_cons_self)
  | portrait => exact (hfilled "" List.mem_cons_self).1 rfl
  | offer => exact (hfilled "" List.mem_cons_self).1 rfl

end Instruction

namespace Script

theorem filled_or_unfilled_of_read? {config : ScriptConfig} {cursor : Cursor} {line : List Char}
    {instruction : Instruction} (h : cursor.read? config line = some instruction) :
    instruction.Filled ∨ instruction.Unfilled := by
  obtain hnumbered | ⟨-, hline⟩ := Option.or_eq_some_iff.1 h
  · obtain ⟨-, hnumbered⟩ := Option.ite_none_right_eq_some.1 hnumbered
    obtain ⟨index, text, target, rfl, htext, htarget⟩ := exists_of_numberedOffer? hnumbered
    exact .inl (Instruction.filled_offer htext htarget)
  · obtain ⟨rule, hread⟩ := readLine?_eq_some_iff.1 hline
    exact Instruction.filled_or_unfilled_of_yields (LineRule.yields_of_read? hread)

/-- In the lists of a script all texts are full, but for the names of scenes, of roles in conditions and of targets
of jumps, which may be one blank, and for the texts of offers and the speakers of portraits, which may be empty. -/
theorem filled_iff_not_unfilled (config : ScriptConfig) (document : String) {id : NodeId}
    {list : List Instruction} (h : (parse config document).1.get? id = some list) :
    ∀ instruction ∈ list, instruction.Filled ↔ ¬instruction.Unfilled := by
  obtain ⟨lines, -, rfl⟩ := exists_section_of_get? h
  intro instruction hmem
  have hcases : instruction.Filled ∨ instruction.Unfilled := by
    obtain ⟨cursor, line, -, hread⟩ | rfl := exists_of_mem_readBody hmem
    · exact filled_or_unfilled_of_read? hread
    · exact .inl nofun
  exact ⟨fun hfilled hunfilled => hunfilled.not_filled hfilled, hcases.resolve_right⟩

/-- What is padded in a document is trimmed. -/
theorem filled_iff_not_unfilled_of_padded :
    let document := "=== Node: inn ===\n  Mio :  “ Hi ”\n<image id=\" Mio \">\tsmile </image>\n" ++
      "[CHOICE]\n1)  Go   -> road\n<choice target=\" road \"> Stay </choice>\n[JUMP: ]"
    let list := [.dialogue "Mio" "Hi", .portrait "Mio" "smile", .openMenu, .offer 1 "Go" (some "road"),
      .offer 2 "Stay" (some "road"), .jump " "]
    (parse {} document).1.get? "inn" = some list ∧
      ∀ instruction ∈ list, instruction.Filled ↔ ¬instruction.Unfilled := by
  intro document list
  have hlist : (parse {} document).1.get? "inn" = some list := by decide +kernel
  exact ⟨hlist, filled_iff_not_unfilled {} document hlist⟩

/-- Fields of blanks alone are read, and nothing is reported. -/
theorem blank_fields_are_read :
    let document := "=== Node: inn ===\n<scene> </scene>\n<image id=\"\">smile</image>\n" ++
      "[IF: >= 3]\n<choice> </choice>\n[ENDIF]\n[JUMP: ]"
    let list := [.scene " ", .portrait "" "smile", .ifLevel " " 3, .offer 1 "" none, .endIf, .jump " "]
    parse {} document = (.ofList [("inn", list)], []) ∧
      ∀ instruction ∈ list, instruction.texts ≠ [] → ¬instruction.Filled := by
  intro document list
  exact ⟨by decide +kernel, by decide +kernel⟩

end Script

end Storyline
