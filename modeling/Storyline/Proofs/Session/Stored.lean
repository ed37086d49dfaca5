-- SUMMARY: A saved session loads as the session that was saved.
import Storyline.Proofs.Data.Value
import Storyline.Proofs.NameSet
import Storyline.Session.Stored

/-!
# Loading what was saved

Each part of a session has two laws: its value fits its declared shape, so the text of a saved session is
read back as that value, and what is read from the value is the part again. No text in a session is in the
way. The positions alone are bounded, as they are stored in 64-bit words.
-/

namespace Storyline

open Data Ron Text

/-! ## The parts of a session -/

theorem PlayState.ofName?_name (state : PlayState) : ofName? state.name = some state := by
  cases state <;> rfl

theorem Branch.ofName?_name (branch : Branch) : ofName? branch.name = some branch := by
  cases branch <;> rfl

theorem Portrait.fits_toValue (portrait : Portrait) : Fits shape portrait.toValue :=
  .record (by decide) (by decide) (.cons (.text _) (.cons (.text _) .nil))

theorem Portrait.ofValue?_toValue (portrait : Portrait) : ofValue? portrait.toValue = some portrait := by
  simp [ofValue?, toValue, Value.required?, Value.field?, List.lookup_cons, Value.toText?]

theorem Display.fits_toValue (display : Display) : Fits shape display.toValue :=
  .record (by decide) (by decide)
    (.cons (fits_ofOption_text _) (.cons (fits_ofOption_text _)
      (.cons (fits_ofOption fun portrait _ => portrait.fits_toValue) (.cons (fits_ofOption_text _) .nil))))

theorem Display.ofValue?_toValue (display : Display) : ofValue? display.toValue = some display := by
  simp [ofValue?, toValue, Value.defaulted?, Value.field?, List.lookup_cons, toOption?_ofOption_text,
    toOption?_ofOption Portrait.ofValue?_toValue]

theorem OpenCondition.fits_toValue {condition : OpenCondition} (h : fitsWord condition.position = true) :
    Fits shape condition.toValue := by
  have hbranch : Fits (.name ["Then", "Else"]) (.name condition.branch.name) := by
    cases condition.branch <;> exact .name (by decide) (by decide)
  exact .record (by decide) (by decide) (.cons (.word h) (.cons hbranch .nil))

theorem OpenCondition.ofValue?_toValue (condition : OpenCondition) :
    ofValue? condition.toValue = some condition := by
  simp [ofValue?, toValue, Value.required?, Value.field?, List.lookup_cons, Value.toNat?, Value.toName?,
    Branch.ofName?_name]

theorem MenuOption.fits_toValue (option : MenuOption) : Fits shape option.toValue :=
  .record (by decide) (by decide) (.cons (.text _) (.cons (fits_ofOption_text _) .nil))

theorem MenuOption.ofValue?_toValue (option : MenuOption) : ofValue? option.toValue = some option := by
  simp [ofValue?, toValue, Value.required?, Value.defaulted?, Value.field?, List.lookup_cons, Value.toText?,
    toOption?_ofOption_text]

theorem Menu.fits_toValue {menu : Menu} (h : fitsWord menu.resumeAt = true) : Fits shape menu.toValue :=
  .record (by decide) (by decide)
    (.cons (fits_list fun option _ => option.fits_toValue) (.cons (.word h) .nil))

theorem Menu.ofValue?_toValue (menu : Menu) : ofValue? menu.toValue = some menu := by
  simp [ofValue?, toValue, Value.required?, Value.field?, List.lookup_cons, Value.toNat?,
    toList?_map MenuOption.ofValue?_toValue]

theorem ChoiceRecord.fits_toValue (choice : ChoiceRecord) : Fits shape choice.toValue :=
  .record (by decide) (by decide) (.cons (.text _) (.cons (.text _) (.cons (fits_ofOption_text _) .nil)))

theorem ChoiceRecord.ofValue?_toValue (choice : ChoiceRecord) : ofValue? choice.toValue = some choice := by
  simp [ofValue?, toValue, Value.required?, Value.defaulted?, Value.field?, List.lookup_cons, Value.toText?,
    toOption?_ofOption_text]

/-! ## Sessions -/

namespace Session

/-- Every position that the session holds is a 64-bit word. -/
structure HoldsWords (session : Session) : Prop where
  position : fitsWord session.position = true
  conditions : ∀ condition ∈ session.conditions, fitsWord condition.position = true
  menu : ∀ menu ∈ session.menu, fitsWord menu.resumeAt = true

theorem fits_toValue {session : Session} (h : session.HoldsWords) : Fits shape session.toValue := by
  have hconditions : Fits (.list OpenCondition.shape)
      (.list (session.conditions.reverse.map OpenCondition.toValue)) :=
    fits_list fun condition hcondition =>
      OpenCondition.fits_toValue (h.conditions condition (List.mem_reverse.1 hcondition))
  have hstate : Fits (.name ["Running", "AwaitingChoice", "Finished"]) (.name session.state.name) := by
    cases session.state <;> exact .name (by decide) (by decide)
  have hmenu : Fits (.optional Menu.shape) (.ofOption Menu.toValue session.menu) :=
    fits_ofOption fun menu hmenu => Menu.fits_toValue (h.menu menu hmenu)
  have htexts (texts : List String) : Fits (.list .text) (.list (texts.map .text)) :=
    fits_list fun s _ => .text s
  exact .record (by decide) (by decide)
    (.cons (.text _) (.cons (.word h.position) (.cons hconditions (.cons session.display.fits_toValue
      (.cons hstate (.cons (.bool _) (.cons hmenu
        (.cons (fits_list fun choice _ => choice.fits_toValue)
          (.cons (htexts _) (.cons (htexts _) .nil))))))))))

theorem ofValue?_toValue (session : Session) : ofValue? session.toValue = some session := by
  have htexts (texts : List String) : Value.toList? Value.toText? (.list (texts.map .text)) = some texts :=
    toList?_map toText?_text texts
  simp only [ofValue?, toValue, Value.required?, Value.defaulted?, Value.field?, List.lookup_cons, String.reduceBEq,
    Value.toText?, Value.toNat?, Value.toBool?, Value.toName?, Option.bind_some, Int.toNat_natCast]
  rw [toList?_map OpenCondition.ofValue?_toValue, Display.ofValue?_toValue, PlayState.ofName?_name,
    toOption?_ofOption Menu.ofValue?_toValue, toList?_map ChoiceRecord.ofValue?_toValue, htexts, htexts]
  simp [history, visited, NameSet.ofNames_keys]

/-- Loading a saved session gives the session, whatever its texts are. -/
theorem ofRon?_toRon {session : Session} (h : session.HoldsWords) : ofRon? session.toRon = some session := by
  rw [ofRon?, toRon, read?_pretty (fits_toValue h), Option.bind_some, ofValue?_toValue]

/-- A session with an empty trail, the greatest position, and texts that hold the marks of the format. -/
def marked : Session where
  node := "(\"\\\x00\")"
  position := 0xffffffffffffffff
  conditions := [⟨3, .elsePart⟩, ⟨0, .thenPart⟩]
  display :=
    { speaker := some "r#\"\"#"
      text := some "it's\r\n\t"
      portrait := some ⟨"", "// /* #!["⟩ }
  state := .awaitingChoice
  menu := some { options := [⟨"e\u0301", some "None"⟩, ⟨"\u200b", none⟩], resumeAt := 7 }
  choices := [⟨"\x7b", "\x7d", none⟩]
  trail := []
  unknownRoles := NameSet.ofNames ["Some(", "", "],"]

theorem ofRon?_toRon_marked : marked.HoldsWords ∧ ofRon? marked.toRon = some marked := by
  have hwords : marked.HoldsWords := ⟨by decide, by decide, by decide⟩
  exact ⟨hwords, ofRon?_toRon hwords⟩

end Session

end Storyline
