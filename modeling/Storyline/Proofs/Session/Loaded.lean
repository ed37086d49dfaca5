-- SUMMARY: The sessions that can be loaded are those whose positions are 64-bit words.
import Storyline.Proofs.Ron.Conforming
import Storyline.Proofs.Session.Stored

/-!
# Which sessions can be loaded

A saved session can be edited before it is loaded. Then it may be any session: nothing ties its position to a list
or its menu to its state. Only the declared shape is sure (`conforms_of_read?`), and of that, the positions are all
that a session could violate (`exists_ofRon?_iff`).
-/

namespace Storyline

open Data Ron Text

variable {α : Type} {value : Value}

/-! ## Parts of stored data -/

/-- Each of the parts that are read is read from one of the items. -/
theorem exists_of_mem_mapM {β : Type} {read : β → Option α} {items : List β} {parts : List α} {a : α}
    (h : items.mapM read = some parts) (ha : a ∈ parts) : ∃ b ∈ items, read b = some a := by
  induction items generalizing parts with
  | nil =>
    cases h
    cases ha
  | cons b rest ih =>
    rw [List.mapM_cons] at h
    obtain ⟨first, hfirst, h⟩ := Option.bind_eq_some_iff.1 h
    obtain ⟨others, hothers, h⟩ := Option.bind_eq_some_iff.1 h
    cases h
    rcases List.mem_cons.1 ha with rfl | ha
    · exact ⟨b, List.mem_cons_self, hfirst⟩
    · obtain ⟨c, hc, hread⟩ := ih hothers ha
      exact ⟨c, List.mem_cons_of_mem b hc, hread⟩

theorem fitsWord_of_toNat? {n : Nat} (h : Conforms .word value) (hn : value.toNat? = some n) :
    fitsWord n = true := by
  cases h with
  | word hfits =>
    cases hn
    exact hfits

theorem exists_of_mem_toList? {item : Shape} {ofValue? : Value → Option α} {parts : List α} {a : α}
    (h : Conforms (.list item) value) (hparts : value.toList? ofValue? = some parts) (ha : a ∈ parts) :
    ∃ value, Conforms item value ∧ ofValue? value = some a := by
  cases h with
  | list hitems =>
    obtain ⟨value, hvalue, hread⟩ := exists_of_mem_mapM hparts ha
    exact ⟨value, hitems value hvalue, hread⟩

theorem exists_of_toOption? {inner : Shape} {ofValue? : Value → Option α} {a : α}
    (h : Conforms (.optional inner) value) (ha : value.toOption? ofValue? = some (some a)) :
    ∃ value, Conforms inner value ∧ ofValue? value = some a := by
  cases h with
  | none => cases ha
  | some hinner =>
    obtain ⟨found, hread, heq⟩ := Option.map_eq_some_iff.1 ha
    cases heq
    exact ⟨_, hinner, hread⟩

/-! ## The parts of a session -/

theorem OpenCondition.fitsWord_of_ofValue? {condition : OpenCondition} (h : Conforms shape value)
    (hread : ofValue? value = some condition) : fitsWord condition.position = true := by
  obtain ⟨position, hposition, hread⟩ := Option.bind_eq_some_iff.1 hread
  obtain ⟨branch, -, heq⟩ := Option.bind_eq_some_iff.1 hread
  cases heq
  obtain ⟨found, hfound, hposition⟩ := Option.bind_eq_some_iff.1 hposition
  exact fitsWord_of_toNat? (conforms_of_found h hfound rfl) hposition

theorem Menu.fitsWord_of_ofValue? {menu : Menu} (h : Conforms shape value) (hread : ofValue? value = some menu) :
    fitsWord menu.resumeAt = true := by
  obtain ⟨options, -, hread⟩ := Option.bind_eq_some_iff.1 hread
  obtain ⟨resumeAt, hresumeAt, heq⟩ := Option.bind_eq_some_iff.1 hread
  cases heq
  obtain ⟨found, hfound, hresumeAt⟩ := Option.bind_eq_some_iff.1 hresumeAt
  exact fitsWord_of_toNat? (conforms_of_found h hfound rfl) hresumeAt

namespace Session

theorem holdsWords_of_ofValue? {session : Session} (h : Conforms shape value)
    (hread : ofValue? value = some session) : session.HoldsWords := by
  unfold ofValue? at hread
  simp only [bind, Option.bind_eq_some_iff, Option.some.injEq] at hread
  obtain ⟨node, -, position, hposition, conditions, hconditions, display, -, state, -, waiting, -, menu, hmenu,
    history, -, visited, -, roles, -, rfl⟩ := hread
  constructor
  · obtain ⟨found, hfound, hposition⟩ := Option.bind_eq_some_iff.1 hposition
    exact fitsWord_of_toNat? (conforms_of_found h hfound rfl) hposition
  · intro condition hcondition
    obtain ⟨found, hfound, hconditions⟩ := Option.bind_eq_some_iff.1 hconditions
    obtain ⟨value, hvalue, hread⟩ :=
      exists_of_mem_toList? (conforms_of_found h hfound rfl) hconditions (List.mem_reverse.1 hcondition)
    exact OpenCondition.fitsWord_of_ofValue? hvalue hread
  · rintro menu rfl
    unfold Value.defaulted? at hmenu
    split at hmenu
    · rename_i found hfound
      obtain ⟨value, hvalue, hread⟩ := exists_of_toOption? (conforms_of_found h hfound rfl) hmenu
      exact Menu.fitsWord_of_ofValue? hvalue hread
    · cases hmenu

/-- Whatever text is loaded, the positions of the session are words. -/
theorem holdsWords_of_ofRon? {session : Session} {text : String} (h : ofRon? text = some session) :
    session.HoldsWords := by
  obtain ⟨value, hvalue, hread⟩ := Option.bind_eq_some_iff.1 h
  exact holdsWords_of_ofValue? (conforms_of_read? hvalue) hread

/-- A session can be loaded if all its positions are words, and only then. -/
theorem exists_ofRon?_iff {session : Session} : (∃ text, ofRon? text = some session) ↔ session.HoldsWords :=
  ⟨fun ⟨_, h⟩ => holdsWords_of_ofRon? h, fun h => ⟨session.toRon, ofRon?_toRon h⟩⟩

end Session

end Storyline
