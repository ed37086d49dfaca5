-- SUMMARY: Every value that is read conforms to the shape it was read by.
import Storyline.Proofs.Ron.RoundTrip

/-!
# What is read has the declared shape

`Conforms` says which values a shape admits once they are read: numbers are in their ranges, names are among the
choices, and a record has each required field, no field twice and no field that is not declared. The fields may
stand in any order, and some may be missing, so more values conform than are written. The induction is on the
shape (`conforms_of_value?`).
-/

namespace Storyline

namespace Data

/-- The shape that is declared for a field. -/
def Fields.shape? : Fields → String → Option Shape
  | nil, _ => none
  | cons name _ shape rest, wanted => if name = wanted then some shape else rest.shape? wanted

end Data

namespace Ron

open Data Text

/-- The value is one that can be read by the shape. -/
inductive Conforms : Shape → Value → Prop
  | bool (b : Bool) : Conforms .bool (.bool b)
  | text (s : String) : Conforms .text (.text s)
  | word {n : Nat} (h : fitsWord n = true) : Conforms .word (.number n)
  | level {n : Int} (h : fitsLevel n = true) : Conforms .level (.number n)
  | name {choices : List String} {s : String} (h : s ∈ choices) : Conforms (.name choices) (.name s)
  | none (inner : Shape) : Conforms (.optional inner) .none
  | some {inner : Shape} {value : Value} (h : Conforms inner value) : Conforms (.optional inner) (.some value)
  | list {item : Shape} {items : List Value} (h : ∀ value ∈ items, Conforms item value) :
    Conforms (.list item) (.list items)
  | dict {item : Shape} {entries : List (String × Value)} (h : ∀ entry ∈ entries, Conforms item entry.2) :
    Conforms (.dict item) (.dict entries)
  | record {name : String} {fields : Fields} {values : List (String × Value)}
    (distinct : (values.map Prod.fst).Nodup) (complete : complete values fields = true)
    (known : ∀ entry ∈ values, (fields.shape? entry.1).isSome = true)
    (h : ∀ entry ∈ values, ∀ shape ∈ fields.shape? entry.1, Conforms shape entry.2) :
    Conforms (.record name fields) (.record values)

/-! ## Parts of a text -/

section Parts

variable {α β : Type} {item : Reader α} {closing : Char} {s rest : List Char} {values : List α} {value : α}

/-- Each of the items that are taken is taken by the reader of items. -/
theorem exists_of_mem_itemsFrom {fuel : Nat} (h : itemsFrom item closing fuel s = some (values, rest))
    (hvalue : value ∈ values) : ∃ s rest, item s = some (value, rest) := by
  induction fuel generalizing s values with
  | zero => cases h
  | succ fuel ih =>
    simp only [itemsFrom, bind, Option.bind_eq_some_iff] at h
    obtain ⟨skipped, -, h⟩ := h
    split at h
    · cases h
    · split at h
      · cases h
        cases hvalue
      · obtain ⟨⟨first, behind⟩, hfirst, h⟩ := Option.bind_eq_some_iff.1 h
        obtain ⟨next, -, h⟩ := Option.bind_eq_some_iff.1 h
        split at h
        · obtain ⟨⟨others, last⟩, hothers, h⟩ := Option.bind_eq_some_iff.1 h
          cases h
          rcases List.mem_cons.1 hvalue with rfl | hvalue
          · exact ⟨_, _, hfirst⟩
          · exact ih hothers hvalue
        · obtain ⟨last, -, h⟩ := Option.bind_eq_some_iff.1 h
          cases h
          rw [List.mem_singleton.1 hvalue]
          exact ⟨_, _, hfirst⟩

theorem exists_of_mem_items? (h : items? item closing s = some (values, rest)) (hvalue : value ∈ values) :
    ∃ s rest, item s = some (value, rest) :=
  exists_of_mem_itemsFrom h hvalue

theorem exists_of_keyed {key : Reader α} {content : α → Reader β} {entry : α × β}
    (h : keyed key content s = some (entry, rest)) : ∃ s, content entry.1 s = some (entry.2, rest) := by
  simp only [keyed, bind, Option.bind_eq_some_iff] at h
  obtain ⟨⟨k, s⟩, -, s, -, s, -, ⟨v, s'⟩, hcontent, h⟩ := h
  cases h
  exact ⟨_, hcontent⟩

/-- The content of an optional value is taken by the reader of contents. -/
theorem exists_of_option? {extensions : Extensions} {content : Reader α}
    (h : option? extensions content s = some (some value, rest)) : ∃ s rest, content s = some (value, rest) := by
  have himplicit {s : List Char} {implicit : Bool} (h : (if implicit then
      (content s).map fun taken => (some taken.1, taken.2) else none) = some (some value, rest)) :
      ∃ s rest, content s = some (value, rest) := by
    split at h
    · obtain ⟨⟨found, behind⟩, hfound, heq⟩ := Option.map_eq_some_iff.1 h
      cases heq
      exact ⟨s, behind, hfound⟩
    · cases h
  unfold option? at h
  split at h
  · cases h
  · split at h
    · obtain ⟨opening, -, h⟩ := Option.bind_eq_some_iff.1 h
      split at h
      · obtain ⟨inner, -, h⟩ := Option.bind_eq_some_iff.1 h
        obtain ⟨⟨found, behind⟩, hfound, h⟩ := Option.bind_eq_some_iff.1 h
        obtain ⟨next, -, h⟩ := Option.bind_eq_some_iff.1 h
        -- a comma may stand behind the content
        dsimp only at h
        split at h
        all_goals
          obtain ⟨closed, -, h⟩ := Option.bind_eq_some_iff.1 h
          obtain ⟨last, -, h⟩ := Option.bind_eq_some_iff.1 h
          cases h
          exact ⟨inner, behind, hfound⟩
      · exact himplicit h
    · exact himplicit h

end Parts

/-! ## Values -/

/-- The fields that are taken are those with a declared name, none of them twice, and with all that are required. -/
theorem conforms_of_recordOf? {name : String} {fields : Fields} {taken : List (String × Option Value)}
    {value : Value} (h : recordOf? fields taken = some value)
    (htaken : ∀ field value, (field, some value) ∈ taken →
      ∃ shape, fields.shape? field = some shape ∧ Conforms shape value) :
    Conforms (.record name fields) value := by
  obtain ⟨⟨hdistinct, hcomplete⟩, hvalue⟩ := Option.ite_none_right_eq_some.1 h
  have hfound (entry : String × Value)
      (hentry : entry ∈ taken.filterMap fun entry => entry.2.map (Prod.mk entry.1)) :
      ∃ shape, fields.shape? entry.1 = some shape ∧ Conforms shape entry.2 := by
    obtain ⟨⟨field, found⟩, hmem, hfound⟩ := List.mem_filterMap.1 hentry
    obtain ⟨value, rfl, rfl⟩ := Option.map_eq_some_iff.1 hfound
    exact htaken field value hmem
  cases hvalue
  refine .record hdistinct hcomplete ?_ ?_
  · intro entry hentry
    obtain ⟨shape, hshape, -⟩ := hfound entry hentry
    rw [hshape]
    rfl
  · intro entry hentry shape hshape
    obtain ⟨found, hfound, hconforms⟩ := hfound entry hentry
    cases hfound.symm.trans hshape
    exact hconforms

mutual

theorem conforms_of_value? {extensions : Extensions} {room : Nat} {s rest : List Char} {value : Value} :
    (shape : Shape) → value? extensions room shape s = some (value, rest) → Conforms shape value
  | .bool, h => by
    rw [value?] at h
    dsimp only at h
    split at h
    · cases h
      exact .bool true
    · obtain ⟨behind, -, heq⟩ := Option.map_eq_some_iff.1 h
      cases heq
      exact .bool false
  | .text, h => by
    rw [value?] at h
    obtain ⟨⟨text, behind⟩, -, heq⟩ := Option.map_eq_some_iff.1 h
    cases heq
    exact .text text
  | .word, h => by
    rw [value?] at h
    obtain ⟨⟨n, behind⟩, -, h⟩ := Option.bind_eq_some_iff.1 h
    obtain ⟨hfits, heq⟩ := Option.ite_none_right_eq_some.1 h
    cases heq
    exact .word hfits
  | .level, h => by
    rw [value?] at h
    obtain ⟨⟨n, behind⟩, -, h⟩ := Option.bind_eq_some_iff.1 h
    obtain ⟨hfits, heq⟩ := Option.ite_none_right_eq_some.1 h
    cases heq
    exact .level hfits
  | .name choices, h => by
    rw [value?] at h
    obtain ⟨⟨name, behind⟩, -, h⟩ := Option.bind_eq_some_iff.1 h
    obtain ⟨hchoice, heq⟩ := Option.ite_none_right_eq_some.1 h
    cases heq
    exact .name hchoice
  | .optional inner, h => by
    rw [value?] at h
    obtain ⟨⟨found, behind⟩, hfound, heq⟩ := Option.map_eq_some_iff.1 h
    cases heq
    cases found with
    | none => exact .none inner
    | some value =>
      obtain ⟨s, rest, hvalue⟩ := exists_of_option? hfound
      exact .some (conforms_of_value? inner hvalue)
  | .list item, h => by
    rw [value?] at h
    obtain ⟨inside, -, h⟩ := Option.bind_eq_some_iff.1 h
    obtain ⟨⟨items, behind⟩, hitems, heq⟩ := Option.bind_eq_some_iff.1 h
    cases heq
    refine .list ?_
    intro value hvalue
    obtain ⟨s, rest, htaken⟩ := exists_of_mem_items? hitems hvalue
    exact conforms_of_value? item htaken
  | .dict item, h => by
    rw [value?] at h
    obtain ⟨inside, -, h⟩ := Option.bind_eq_some_iff.1 h
    obtain ⟨⟨entries, behind⟩, hentries, heq⟩ := Option.bind_eq_some_iff.1 h
    cases heq
    refine .dict ?_
    intro entry hentry
    obtain ⟨s, rest, htaken⟩ := exists_of_mem_items? hentries hentry
    obtain ⟨s, hvalue⟩ := exists_of_keyed htaken
    exact conforms_of_value? item hvalue
  | .record name fields, h => by
    rw [value?] at h
    obtain ⟨unnamed, -, h⟩ := Option.bind_eq_some_iff.1 h
    obtain ⟨inside, -, h⟩ := Option.bind_eq_some_iff.1 h
    obtain ⟨⟨taken, behind⟩, htaken, h⟩ := Option.bind_eq_some_iff.1 h
    obtain ⟨record, hrecord, heq⟩ := Option.bind_eq_some_iff.1 h
    cases heq
    refine conforms_of_recordOf? hrecord ?_
    intro field value hmem
    obtain ⟨s, rest, hentry⟩ := exists_of_mem_items? htaken hmem
    obtain ⟨s, hfield⟩ := exists_of_keyed hentry
    exact conforms_of_field? fields hfield

theorem conforms_of_field? {extensions : Extensions} {room : Nat} {s rest : List Char} {wanted : String}
    {value : Value} :
    (fields : Fields) → field? extensions room fields wanted s = some (some value, rest) →
      ∃ shape, fields.shape? wanted = some shape ∧ Conforms shape value
  | .nil, h => by
    rw [field?] at h
    obtain ⟨skipped, -, heq⟩ := Option.map_eq_some_iff.1 h
    cases heq
  | .cons name presence shape fields, h => by
    rw [field?] at h
    rw [Fields.shape?]
    split at h
    · rename_i hname
      obtain ⟨⟨found, behind⟩, hfound, heq⟩ := Option.map_eq_some_iff.1 h
      cases heq
      exact ⟨shape, if_pos hname, conforms_of_value? shape hfound⟩
    · rename_i hname
      rw [if_neg hname]
      exact conforms_of_field? fields h

end

/-- Whatever text is read, its value conforms to the shape. -/
theorem conforms_of_read? {shape : Shape} {text : String} {value : Value} (h : read? shape text = some value) :
    Conforms shape value := by
  obtain ⟨front, -, h⟩ := Option.bind_eq_some_iff.1 h
  obtain ⟨⟨extensions, unmarked⟩, -, h⟩ := Option.bind_eq_some_iff.1 h
  obtain ⟨⟨found, behind⟩, hfound, h⟩ := Option.bind_eq_some_iff.1 h
  obtain ⟨last, -, h⟩ := Option.bind_eq_some_iff.1 h
  obtain ⟨-, heq⟩ := Option.ite_none_right_eq_some.1 h
  cases heq
  exact conforms_of_value? shape hfound

/-- What is written conforms as well, as it is read back. -/
theorem Fits.conforms {shape : Shape} {value : Value} (h : Fits shape value) : Conforms shape value :=
  conforms_of_read? (read?_pretty h)

/-! ## Fields of records -/

/-- A field that is found in a record conforms to the shape that is declared for it. -/
theorem conforms_of_found {name field : String} {fields : Fields} {shape : Shape} {value found : Value}
    (h : Conforms (.record name fields) value) (hfound : value.field? field = some found)
    (hshape : fields.shape? field = some shape) : Conforms shape found := by
  cases h with
  | record _ _ _ hfields =>
    obtain ⟨front, behind, rfl, -⟩ := List.lookup_eq_some_iff.1 hfound
    exact hfields (field, found) List.mem_append_cons_self shape hshape

end Ron

end Storyline
