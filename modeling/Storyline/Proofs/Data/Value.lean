-- SUMMARY: Optional values, lists and maps as stored data: they fit their shapes and are taken back.
import Storyline.Proofs.Ron.RoundTrip

/-!
# Parts of stored data

Whatever is stored has two laws: its value fits its declared shape, and what is taken from the value is what was
stored. Optional values, lists and maps have them if their contents do.
-/

namespace Storyline

open Data Ron

variable {α β : Type}

/-! ## Values fit their shapes -/

theorem fits_ofOption {inner : Shape} {toValue : α → Value} {option : Option α}
    (h : ∀ a ∈ option, Fits inner (toValue a)) : Fits (.optional inner) (.ofOption toValue option) := by
  cases option with
  | none => exact .none inner
  | some a => exact .some (h a rfl)

theorem fits_list {item : Shape} {toValue : α → Value} {items : List α}
    (h : ∀ a ∈ items, Fits item (toValue a)) : Fits (.list item) (.list (items.map toValue)) :=
  .list (List.forall_mem_map.2 h)

theorem fits_dict {item : Shape} {toValue : α → Value} {entries : List (String × α)}
    (h : ∀ entry ∈ entries, Fits item (toValue entry.2)) :
    Fits (.dict item) (.dict (entries.map fun entry => (entry.1, toValue entry.2))) :=
  .dict (List.forall_mem_map.2 h)

theorem fits_ofOption_text (option : Option String) : Fits (.optional .text) (.ofOption .text option) :=
  fits_ofOption fun s _ => .text s

/-! ## Values are taken back -/

/-- If each item is taken back, the list is. -/
theorem mapM_map_eq_some {write : α → β} {read : β → Option α} {items : List α}
    (h : ∀ a ∈ items, read (write a) = some a) : (items.map write).mapM read = some items := by
  induction items with
  | nil => rfl
  | cons a rest ih =>
    obtain ⟨ha, hrest⟩ := List.forall_mem_cons.1 h
    rw [List.map_cons, List.mapM_cons, ha, ih hrest]
    rfl

/-- If the content of each entry is taken back, the map is. -/
theorem mapM_entries_eq_some {write : α → β} {read : β → Option α} {entries : List (String × α)}
    (h : ∀ entry ∈ entries, read (write entry.2) = some entry.2) :
    (entries.map fun entry => (entry.1, write entry.2)).mapM
        (fun entry => (read entry.2).map fun a => (entry.1, a)) = some entries := by
  apply mapM_map_eq_some
  intro entry hentry
  rw [h entry hentry, Option.map_some]

theorem toOption?_ofOption {ofValue? : Value → Option α} {toValue : α → Value}
    (h : ∀ a, ofValue? (toValue a) = some a) (option : Option α) :
    Value.toOption? ofValue? (.ofOption toValue option) = some option := by
  cases option with
  | none => rfl
  | some a => rw [Value.ofOption, Value.toOption?, h, Option.map_some]

theorem toList?_map {ofValue? : Value → Option α} {toValue : α → Value}
    (h : ∀ a, ofValue? (toValue a) = some a) (items : List α) :
    Value.toList? ofValue? (.list (items.map toValue)) = some items :=
  mapM_map_eq_some fun a _ => h a

theorem toDict?_map {ofValue? : Value → Option α} {toValue : α → Value}
    (h : ∀ a, ofValue? (toValue a) = some a) (entries : List (String × α)) :
    Value.toDict? ofValue? (.dict (entries.map fun entry => (entry.1, toValue entry.2))) = some entries :=
  mapM_entries_eq_some fun entry _ => h entry.2

theorem toText?_text (s : String) : Value.toText? (.text s) = some s := rfl

theorem toOption?_ofOption_text (option : Option String) :
    Value.toOption? Value.toText? (.ofOption .text option) = some option :=
  toOption?_ofOption toText?_text option

end Storyline
