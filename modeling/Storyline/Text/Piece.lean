-- SUMMARY: Cutting fixed words off either end of a text, and finding them inside.

/-!
# Pieces of a text

Lines are recognised by the fixed words at their two ends. These functions cut such a word off and
give what is left.

Main statements: `after?_eq_some_iff` and `before?_eq_some_iff` (what is left is exactly what was
there beside the word).
-/

namespace Storyline.Text

/-- What follows `word` at the front of the text, if the text begins with it. -/
def after? : (word : List Char) → (s : List Char) → Option (List Char)
  | [], s => some s
  | _ :: _, [] => none
  | w :: word, c :: s => if c = w then after? word s else none

theorem after?_eq_some_iff {word s rest : List Char} :
    after? word s = some rest ↔ s = word ++ rest := by
  induction word generalizing s with
  | nil => simp [after?, eq_comm]
  | cons w word ih =>
    cases s with
    | nil => simp [after?]
    | cons c s =>
      by_cases h : c = w
      · simp [after?, h, ih]
      · simp [after?, h]

/-- What precedes `word` at the end of the text, if the text ends with it. -/
def before? (word s : List Char) : Option (List Char) :=
  (after? word.reverse s.reverse).map List.reverse

theorem before?_eq_some_iff {word s rest : List Char} :
    before? word s = some rest ↔ s = rest ++ word := by
  simp only [before?, Option.map_eq_some_iff, after?_eq_some_iff]
  constructor
  · rintro ⟨r, h, rfl⟩
    rw [← List.reverse_reverse s, h]
    simp
  · rintro rfl
    exact ⟨rest.reverse, by simp, by simp⟩

/-- Is `c` the lower-case letter `letter` when case is ignored? Of the letters used here only `s` has a
third form, the long s. -/
def foldsTo (letter c : Char) : Bool :=
  c.toLower == letter || (letter == 's' && c == 'ſ')

/-- What follows `word`, given in lower case, when case is ignored. -/
def afterCaseless? : (word : List Char) → (s : List Char) → Option (List Char)
  | [], s => some s
  | _ :: _, [] => none
  | w :: word, c :: s => if foldsTo w c then afterCaseless? word s else none

/-- Does `word` stand somewhere in the text? -/
def occurs (word : List Char) : List Char → Bool
  | [] => word.isEmpty
  | c :: s => (after? word (c :: s)).isSome || occurs word s

end Storyline.Text
