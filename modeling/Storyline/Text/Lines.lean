-- SUMMARY: Cutting a text into its lines.

/-!
# Lines

A line ends at a line feed, or at the end of the text. One carriage return in front of a line feed
belongs to the line's end, and a text that ends in a line feed has no empty last line.

Main statement: `lines_line_append` (a first line that ends in a line feed is cut off whole).
-/

namespace Storyline.Text

/-- The line without one carriage return at its end. -/
def chomp (line : List Char) : List Char :=
  if line.getLast? = some '\r' then line.dropLast else line

/-- The lines of `s`, where `front` holds the characters of the first line read so far, last one
first. -/
def linesFrom (front : List Char) : List Char → List (List Char)
  | [] => if front.isEmpty then [] else [front.reverse]
  | '\n' :: rest => chomp front.reverse :: linesFrom [] rest
  | c :: rest => linesFrom (c :: front) rest

/-- The lines of a text. -/
def lines (s : List Char) : List (List Char) :=
  linesFrom [] s

@[simp] theorem lines_nil : lines [] = [] := rfl

theorem linesFrom_line_append (front line rest : List Char) (h : '\n' ∉ line) :
    linesFrom front (line ++ '\n' :: rest) = chomp (front.reverse ++ line) :: lines rest := by
  induction line generalizing front with
  | nil => simp [linesFrom, lines]
  | cons c r ih =>
    have hc : c ≠ '\n' := fun e => h (by simp [e])
    have hr : '\n' ∉ r := fun e => h (by simp [e])
    rw [List.cons_append, linesFrom.eq_3 _ _ _ (by simpa using hc), ih _ hr]
    simp

theorem lines_line_append (line rest : List Char) (h : '\n' ∉ line) :
    lines (line ++ '\n' :: rest) = chomp line :: lines rest := by
  simpa only [lines, List.reverse_nil, List.nil_append] using linesFrom_line_append [] line rest h

end Storyline.Text
