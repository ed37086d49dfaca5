-- SUMMARY: The trimmed lines of a text, and what trimming leaves.
import Mathlib.Data.List.TakeWhile
import Storyline.Text.Blank
import Storyline.Text.Lines

/-!
# Trimmed lines

A document is read line by line, every line is trimmed, and blank lines do not count. `fullLines` is what is
left. It takes no notice of how lines end, nor of blanks at the end of the text, so the lines of two texts
with a line feed between them are just the lines of both: `fullLines_append_feed`.
-/

namespace Storyline.Text

variable {c : Char} {s blanks : List Char}

/-! ## Trimming -/

instance (s : List Char) : Decidable (Trimmed s) :=
  decidable_of_iff (s.head?.all (!isBlank ·) = true ∧ s.getLast?.all (!isBlank ·) = true)
    (by simp [Trimmed, Option.all_eq_true])

theorem trimLeft_blanks_append (h : ∀ c ∈ blanks, isBlank c = true) (s : List Char) :
    trimLeft (blanks ++ s) = trimLeft s :=
  List.dropWhile_append_of_pos h

theorem trimRight_append_blanks (s : List Char) (h : ∀ c ∈ blanks, isBlank c = true) :
    trimRight (s ++ blanks) = trimRight s := by
  have hreverse : ∀ c ∈ blanks.reverse, isBlank c = true := by simpa using h
  rw [trimRight, List.reverse_append, List.dropWhile_append_of_pos hreverse, trimRight]

/-- What is trimmed off at the end are blanks. -/
theorem exists_blanks (s : List Char) :
    ∃ blanks, (∀ c ∈ blanks, isBlank c = true) ∧ s = trimRight s ++ blanks := by
  refine ⟨(s.reverse.takeWhile isBlank).reverse, ?_, ?_⟩
  · intro c hc
    exact List.mem_takeWhile_imp (List.mem_reverse.1 hc)
  · rw [trimRight, ← List.reverse_append, List.takeWhile_append_dropWhile, List.reverse_reverse]

theorem trimLeft_eq_nil_iff : trimLeft s = [] ↔ ∀ c ∈ s, isBlank c = true :=
  List.dropWhile_eq_nil_iff

theorem trimLeft_ne_nil_iff : trimLeft s ≠ [] ↔ ∃ c ∈ s, isBlank c = false := by
  simp [trimLeft_eq_nil_iff]

theorem isBlank_head_trimLeft (h : (trimLeft s).head? = some c) : isBlank c = false := by
  have hhead := List.head?_dropWhile_not isBlank s
  rw [show (s.dropWhile isBlank).head? = some c from h] at hhead
  exact hhead

/-- Leading blanks are not affected by what follows a character that is none. -/
theorem trimLeft_append_of_ne_nil (h : trimLeft s ≠ []) (t : List Char) :
    trimLeft (s ++ t) = trimLeft s ++ t := by
  unfold trimLeft at h ⊢
  rw [List.dropWhile_append, if_neg (by simpa using h)]

theorem trimLeft_append_of_head (s : List Char) {t : List Char}
    (h : ∀ c, t.head? = some c → isBlank c = false) : trimLeft (s ++ t) = trimLeft s ++ t := by
  by_cases hs : trimLeft s = []
  · rw [hs, trimLeft_blanks_append (trimLeft_eq_nil_iff.1 hs), trimLeft_of_head h, List.nil_append]
  · exact trimLeft_append_of_ne_nil hs t

theorem trim_ne_nil_iff : trim s ≠ [] ↔ ∃ c ∈ s, isBlank c = false := by
  rw [← trimLeft_ne_nil_iff, not_iff_not, trim]
  constructor
  · intro hnil
    obtain ⟨blanks, hblanks, hs⟩ := exists_blanks (trimLeft s)
    rw [hnil, List.nil_append] at hs
    cases hfull : trimLeft s with
    | nil => rfl
    | cons c rest =>
      have hfirst := isBlank_head_trimLeft (s := s) (by rw [hfull, List.head?_cons])
      rw [hblanks c (by rw [← hs, hfull]; exact List.mem_cons_self)] at hfirst
      cases hfirst
  · intro hnil
    rw [hnil]
    rfl

theorem isBlank_last_trimRight (h : (trimRight s).getLast? = some c) : isBlank c = false := by
  rw [trimRight, List.getLast?_reverse] at h
  exact isBlank_head_trimLeft h

theorem head?_trimRight (h : trimRight s ≠ []) : (trimRight s).head? = s.head? := by
  obtain ⟨blanks, -, hs⟩ := exists_blanks s
  obtain ⟨first, rest, hfull⟩ := List.exists_cons_of_ne_nil h
  rw [hfull] at hs ⊢
  rw [hs]
  rfl

theorem trimmed_trim (s : List Char) : Trimmed (trim s) := by
  refine ⟨?_, fun _ => isBlank_last_trimRight⟩
  intro c hc
  have hne : trimRight (trimLeft s) ≠ [] := List.ne_nil_of_mem (List.mem_of_head? hc)
  rw [trim, head?_trimRight hne] at hc
  exact isBlank_head_trimLeft hc

theorem head?_trim_cons (h : isBlank c = false) (s : List Char) : (trim (c :: s)).head? = some c := by
  have hleft : trimLeft (c :: s) = c :: s := trimLeft_of_head (by rintro _ ⟨⟩; exact h)
  have hne : trim (c :: s) ≠ [] := trim_ne_nil_iff.2 ⟨c, List.mem_cons_self, h⟩
  rw [trim, hleft] at hne ⊢
  exact head?_trimRight hne

theorem trim_append_blanks (s : List Char) (h : ∀ c ∈ blanks, isBlank c = true) :
    trim (s ++ blanks) = trim s := by
  unfold trim
  by_cases hs : trimLeft s = []
  · rw [hs, trimLeft_blanks_append (trimLeft_eq_nil_iff.1 hs), trimLeft_eq_nil_iff.2 h]
  · rw [trimLeft_append_of_ne_nil hs, trimRight_append_blanks _ h]

theorem trim_chomp (line : List Char) : trim (chomp line) = trim line := by
  unfold chomp
  split
  · rename_i hlast
    obtain ⟨front, rfl⟩ := List.getLast?_eq_some_iff.1 hlast
    rw [List.dropLast_concat]
    exact (trim_append_blanks front (List.forall_mem_singleton.2 rfl)).symm
  · rfl

/-! ## Lines -/

/-- Does the last line of a text, if there is one, end in a line feed? -/
def LinesEnded (s : List Char) : Prop :=
  s = [] ∨ s.getLast? = some '\n'

instance (s : List Char) : Decidable (LinesEnded s) :=
  inferInstanceAs (Decidable (_ ∨ _))

theorem linesFrom_append_feed (front s t : List Char) :
    linesFrom front (s ++ '\n' :: t) = linesFrom front (s ++ ['\n']) ++ lines t := by
  induction s generalizing front with
  | nil => rfl
  | cons c s ih =>
    rw [List.cons_append, List.cons_append]
    by_cases hc : c = '\n'
    · subst hc
      rw [linesFrom, linesFrom, ih, List.cons_append]
    · rw [linesFrom.eq_3 _ _ _ (by simpa using hc), linesFrom.eq_3 _ _ _ (by simpa using hc), ih]

/-- Behind a line feed the lines are those of what follows. -/
theorem lines_append (h : LinesEnded s) (t : List Char) : lines (s ++ t) = lines s ++ lines t := by
  rcases h with rfl | h
  · rfl
  · obtain ⟨front, rfl⟩ := List.getLast?_eq_some_iff.1 h
    rw [List.append_assoc]
    exact linesFrom_append_feed [] front t

/-! ## Full lines -/

/-- The trimmed lines that are not blank, where `front` holds what was read of the first one. -/
def fullLinesFrom (front s : List Char) : List (List Char) :=
  ((linesFrom front s).map trim).filter (!·.isEmpty)

/-- The trimmed lines that are not blank. -/
def fullLines (s : List Char) : List (List Char) :=
  ((lines s).map trim).filter (!·.isEmpty)

theorem fullLinesFrom_nil (front : List Char) :
    fullLinesFrom front [] = [trim front.reverse].filter (!·.isEmpty) := by
  cases front with
  | nil => rfl
  | cons c rest => simp [fullLinesFrom, linesFrom]

theorem fullLinesFrom_feed (front s : List Char) :
    fullLinesFrom front ('\n' :: s) = fullLinesFrom front [] ++ fullLines s := by
  rw [fullLinesFrom_nil, fullLines, lines, ← List.filter_append, fullLinesFrom, linesFrom,
    List.map_cons, trim_chomp, List.singleton_append]

theorem fullLinesFrom_char (front s : List Char) (h : c ≠ '\n') :
    fullLinesFrom front (c :: s) = fullLinesFrom (c :: front) s := by
  rw [fullLinesFrom, linesFrom.eq_3 _ _ _ (by simpa using h), fullLinesFrom]

theorem fullLinesFrom_append_feed (front s t : List Char) :
    fullLinesFrom front (s ++ '\n' :: t) = fullLinesFrom front s ++ fullLines t := by
  induction s generalizing front with
  | nil => exact fullLinesFrom_feed front t
  | cons c s ih =>
    by_cases hc : c = '\n'
    · subst hc
      rw [List.cons_append, fullLinesFrom_feed, fullLinesFrom_feed, List.append_assoc]
      exact congrArg _ (ih [])
    · rw [List.cons_append, fullLinesFrom_char _ _ hc, fullLinesFrom_char _ _ hc, ih]

/-- A line feed parts the lines. -/
theorem fullLines_append_feed (s t : List Char) :
    fullLines (s ++ '\n' :: t) = fullLines s ++ fullLines t :=
  fullLinesFrom_append_feed [] s t

theorem fullLinesFrom_concat_blank (front s : List Char) (h : isBlank c = true) :
    fullLinesFrom front (s ++ [c]) = fullLinesFrom front s := by
  induction s generalizing front with
  | nil =>
    by_cases hc : c = '\n'
    · subst hc
      rw [List.nil_append, fullLinesFrom_feed]
      exact List.append_nil _
    · have hblank : ∀ b ∈ [c], isBlank b = true := by simpa using h
      rw [List.nil_append, fullLinesFrom_char _ _ hc, fullLinesFrom_nil, fullLinesFrom_nil,
        List.reverse_cons, trim_append_blanks _ hblank]
  | cons first s ih =>
    by_cases hfirst : first = '\n'
    · subst hfirst
      rw [List.cons_append, fullLinesFrom_feed, fullLinesFrom_feed]
      exact congrArg _ (ih [])
    · rw [List.cons_append, fullLinesFrom_char _ _ hfirst, fullLinesFrom_char _ _ hfirst, ih]

theorem fullLines_append_blanks (s : List Char) (h : ∀ c ∈ blanks, isBlank c = true) :
    fullLines (s ++ blanks) = fullLines s := by
  induction blanks generalizing s with
  | nil => rw [List.append_nil]
  | cons c rest ih =>
    obtain ⟨hc, hrest⟩ := List.forall_mem_cons.1 h
    rw [List.append_cons, ih _ hrest]
    exact fullLinesFrom_concat_blank [] s hc

/-- Blanks at the end of a text make no difference to its lines. -/
theorem fullLines_trimRight (s : List Char) : fullLines (trimRight s) = fullLines s := by
  obtain ⟨blanks, hblanks, hs⟩ := exists_blanks s
  have hsame := fullLines_append_blanks (trimRight s) hblanks
  rw [← hs] at hsame
  exact hsame.symm

theorem fullLinesFrom_line (front : List Char) {line : List Char} (h : '\n' ∉ line) :
    fullLinesFrom front line = [trim (front.reverse ++ line)].filter (!·.isEmpty) := by
  induction line generalizing front with
  | nil => rw [fullLinesFrom_nil, List.append_nil]
  | cons c line ih =>
    obtain ⟨hc, hline⟩ := List.ne_and_not_mem_of_not_mem_cons h
    rw [fullLinesFrom_char _ _ hc.symm, ih _ hline, List.reverse_cons, List.append_assoc]
    rfl

/-- Can a text be found among the trimmed lines that are not blank? -/
structure IsLine (line : List Char) : Prop where
  nonempty : line ≠ []
  trimmed : Trimmed line
  oneLine : '\n' ∉ line

instance (line : List Char) : Decidable (IsLine line) :=
  decidable_of_iff (line ≠ [] ∧ Trimmed line ∧ '\n' ∉ line)
    ⟨fun ⟨hne, htrimmed, hline⟩ => ⟨hne, htrimmed, hline⟩, fun h => ⟨h.nonempty, h.trimmed, h.oneLine⟩⟩

theorem IsLine.trim_eq {line : List Char} (h : IsLine line) : trim line = line :=
  trim_of_trimmed h.trimmed

theorem IsLine.trim_ne_nil {line : List Char} (h : IsLine line) : trim line ≠ [] :=
  h.trim_eq.symm ▸ h.nonempty

/-- Only the ends of a text decide whether it is trimmed. -/
theorem isLine_append {front behind : List Char}
    (hfirst : ∃ c, front.head? = some c ∧ isBlank c = false)
    (hlast : ∃ c, behind.getLast? = some c ∧ isBlank c = false) (hfront : '\n' ∉ front)
    (hbehind : '\n' ∉ behind) : IsLine (front ++ behind) := by
  obtain ⟨first, hhead, hfirst⟩ := hfirst
  obtain ⟨last, htail, hlast⟩ := hlast
  refine ⟨?_, ⟨?_, ?_⟩, ?_⟩
  · rintro hnil
    rw [(List.append_eq_nil_iff.1 hnil).1] at hhead
    cases hhead
  · intro c hc
    rw [List.head?_append, hhead] at hc
    cases hc
    exact hfirst
  · intro c hc
    rw [List.getLast?_append, htail] at hc
    cases hc
    exact hlast
  · rw [List.mem_append]
    rintro (hmem | hmem)
    · exact hfront hmem
    · exact hbehind hmem

/-- A text that is a line is its only line. -/
theorem fullLines_line {line : List Char} (h : IsLine line) : fullLines line = [line] := by
  have hline := fullLinesFrom_line [] h.oneLine
  rw [List.reverse_nil, List.nil_append, trim_of_trimmed h.trimmed] at hline
  exact hline.trans (by simp [h.nonempty])

/-- Lines as a text. -/
def unlines (texts : List (List Char)) : List Char :=
  texts.flatMap (· ++ ['\n'])

theorem fullLines_unlines_append {texts : List (List Char)} (h : ∀ line ∈ texts, IsLine line)
    (s : List Char) : fullLines (unlines texts ++ s) = texts ++ fullLines s := by
  induction texts with
  | nil => rfl
  | cons line rest ih =>
    obtain ⟨hline, hrest⟩ := List.forall_mem_cons.1 h
    have htext : unlines (line :: rest) ++ s = line ++ '\n' :: (unlines rest ++ s) := by
      simp [unlines]
    rw [htext, fullLines_append_feed, fullLines_line hline, ih hrest]
    rfl

end Storyline.Text
