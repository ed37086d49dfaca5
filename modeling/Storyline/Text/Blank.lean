-- SUMMARY: White space of any script, and trimming of character lists and strings.

/-!
# Blanks

A *blank* is a character with the Unicode property `White_Space`. Story texts come in many scripts,
so a line is trimmed of ideographic and no-break spaces just as of the ASCII ones.

Main statements: `trim_of_trimmed` (a text without outer blanks is left alone) and
`isBlank_of_isWhitespace` (every character that core calls white space is a blank).
-/

namespace Storyline.Text

/-- Is this a character with the Unicode property `White_Space`? -/
def isBlank (c : Char) : Bool :=
  let n := c.toNat
  (0x9 ≤ n && n ≤ 0xD) || n == 0x20 || n == 0x85 || n == 0xA0 || n == 0x1680 ||
    (0x2000 ≤ n && n ≤ 0x200A) || n == 0x2028 || n == 0x2029 || n == 0x202F || n == 0x205F ||
    n == 0x3000

theorem isBlank_of_isWhitespace {c : Char} (h : c.isWhitespace = true) : isBlank c = true := by
  simp only [Char.isWhitespace, Bool.or_eq_true, decide_eq_true_eq] at h
  rcases h with ((rfl | rfl) | rfl) | rfl <;> decide

/-- The text without its leading blanks. -/
def trimLeft (s : List Char) : List Char :=
  s.dropWhile isBlank

/-- The text without its trailing blanks. -/
def trimRight (s : List Char) : List Char :=
  (s.reverse.dropWhile isBlank).reverse

/-- The text without its outer blanks. -/
def trim (s : List Char) : List Char :=
  trimRight (trimLeft s)

/-- Does the text neither begin nor end with a blank? -/
def Trimmed (s : List Char) : Prop :=
  (∀ c, s.head? = some c → isBlank c = false) ∧ (∀ c, s.getLast? = some c → isBlank c = false)

theorem trimLeft_of_head {s : List Char} (h : ∀ c, s.head? = some c → isBlank c = false) :
    trimLeft s = s := by
  cases s with
  | nil => rfl
  | cons c r => simp [trimLeft, List.dropWhile, h c rfl]

theorem trimRight_of_last {s : List Char} (h : ∀ c, s.getLast? = some c → isBlank c = false) :
    trimRight s = s := by
  have h' : trimLeft s.reverse = s.reverse :=
    trimLeft_of_head fun c hc => h c (by rwa [List.head?_reverse] at hc)
  simp only [trimLeft] at h'
  simp [trimRight, h']

theorem trim_of_trimmed {s : List Char} (h : Trimmed s) : trim s = s := by
  rw [trim, trimLeft_of_head h.1, trimRight_of_last h.2]

/-- `trim` on strings. -/
def trimString (s : String) : String :=
  String.ofList (trim s.toList)

end Storyline.Text
