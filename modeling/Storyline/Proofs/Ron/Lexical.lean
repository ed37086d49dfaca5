-- SUMMARY: Blanks, names, numbers and strings are read as they are written, whatever follows them.
import Mathlib.Algebra.Order.BigOperators.Group.List
import Storyline.Proofs.Text.Numeral
import Storyline.Ron.Lexical
import Storyline.Text.Escaped

/-!
# Reading back the parts of a RON text

A name or a number goes on as long as the characters fit, so it is read back only where it ends before what
follows (`Ends`). A string closes itself: every character of it is written in a form that the reader takes
back, whichever character it is (`escaped_cases`).
-/

namespace Storyline.Ron

open Text

variable {c : Char} {s rest blanks : List Char} {fuel : Nat}

/-- A text has at least as many characters as parts, if none of them is empty. -/
theorem length_le_length_flatMap {α : Type} {parts : List α} {text : α → List Char}
    (h : ∀ part ∈ parts, text part ≠ []) : parts.length ≤ (parts.flatMap text).length := by
  rw [List.length_flatMap, ← List.length_map fun part => (text part).length]
  apply List.length_le_sum_of_one_le
  rintro _ hmem
  obtain ⟨part, hpart, rfl⟩ := List.mem_map.1 hmem
  exact List.length_pos_iff.2 (h part hpart)

/-! ## Where a part ends -/

/-- No name or number that stands before `rest` goes on into it. -/
def Ends (rest : List Char) : Prop :=
  ∀ c, rest.head? = some c → isRawIdentChar c = false

theorem ends_nil : Ends [] := by
  rintro c ⟨⟩

theorem ends_cons (hc : isRawIdentChar c = false) (rest : List Char) : Ends (c :: rest) := by
  rintro d ⟨⟩
  exact hc

theorem Ends.head?_eq_false {p : Char → Bool} (hrest : Ends rest)
    (hp : ∀ c, p c = true → isRawIdentChar c = true) (hc : rest.head? = some c) : p c = false := by
  apply Bool.eq_false_iff.2
  intro h
  exact Bool.false_ne_true ((hrest c hc).symm.trans (hp c h))

theorem Ends.takeWhile_append {p : Char → Bool} (hrest : Ends rest)
    (hp : ∀ c, p c = true → isRawIdentChar c = true) (hs : ∀ c ∈ s, p c = true) :
    (s ++ rest).takeWhile p = s := by
  rw [List.takeWhile_append_of_pos hs]
  cases rest with
  | nil => exact List.append_nil s
  | cons c rest =>
    rw [List.takeWhile_cons, hrest.head?_eq_false hp rfl, if_neg Bool.false_ne_true, List.append_nil]

theorem Ends.dropWhile_append {p : Char → Bool} (hrest : Ends rest)
    (hp : ∀ c, p c = true → isRawIdentChar c = true) (hs : ∀ c ∈ s, p c = true) :
    (s ++ rest).dropWhile p = rest := by
  rw [List.dropWhile_append_of_pos hs]
  cases rest with
  | nil => rfl
  | cons c rest => rw [List.dropWhile_cons, hrest.head?_eq_false hp rfl, if_neg Bool.false_ne_true]

theorem isRawIdentChar_of_isIdentChar (h : isIdentChar c = true) : isRawIdentChar c = true := by
  rw [isRawIdentChar, h]
  rfl

theorem isIdentChar_of_hexDigit? (h : (hexDigit? c).isSome = true) : isIdentChar c = true := by
  unfold hexDigit? at h
  split at h
  next hbounds => simp [isIdentChar, isDigit, hbounds]
  split at h
  next hbounds =>
    have hz : c ≤ 'z' := Char.le_trans hbounds.2 (by decide)
    simp [isIdentChar, isIdentStart, hbounds, hz]
  split at h
  next hbounds =>
    have hz : c ≤ 'Z' := Char.le_trans hbounds.2 (by decide)
    simp [isIdentChar, isIdentStart, hbounds, hz]
  next => cases h

theorem isIdentChar_of_isNumeralChar (h : isNumeralChar c = true) : isIdentChar c = true := by
  rcases (Bool.or_eq_true _ _).mp h with h | h
  · exact isIdentChar_of_hexDigit? h
  · rw [beq_iff_eq.1 h]
    rfl

/-! ## Blanks -/

theorem skipFrom_blanks_cons (hslash : c ≠ '/') (rest : List Char) :
    skipFrom .blanks (c :: rest) = if isSpace c then skipFrom .blanks rest else some (c :: rest) := by
  have hbeq : (c == '/') = false := beq_eq_false_iff_ne.2 hslash
  rw [skipFrom, hbeq]
  · rfl
  · exact fun _ h _ => hslash h
  · exact fun _ h _ => hslash h

/-- Blanks are skipped up to a character that is neither a blank nor the start of a comment. -/
theorem skip_blanks_append (hblanks : ∀ c ∈ blanks, isSpace c = true) (hc : isSpace c = false)
    (hslash : c ≠ '/') (rest : List Char) : skip (blanks ++ c :: rest) = some (c :: rest) := by
  induction blanks with
  | nil => rw [List.nil_append, skip, skipFrom_blanks_cons hslash, hc, if_neg Bool.false_ne_true]
  | cons blank blanks ih =>
    obtain ⟨hblank, hblanks⟩ := List.forall_mem_cons.1 hblanks
    have hne : blank ≠ '/' := by
      rintro rfl
      cases hblank
    rw [List.cons_append, skip, skipFrom_blanks_cons hne, if_pos hblank]
    exact ih hblanks

theorem skip_cons (hc : isSpace c = false) (hslash : c ≠ '/') (rest : List Char) :
    skip (c :: rest) = some (c :: rest) :=
  skip_blanks_append (List.forall_mem_nil _) hc hslash rest

theorem mark?_cons (hc : isSpace c = false) (hslash : c ≠ '/') (rest : List Char) :
    mark? c (c :: rest) = some rest := by
  simp [mark?, skip_cons hc hslash, after?]

/-! ## Names -/

/-- Is this a name that is written without a mark before it? -/
def isName (name : String) : Bool :=
  match name.toList with
  | [] => false
  | c :: rest => isIdentStart c && rest.all isIdentChar && c :: rest != ['r']

/-- A name is read up to where it ends. -/
theorem identifier?_append {name : String} (hname : isName name = true) (hrest : Ends rest) :
    identifier? (name.toList ++ rest) = some (name, rest) := by
  cases hs : name.toList with
  | nil => simp [isName, hs] at hname
  | cons c tail =>
    have hof : String.ofList (c :: tail) = name := by rw [← hs, String.ofList_toList]
    simp only [isName, hs, Bool.and_eq_true, List.all_eq_true, bne_iff_ne] at hname
    obtain ⟨⟨hc, htail⟩, hr⟩ := hname
    -- a name that begins with an `r` goes on, so it is no raw name and no raw string
    have hnext : c = 'r' → ∃ d more, tail = d :: more ∧ isIdentChar d = true := by
      rintro rfl
      cases tail with
      | nil => exact absurd rfl hr
      | cons d more => exact ⟨d, more, rfl, htail d List.mem_cons_self⟩
    rw [List.cons_append, identifier?]
    · have hident (d : Char) : isIdentChar d = true → isRawIdentChar d = true :=
        isRawIdentChar_of_isIdentChar
      simp only [hc, if_true, hrest.takeWhile_append hident htail, hrest.dropWhile_append hident htail, hof]
      cases rest with
      | nil => rfl
      | cons next rest => simp only [hrest next rfl, Bool.false_eq_true, if_false]
    · intro h hnil
      obtain ⟨d, more, rfl, -⟩ := hnext h
      cases hnil
    · intro _ h hquote
      obtain ⟨d, more, rfl, hd⟩ := hnext h
      cases hquote
      cases hd
    · intro _ h hhash
      obtain ⟨d, more, rfl, hd⟩ := hnext h
      cases hhash
      cases hd

/-! ## Numbers -/

theorem isNumeralChar_of_isDigit (h : isDigit c = true) : isNumeralChar c = true := by
  have hbounds : '0' ≤ c ∧ c ≤ '9' := by simpa [isDigit] using h
  rw [isNumeralChar, hexDigit?, if_pos hbounds]
  rfl

/-- What follows the first digit of a number is another digit or the end, so no letter marks a base. -/
theorem toDigits_append_ne {n : Nat} (hrest : Ends rest) (hident : isIdentChar c = true)
    (hdigit : isDigit c = false) (first : Char) (more : List Char) :
    Nat.toDigits 10 n ++ rest ≠ first :: c :: more := by
  obtain ⟨d, digits, hdigits, -, hall⟩ := toDigits_eq_cons n
  rw [hdigits]
  cases digits with
  | nil =>
    rintro ⟨⟩
    exact Bool.false_ne_true ((hrest c rfl).symm.trans (isRawIdentChar_of_isIdentChar hident))
  | cons next digits =>
    rintro ⟨⟩
    exact Bool.false_ne_true (hdigit.symm.trans (hall c List.mem_cons_self))

theorem natural?_of_decimal
    (hbase : ∀ c, isIdentChar c = true → isDigit c = false → ∀ more, s ≠ '0' :: c :: more)
    (hline : ∀ c ∈ s.takeWhile isNumeralChar, c ≠ '_') :
    natural? s =
      (digits? 10 (s.takeWhile isNumeralChar)).map fun n => (n, s.dropWhile isNumeralChar) := by
  have hfilter : (s.takeWhile isNumeralChar).filter (· != '_') = s.takeWhile isNumeralChar := by
    simpa using hline
  unfold natural?
  split
  next heq =>
  split at heq
  next => exact absurd rfl (hbase 'x' rfl rfl _)
  next => exact absurd rfl (hbase 'b' rfl rfl _)
  next => exact absurd rfl (hbase 'o' rfl rfl _)
  cases heq
  dsimp only
  split
  next hs => exact absurd rfl (hline '_' (by simp [hs]))
  next => rw [hfilter]

theorem natural?_toDigits_append (hrest : Ends rest) (n : Nat) :
    natural? (Nat.toDigits 10 n ++ rest) = some (n, rest) := by
  have hident (c : Char) (hc : isNumeralChar c = true) : isRawIdentChar c = true :=
    isRawIdentChar_of_isIdentChar (isIdentChar_of_isNumeralChar hc)
  have hnumeral : ∀ c ∈ Nat.toDigits 10 n, isNumeralChar c = true := fun c hc =>
    isNumeralChar_of_isDigit (isDigit_of_mem_toDigits hc)
  have htake := hrest.takeWhile_append hident hnumeral
  rw [natural?_of_decimal, htake, hrest.dropWhile_append hident hnumeral,
    digits?_toDigits (by decide) (by decide), Option.map_some]
  · intro c hident hdigit more
    exact toDigits_append_ne hrest hident hdigit '0' more
  · rw [htake]
    rintro c hc rfl
    cases isDigit_of_mem_toDigits hc

theorem integer?_append (hrest : Ends rest) (n : Int) :
    integer? ((toString n).toList ++ rest) = some (n, rest) := by
  cases n with
  | ofNat n =>
    obtain ⟨d, digits, hdigits, hd, -⟩ := toDigits_eq_cons n
    have hsign (c : Char) (hc : isDigit c = false) : d ≠ c := by
      rintro rfl
      exact Bool.false_ne_true (hc.symm.trans hd)
    have hnatural := natural?_toDigits_append hrest n
    rw [Int.ofNat_eq_natCast, toList_toString_natCast]
    rw [hdigits, List.cons_append] at hnatural ⊢
    rw [integer?, hnatural]
    · rfl
    · exact fun _ heq => hsign '+' rfl (List.cons.inj heq).1
    · exact fun _ heq => hsign '-' rfl (List.cons.inj heq).1
  | negSucc n =>
    rw [toList_toString_negSucc, List.cons_append, integer?, natural?_toDigits_append hrest]
    rfl

/-! ## Strings -/

theorem scalar?_toNat (c : Char) : scalar? c.toNat = some c := by
  have hvalid : c.toNat.isValidChar := c.valid
  rw [scalar?, dif_pos hvalid]
  rfl

theorem escape?_hex (c : Char) (rest : List Char) :
    escape? ('u' :: '\x7b' :: (hex c.toNat ++ '\x7d' :: rest)) = some (c, rest) := by
  have hends : Ends ('\x7d' :: rest) := ends_cons rfl rest
  have hident (d : Char) (hd : (hexDigit? d).isSome = true) : isRawIdentChar d = true :=
    isRawIdentChar_of_isIdentChar (isIdentChar_of_hexDigit? hd)
  have hhex : ∀ d ∈ hex c.toNat, (hexDigit? d).isSome = true := fun d hd =>
    hexDigit?_isSome_of_mem_toDigits (by decide) (by decide) hd
  have hsix : ¬6 < (hex c.toNat).length := by
    have hbound : c.toNat < 16 ^ 6 := by
      have hvalid : c.toNat.isValidChar := c.valid
      rcases hvalid with h | ⟨-, h⟩ <;> omega
    rw [Nat.not_lt, hex, Nat.length_toDigits_le_iff (by decide) (by decide)]
    exact hbound
  have hnumber : digits? 16 (hex c.toNat) = some c.toNat :=
    digits?_toDigits (by decide) (by decide) c.toNat
  simp only [escape?, hends.takeWhile_append hident hhex, hends.dropWhile_append hident hhex, after?, if_true,
    bind, Option.bind, if_neg hsix, hnumber, scalar?_toNat]

/-- A character of a string is written as it is, or in a form that the reader takes back. -/
theorem escaped_cases (c : Char) :
    (escaped true c = [c] ∧ c ≠ '"' ∧ c ≠ '\\') ∨
      ∃ form, escaped true c = '\\' :: form ∧ ∀ rest, escape? (form ++ rest) = some (c, rest) := by
  unfold escaped
  split
  case h_8 hquote hbackslash _ =>
    split
    next =>
      refine .inr ⟨_, rfl, fun rest => ?_⟩
      rw [← escape?_hex c rest]
      simp
    next => exact .inl ⟨rfl, hquote, hbackslash⟩
  all_goals exact .inr ⟨_, rfl, fun rest => rfl⟩

theorem escaped_ne_nil (c : Char) : escaped true c ≠ [] := by
  rcases escaped_cases c with ⟨hc, -⟩ | ⟨form, hc, -⟩ <;> rw [hc] <;> exact List.cons_ne_nil _ _

/-- What is written between the quotes is read back up to the closing quote. -/
theorem stringFrom_escaped (front s rest : List Char) (hfuel : s.length < fuel) :
    stringFrom front fuel (s.flatMap (escaped true) ++ '"' :: rest) = some (front.reverse ++ s, rest) := by
  induction s generalizing front fuel with
  | nil =>
    obtain ⟨fuel, rfl⟩ := Nat.exists_eq_add_one.2 hfuel
    rw [List.append_nil]
    rfl
  | cons c s ih =>
    obtain ⟨fuel, rfl⟩ := Nat.exists_eq_add_one.2 (Nat.zero_lt_of_lt hfuel)
    have hrest := ih (c :: front) (Nat.lt_of_succ_lt_succ hfuel)
    rw [List.reverse_cons, List.append_assoc, List.singleton_append] at hrest
    rw [List.flatMap_cons, List.append_assoc]
    rcases escaped_cases c with ⟨hc, hquote, hbackslash⟩ | ⟨form, hc, hform⟩
    · rw [hc, List.singleton_append, stringFrom, hrest]
      · exact hquote
      · exact hbackslash
    · rw [hc, List.cons_append, stringFrom, hform]
      exact hrest

/-- Every text is read back from its written form. -/
theorem string?_quoted (s : String) (rest : List Char) :
    string? ((quoted true s).toList ++ rest) = some (s, rest) := by
  have hlength : s.toList.length ≤ (s.toList.flatMap (escaped true)).length :=
    length_le_length_flatMap fun c _ => escaped_ne_nil c
  have hwritten : (quoted true s).toList ++ rest =
      '"' :: (s.toList.flatMap (escaped true) ++ '"' :: rest) := by
    simp [quoted]
  rw [hwritten, string?, stringFrom_escaped, List.reverse_nil, List.nil_append, Option.map_some]
  · simp only [String.ofList_toList]
  · rw [List.length_append, List.length_cons]
    omega

end Storyline.Ron
