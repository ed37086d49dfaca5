-- SUMMARY: A JSON text is cut into the tokens that it was written from.
import Mathlib.Data.List.Forall2
import Storyline.Json.Token
import Storyline.Json.Writer
import Storyline.Proofs.Text.Numeral

/-!
# Tokens of a written text

Every token is cut off from what follows it. A string closes itself: each of its characters is written in a form
that the reader takes back as one code unit (`scanString_escaped`), and as no character is half of a pair of
surrogates, the units are the characters again (`joinUnits_toNat`). A number alone goes on as long as digits
follow, so it needs something else behind it (`Ends`).

Texts are put together from parts (`Spells`): a part has its tokens wherever it stands, and so have the lines
between two brackets (`spells_bracketed`).
-/

namespace Storyline.Json

open Text

variable {c : Char} {s rest : List Char}

/-! ## Strings -/

theorem scanString_unit {a b c d : Char} {unit : Nat} (h : digits? 16 [a, b, c, d] = some unit)
    (front : List Nat) (rest : List Char) :
    scanString front ('\\' :: 'u' :: a :: b :: c :: d :: rest) = scanString (unit :: front) rest := by
  rw [scanString, h]

theorem scanString_plain (hquote : c ≠ '"') (hbackslash : c ≠ '\\') (hcontrol : ¬c.toNat < 0x20)
    (front : List Nat) (rest : List Char) :
    scanString front (c :: rest) = scanString (c.toNat :: front) rest := by
  rw [scanString]
  · simp [hcontrol, hbackslash]
  · exact hquote
  · exact fun _ _ _ _ _ heq _ => hbackslash heq
  · exact fun _ _ heq _ => hbackslash heq

theorem scanString_escaped (c : Char) (front : List Nat) (rest : List Char) :
    scanString front (escaped c ++ rest) = scanString (c.toNat :: front) rest := by
  unfold escaped
  split
  case h_8 hquote hbackslash _ _ _ _ _ =>
    split
    next hshort =>
      have hhex : hex c.toNat = [c.toNat.digitChar] := Nat.toDigits_of_lt_base hshort
      have hunit := digits?_hex 3 c.toNat
      rw [hhex] at hunit ⊢
      exact scanString_unit hunit front rest
    split
    next hlong hcontrol =>
      have hle : 16 ≤ c.toNat := Nat.le_of_not_lt hlong
      have hone : c.toNat / 16 = 1 := by omega
      have hhex : hex c.toNat = ['1', (c.toNat % 16).digitChar] := by
        rw [hex, Nat.toDigits_of_base_le (by decide) hle, hone]
        rfl
      have hunit := digits?_hex 2 c.toNat
      rw [hhex] at hunit ⊢
      exact scanString_unit hunit front rest
    next hcontrol => exact scanString_plain hquote hbackslash hcontrol front rest
  all_goals rfl

/-- What is written between the quotes is read back up to the closing quote. -/
theorem scanString_flatMap (s : List Char) (front : List Nat) (rest : List Char) :
    scanString front (s.flatMap escaped ++ '"' :: rest) = some ((s.map Char.toNat).reverse ++ front, rest) := by
  induction s generalizing front with
  | nil => rfl
  | cons c s ih =>
    rw [List.flatMap_cons, List.append_assoc, scanString_escaped, ih, List.map_cons, List.reverse_cons,
      List.append_assoc, List.singleton_append]

theorem not_surrogate (c : Char) : isHighSurrogate c.toNat = false ∧ isLowSurrogate c.toNat = false := by
  have hvalid : c.toNat.isValidChar := c.valid
  unfold isHighSurrogate isLowSurrogate
  simp only [Bool.and_eq_false_iff, decide_eq_false_iff_not]
  rcases hvalid with h | ⟨h, -⟩ <;> omega

/-- The code units of a text are joined to the text. -/
theorem joinUnits_toNat (done s : List Char) : joinUnits done (s.map Char.toNat) = some (s.reverse ++ done) := by
  induction s generalizing done with
  | nil => rfl
  | cons c s ih =>
    obtain ⟨hhigh, hlow⟩ := not_surrogate c
    cases s with
    | nil => simp [joinUnits, hhigh, hlow]
    | cons d s =>
      have hrest := ih (c :: done)
      rw [List.map_cons] at hrest
      rw [List.map_cons, List.map_cons, joinUnits, hlow, hhigh, Char.ofNat_toNat, Bool.false_and,
        if_neg Bool.false_ne_true, Bool.false_or, if_neg Bool.false_ne_true, hrest]
      simp

/-- Every text is read back from its written form. -/
theorem scan?_quoted (s : String) (rest : List Char) :
    scan? (quoted s ++ rest) = some (.string (some s), rest) := by
  have hwritten : quoted s ++ rest = '"' :: (s.toList.flatMap escaped ++ '"' :: rest) := by simp [quoted]
  have hunits : joinUnits [] (s.toList.map Char.toNat).reverse = some s.toList := by
    rw [← List.map_reverse, joinUnits_toNat, List.reverse_reverse, List.append_nil]
  rw [hwritten, scan?, scanString_flatMap, List.append_nil, Option.map_some]
  dsimp only
  rw [hunits, Option.map_some, String.ofList_toList]

/-! ## Numbers -/

/-- May a number go on with this character? -/
def isNumberChar (c : Char) : Bool :=
  isDigit c || c == '.' || c == 'e' || c == 'E'

/-- No number that stands before `rest` goes on into it. -/
def Ends (rest : List Char) : Prop :=
  ∀ c, rest.head? = some c → isNumberChar c = false

theorem ends_nil : Ends [] := by
  rintro c ⟨⟩

theorem ends_cons (hc : isNumberChar c = false) (rest : List Char) : Ends (c :: rest) := by
  rintro d ⟨⟩
  exact hc

theorem takeWhile_toDigits_append (n : Nat) (hrest : Ends rest) :
    (Nat.toDigits 10 n ++ rest).takeWhile isDigit = Nat.toDigits 10 n := by
  rw [List.takeWhile_append_of_pos fun c hc => isDigit_of_mem_toDigits hc]
  cases rest with
  | nil => exact List.append_nil _
  | cons c rest =>
    have hc : isDigit c = false := by
      have hend := hrest c rfl
      simp only [isNumberChar, Bool.or_eq_false_iff] at hend
      exact hend.1.1.1
    rw [List.takeWhile_cons, hc, if_neg Bool.false_ne_true, List.append_nil]

/-- The digits of a number begin with a zero only if it is zero. -/
theorem toDigits_of_ne_zero {n : Nat} (h : n ≠ 0) :
    ∃ d digits, Nat.toDigits 10 n = d :: digits ∧ isDigit d = true ∧ d ≠ '0' := by
  have hdigit : ∀ n < 10, n ≠ 0 → isDigit n.digitChar = true ∧ n.digitChar ≠ '0' := by decide
  induction n using Nat.strong_induction_on with
  | h n ih =>
    by_cases hn : n < 10
    · exact ⟨n.digitChar, [], Nat.toDigits_of_lt_base hn, hdigit n hn h⟩
    · have hle : 10 ≤ n := Nat.le_of_not_lt hn
      obtain ⟨d, digits, hdigits, hd⟩ := ih (n / 10) (Nat.div_lt_self (by omega) (by decide)) (by omega)
      rw [Nat.toDigits_of_base_le (by decide) hle, hdigits]
      exact ⟨d, _, rfl, hd⟩

theorem Ends.cons_iff : Ends (c :: rest) ↔ isDigit c = false ∧ c ≠ '.' ∧ c ≠ 'e' ∧ c ≠ 'E' := by
  simp [Ends, isNumberChar, and_assoc]

theorem scanNumber?_zero_append (hrest : Ends rest) : scanNumber? ('0' :: rest) = some (some 0, rest) := by
  have hzero : digits? 10 ['0'] = some 0 := rfl
  cases rest with
  | nil => rfl
  | cons c rest =>
    obtain ⟨-, hdot, he, hE⟩ := Ends.cons_iff.1 hrest
    simp [scanNumber?, hdot, he, hE, hzero]

/-- The digits of a number with its sign. -/
def signed (negative : Bool) (n : Nat) : List Char :=
  if negative then '-' :: Nat.toDigits 10 n else Nat.toDigits 10 n

theorem scanNumber?_signed_append (negative : Bool) {n : Nat} (hn : n ≠ 0) (hrest : Ends rest) :
    scanNumber? (signed negative n ++ rest) = some (some (if negative then -(n : Int) else n), rest) := by
  have hnumber : digits? 10 (Nat.toDigits 10 n) = some n := digits?_toDigits (by decide) (by decide) n
  have htake := takeWhile_toDigits_append n hrest
  obtain ⟨d, digits, hdigits, hd, hzero⟩ := toDigits_of_ne_zero hn
  have hminus : d ≠ '-' := by
    rintro rfl
    cases hd
  rw [hdigits] at hnumber htake
  rw [List.cons_append] at htake
  rw [signed, hdigits]
  -- what follows the digits must be looked at: neither a fraction nor an exponent begins there
  cases rest with
  | nil =>
    rw [List.append_nil] at htake
    cases negative <;> simp [scanNumber?, hzero, hminus, hnumber, htake, hn]
  | cons c rest =>
    obtain ⟨-, hdot, he, hE⟩ := Ends.cons_iff.1 hrest
    cases negative <;> simp [scanNumber?, hdot, he, hE, hzero, hminus, hnumber, htake, hn]

/-- A number is read up to where it ends. -/
theorem scanNumber?_toString_append (n : Int) (hrest : Ends rest) :
    scanNumber? ((toString n).toList ++ rest) = some (some n, rest) := by
  match n with
  | .ofNat 0 => exact scanNumber?_zero_append hrest
  | .ofNat (n + 1) =>
    rw [Int.ofNat_eq_natCast, toList_toString_natCast]
    exact scanNumber?_signed_append false (Nat.succ_ne_zero n) hrest
  | .negSucc n =>
    rw [toList_toString_negSucc]
    exact scanNumber?_signed_append true (Nat.succ_ne_zero n) hrest

/-- May a number begin with this character? -/
def beginsNumber (c : Char) : Bool :=
  isDigit c || c == '-'

theorem ne_of_beginsNumber {d : Char} (hc : beginsNumber c = true) (hd : beginsNumber d = false) : c ≠ d := by
  rintro rfl
  exact Bool.false_ne_true (hd.symm.trans hc)

theorem isSpace_of_beginsNumber (hc : beginsNumber c = true) : isSpace c = false := by
  simp [isSpace, ne_of_beginsNumber (d := ' ') hc rfl, ne_of_beginsNumber (d := '\n') hc rfl,
    ne_of_beginsNumber (d := '\t') hc rfl, ne_of_beginsNumber (d := '\r') hc rfl]

theorem toList_toString_eq_cons (n : Int) :
    ∃ c digits, (toString n).toList = c :: digits ∧ beginsNumber c = true := by
  cases n with
  | ofNat n =>
    obtain ⟨c, digits, hdigits, hc, -⟩ := toDigits_eq_cons n
    have hbegins : beginsNumber c = true := by rw [beginsNumber, hc, Bool.true_or]
    exact ⟨c, digits, (toList_toString_natCast n).trans hdigits, hbegins⟩
  | negSucc n => exact ⟨'-', _, toList_toString_negSucc n, rfl⟩

/-- Nothing but a number begins like a number. -/
theorem scan?_of_beginsNumber (hc : beginsNumber c = true) (s : List Char) :
    scan? (c :: s) = (scanNumber? (c :: s)).map fun read => (.number read.1, read.2) := by
  unfold scan?
  split
  case h_11 => rfl
  all_goals exact absurd (List.cons.inj ‹_›).1 (ne_of_beginsNumber hc rfl)

/-! ## Tokens of a text -/

/-- The text is cut into these tokens, with any fuel that suffices. -/
def Lexes (text : List Char) (tokens : List Token) : Prop :=
  ∀ front fuel, text.length ≤ fuel → tokensFrom front fuel text = some (front.reverse ++ tokens)

theorem lexes_nil : Lexes [] [] := by
  intro front fuel _
  rw [tokensFrom, List.append_nil]

theorem Lexes.tokens?_eq {tokens : List Token} (h : Lexes s tokens) : tokens? s = some tokens :=
  h [] s.length (Nat.le_refl _)

theorem Lexes.blank {tokens : List Token} (hc : isSpace c = true) (h : Lexes rest tokens) :
    Lexes (c :: rest) tokens := by
  intro front fuel hfuel
  obtain ⟨fuel, rfl⟩ := Nat.exists_eq_add_one.2 (Nat.zero_lt_of_lt hfuel)
  rw [tokensFrom, if_pos hc]
  exact h front fuel (Nat.le_of_succ_le_succ hfuel)

theorem Lexes.token {token : Token} {tokens : List Token} (hc : isSpace c = false)
    (hscan : scan? (c :: s) = some (token, rest)) (hlength : rest.length ≤ s.length)
    (h : Lexes rest tokens) : Lexes (c :: s) (token :: tokens) := by
  intro front fuel hfuel
  obtain ⟨fuel, rfl⟩ := Nat.exists_eq_add_one.2 (Nat.zero_lt_of_lt hfuel)
  rw [tokensFrom, hc, if_neg Bool.false_ne_true, hscan]
  dsimp only
  rw [h _ fuel (Nat.le_trans hlength (Nat.le_of_succ_le_succ hfuel)), List.reverse_cons, List.append_assoc,
    List.singleton_append]

/-! ## Texts put together -/

/-- The text has these tokens wherever it stands, if no number at its end goes on behind it. -/
def Spells (text : List Char) (tokens : List Token) : Prop :=
  ∀ rest later, Ends rest → Lexes rest later → Lexes (text ++ rest) (tokens ++ later)

/-- The character alone is this token. -/
structure IsMark (c : Char) (token : Token) : Prop where
  visible : isSpace c = false
  alone : ∀ rest, scan? (c :: rest) = some (token, rest)

section Spells

variable {text next blanks : List Char} {token : Token} {tokens more : List Token}

theorem Spells.tokens?_eq (h : Spells text tokens) : tokens? text = some tokens := by
  have hlexes := h [] [] ends_nil lexes_nil
  rw [List.append_nil, List.append_nil] at hlexes
  exact hlexes.tokens?_eq

theorem spells_nil : Spells [] [] := fun _ _ _ hlater => hlater

theorem Spells.blanks_append (hblanks : ∀ c ∈ blanks, isSpace c = true) (h : Spells text tokens) :
    Spells (blanks ++ text) tokens := by
  intro rest later hrest hlater
  induction blanks with
  | nil => exact h rest later hrest hlater
  | cons c blanks ih =>
    obtain ⟨hc, hblanks⟩ := List.forall_mem_cons.1 hblanks
    exact (ih hblanks).blank hc

theorem Spells.mark (hmark : IsMark c token) (h : Spells text tokens) : Spells (c :: text) (token :: tokens) :=
  fun rest later hrest hlater =>
    (h rest later hrest hlater).token hmark.visible (hmark.alone _) (Nat.le_refl _)

theorem Ends.append (h : Ends text) (hrest : Ends rest) : Ends (text ++ rest) := by
  cases text with
  | nil => exact hrest
  | cons c text => exact ends_cons (h c rfl) (text ++ rest)

theorem Spells.append (h : Spells text tokens) (hends : Ends next) (hnext : Spells next more) :
    Spells (text ++ next) (tokens ++ more) := by
  intro rest later hrest hlater
  rw [List.append_assoc, List.append_assoc]
  exact h _ _ (hends.append hrest) (hnext rest later hrest hlater)

theorem spells_of_scan? (hc : isSpace c = false)
    (hscan : ∀ rest, Ends rest → scan? (c :: (s ++ rest)) = some (token, rest)) : Spells (c :: s) [token] := by
  intro rest later hrest hlater
  have hlength : rest.length ≤ (s ++ rest).length := by
    rw [List.length_append]
    exact Nat.le_add_left _ _
  exact hlater.token hc (hscan rest hrest) hlength

theorem spells_quoted (s : String) : Spells (quoted s) [.string (some s)] :=
  spells_of_scan? rfl fun rest _ => scan?_quoted s rest

theorem spells_toString (n : Int) : Spells (toString n).toList [.number (some n)] := by
  obtain ⟨c, digits, hwritten, hc⟩ := toList_toString_eq_cons n
  rw [hwritten]
  apply spells_of_scan? (isSpace_of_beginsNumber hc)
  intro rest hrest
  have hnumber := scanNumber?_toString_append n hrest
  rw [hwritten, List.cons_append] at hnumber
  rw [scan?_of_beginsNumber hc, hnumber]
  rfl

end Spells

/-! ## Items between brackets -/

theorem isSpace_of_mem_newLine {depth : Nat} (h : c ∈ newLine depth) : isSpace c = true := by
  rcases List.mem_cons.1 h with rfl | hblank
  · rfl
  · rw [List.eq_of_mem_replicate hblank]
    rfl

theorem spells_lines (depth : Nat) {texts : List (List Char)} {parts : List (List Token)}
    (h : List.Forall₂ Spells texts parts) :
    Spells ([','].intercalate (texts.map (newLine depth ++ ·))) ([Token.comma].intercalate parts) := by
  have hcomma : IsMark ',' .comma := ⟨rfl, fun _ => rfl⟩
  induction h with
  | nil => exact spells_nil
  | @cons text tokens texts parts htext hrest ih =>
    have hline : Spells (newLine depth ++ text) tokens := htext.blanks_append fun _ => isSpace_of_mem_newLine
    cases hrest with
    | nil =>
      rw [List.map_cons, List.map_nil, List.intercalate_singleton, List.intercalate_singleton]
      exact hline
    | cons _ _ =>
      rw [List.map_cons] at ih
      rw [List.map_cons, List.map_cons, List.intercalate_cons_cons, List.intercalate_cons_cons,
        List.append_assoc (newLine depth ++ text), List.append_assoc tokens]
      exact hline.append (ends_cons rfl _) (ih.mark hcomma)

/-- The tokens of items between brackets. -/
def enclosed (opening closing : Token) (parts : List (List Token)) : List Token :=
  opening :: ([Token.comma].intercalate parts ++ [closing])

theorem spells_bracketed {opening closing : Char} {openingToken closingToken : Token} (depth : Nat)
    {texts : List (List Char)} {parts : List (List Token)} (hopening : IsMark opening openingToken)
    (hclosing : IsMark closing closingToken) (h : List.Forall₂ Spells texts parts) :
    Spells (bracketed opening closing depth texts) (enclosed openingToken closingToken parts) := by
  have hend : Spells (newLine depth ++ [closing]) [closingToken] :=
    (spells_nil.mark hclosing).blanks_append fun _ => isSpace_of_mem_newLine
  cases h with
  | nil => exact (spells_nil.mark hclosing).mark hopening
  | cons htext hrest =>
    rw [bracketed, List.cons_append, List.cons_append, List.append_assoc]
    · exact ((spells_lines (depth + 1) (.cons htext hrest)).append (ends_cons rfl _) hend).mark hopening
    · rintro ⟨⟩

end Storyline.Json
