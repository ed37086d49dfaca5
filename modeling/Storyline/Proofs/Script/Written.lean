-- SUMMARY: Headers, jumps, offers and narrated lines are read as what they were written for.
import Storyline.Compose
import Storyline.Proofs.Script.Tags

/-!
# Written lines

What a line is read as, for the lines that a composed document has besides the bodies: headers, jumps, the
marker of a menu and its numbered offers, and lines of the narrator. The fields in them are free texts, and
the fixed words may stand in them again. What decides is always the word at the end of the line, or the last
arrow in it, because an arrow before that is followed by more than one word.
-/

namespace Storyline

open Text

namespace Script

variable {config : ScriptConfig} {c : Char} {word s t rest : List Char}

/-! ## Headers -/

/-- A word without blanks does not begin before a blank and end behind it. -/
theorem after?_append_blank (hword : ∀ c ∈ word, isBlank c = false) (hc : isBlank c = true)
    (hs : after? word s = none) : after? word (s ++ c :: rest) = none := by
  rw [Option.eq_none_iff_forall_ne_some]
  intro left hleft
  rcases List.append_eq_append_iff.1 (after?_eq_some_iff.1 hleft) with
    ⟨front, rfl, hrest⟩ | ⟨front, rfl, -⟩
  · cases front with
    | nil =>
      rw [List.append_nil] at hs
      cases hs.symm.trans (after?_eq_some_iff.2 (List.append_nil s).symm)
    | cons first front =>
      cases hrest
      have hfirst := hword c (by simp)
      rw [hc] at hfirst
      cases hfirst
  · cases hs.symm.trans (after?_eq_some_iff.2 rfl)

theorem after?_of_not_occurs (hs : occurs word s = false) (ht : t <:+ s) : after? word t = none := by
  induction s with
  | nil =>
    obtain rfl := List.suffix_nil.1 ht
    cases word with
    | nil => cases hs
    | cons => rfl
  | cons c s ih =>
    rw [occurs, Bool.or_eq_false_iff, Option.isSome_eq_false_iff, Option.isNone_iff_eq_none] at hs
    rcases List.suffix_cons_iff.1 ht with rfl | ht
    · exact hs.1
    · exact ih hs.2 ht

/-- Can this be the name in a header line? -/
structure IsHeading (id : NodeId) : Prop extends IsLine id.toList where
  noRule : occurs ['=', '=', '='] id.toList = false

instance (id : NodeId) : Decidable (IsHeading id) :=
  decidable_of_iff (IsLine id.toList ∧ occurs ['=', '=', '='] id.toList = false)
    ⟨fun ⟨hline, hrule⟩ => ⟨hline, hrule⟩, fun h => ⟨h.toIsLine, h.noRule⟩⟩

/-- The name in a header ends at the `===` behind it. -/
theorem beforeRule?_append (hs : s ≠ []) (hlast : ∀ c, s.getLast? = some c → isBlank c = false)
    (hrule : occurs ['=', '=', '='] s = false) :
    beforeRule? (s ++ [' ', '=', '=', '=']) = some s := by
  induction s with
  | nil => exact absurd rfl hs
  | cons c rest ih =>
    rw [List.cons_append, beforeRule?]
    cases rest with
    | nil => rfl
    | cons next rest =>
      have hfull : trimLeft (next :: rest) ≠ [] := by
        intro hblank
        have hend := List.getLast?_eq_some_getLast (List.cons_ne_nil next rest)
        have hnot := hlast _ (by rw [List.getLast?_cons_cons]; exact hend)
        rw [trimLeft_eq_nil_iff.1 hblank _ (List.mem_of_getLast? hend)] at hnot
        cases hnot
      have hsuffix : trimLeft (next :: rest) <:+ c :: next :: rest :=
        (List.dropWhile_suffix _).trans (List.suffix_cons c _)
      have hsign : isBlank '=' = false := rfl
      have hnone : after? ['=', '=', '='] (trimLeft (next :: rest ++ [' ', '=', '=', '='])) = none := by
        rw [trimLeft_append_of_ne_nil hfull]
        exact after?_append_blank (by simp [hsign]) rfl (after?_of_not_occurs hrule hsuffix)
      have hlater : occurs ['=', '=', '='] (next :: rest) = false := by
        rw [occurs, Bool.or_eq_false_iff] at hrule
        exact hrule.2
      rw [hnone, ih (List.cons_ne_nil next rest) (by simpa using hlast) hlater]
      rfl

theorem header?_header {id : NodeId} (h : IsHeading id) :
    header? ("=== Node: ".toList ++ id.toList ++ " ===".toList) = some id := by
  have hrule : after? ['=', '=', '='] ("=== Node: ".toList ++ id.toList ++ " ===".toList) =
      some (" Node: ".toList ++ id.toList ++ " ===".toList) := rfl
  have hword : afterCaseless? "node:".toList
      (trimLeft (" Node: ".toList ++ id.toList ++ " ===".toList)) =
        some (' ' :: (id.toList ++ [' ', '=', '=', '='])) := rfl
  have hinner : trimLeft (' ' :: (id.toList ++ [' ', '=', '=', '='])) =
      id.toList ++ [' ', '=', '=', '='] := by
    have hblank : ∀ c ∈ [' '], isBlank c = true := List.forall_mem_singleton.2 rfl
    have hfirst : trimLeft id.toList = id.toList := trimLeft_of_head h.trimmed.1
    have hne : trimLeft id.toList ≠ [] := hfirst.symm ▸ h.nonempty
    rw [← List.singleton_append, trimLeft_blanks_append hblank, trimLeft_append_of_ne_nil hne, hfirst]
  have hname := beforeRule?_append h.nonempty h.trimmed.2 h.noRule
  simp only [header?, bind, Option.bind, hrule, hword, hinner, hname, trim_of_trimmed h.trimmed,
    String.ofList_toList]

theorem isLine_header {id : NodeId} (h : IsHeading id) : IsLine (Compose.header id).toList := by
  have hfront : '\n' ∉ "=== Node: ".toList ++ id.toList := by
    have hwords : '\n' ∉ "=== Node: ".toList := by decide
    rw [List.mem_append]
    rintro (hmem | hmem)
    · exact hwords hmem
    · exact h.oneLine hmem
  rw [Compose.header, String.toList_append, String.toList_append]
  exact isLine_append ⟨'=', rfl, rfl⟩ ⟨'=', rfl, rfl⟩ hfront (by decide)

theorem lineKind_header {id : NodeId} (h : IsHeading id) :
    lineKind (Compose.header id).toList = .header id := by
  have hline : (Compose.header id).toList =
      "=== Node: ".toList ++ id.toList ++ " ===".toList := by
    simp only [Compose.header, String.toList_append]
  have hfull : ("=== Node: ".toList ++ id.toList ++ " ===".toList).isEmpty = false := rfl
  have hmarker : isEndMarker ("=== Node: ".toList ++ id.toList ++ " ===".toList) = false := rfl
  rw [hline, lineKind, hfull, hmarker, header?_header h]
  rfl

/-! ## Jumps and markers -/

/-- Is this a word, not empty and without blanks? -/
structure IsWord (s : List Char) : Prop where
  nonempty : s ≠ []
  noBlank : ∀ c ∈ s, isBlank c = false

/-- Is this a text of one line that is not blank? -/
structure IsLabel (s : List Char) : Prop where
  full : ∃ c ∈ s, isBlank c = false
  oneLine : '\n' ∉ s

instance (s : List Char) : Decidable (IsWord s) :=
  decidable_of_iff (s ≠ [] ∧ s.all (!isBlank ·) = true)
    ⟨fun ⟨hne, hblank⟩ => ⟨hne, by simpa using hblank⟩, fun h => ⟨h.nonempty, by simpa using h.noBlank⟩⟩

instance (s : List Char) : Decidable (IsLabel s) :=
  decidable_of_iff (s.any (!isBlank ·) = true ∧ '\n' ∉ s)
    ⟨fun ⟨hfull, hline⟩ => ⟨by simpa using hfull, hline⟩, fun h => ⟨by simpa using h.full, h.oneLine⟩⟩

theorem IsWord.trimmed (h : IsWord s) : Trimmed s :=
  ⟨fun c hc => h.noBlank c (List.mem_of_head? hc), fun c hc => h.noBlank c (List.mem_of_getLast? hc)⟩

theorem IsWord.oneLine (h : IsWord s) : '\n' ∉ s := by
  intro hmem
  cases h.noBlank _ hmem

theorem IsWord.isLine (h : IsWord s) : IsLine s :=
  ⟨h.nonempty, h.trimmed, h.oneLine⟩

theorem IsWord.isHeading {id : NodeId} (h : IsWord id.toList)
    (hrule : occurs ['=', '=', '='] id.toList = false) : IsHeading id :=
  ⟨h.isLine, hrule⟩

theorem IsLabel.of_isLine (h : IsLine s) : IsLabel s where
  full := by
    obtain ⟨c, rest, rfl⟩ := List.exists_cons_of_ne_nil h.nonempty
    exact ⟨c, List.mem_cons_self, h.trimmed.1 c rfl⟩
  oneLine := h.oneLine

/-- The line of a jump. -/
def jumpText (target : List Char) : List Char :=
  "[JUMP: ".toList ++ (target ++ [']'])

theorem lineKind_jumpText (target : List Char) : lineKind (jumpText target) = .body := rfl

theorem readLine?_jumpText (config : ScriptConfig) (count : Nat) (h : IsLine s) :
    readLine? config count (jumpText s) = some (.jump (String.ofList s)) :=
  readLine?_eq_some_iff.2 ⟨.jump, jump?_directive h⟩

theorem readLine?_openMenu (config : ScriptConfig) (count : Nat) :
    readLine? config count "[CHOICE]".toList = some .openMenu := rfl

/-! ## Numbered offers -/

/-- What an offer has behind its text. -/
def arrowTo (target : List Char) : List Char :=
  ' ' :: '-' :: '>' :: ' ' :: target

theorem arrowTarget?_eq_none
    (h : ∀ target, trimLeft s = '-' :: '>' :: target ∨ trimLeft s = '→' :: target →
      ∃ c ∈ trimLeft target, isBlank c = true) : arrowTarget? s = none := by
  unfold arrowTarget?
  split
  · rename_i target hs
    simpa using fun _ => h target (.inl hs)
  · rename_i target hs
    simpa using fun _ => h target (.inr hs)
  · rfl

/-- Behind an arrow in the text of an offer stands the arrow behind the text, so more than one word. -/
theorem arrowTarget?_text (hs : ∃ c ∈ s, isBlank c = false) (t : List Char) :
    arrowTarget? (s ++ arrowTo t) = none := by
  have hfull : trimLeft s ≠ [] := trimLeft_ne_nil_iff.2 hs
  have hseveral (front : List Char) : ∃ c ∈ trimLeft (front ++ arrowTo t), isBlank c = true := by
    have harrow : front ++ arrowTo t = (front ++ [' ']) ++ '-' :: '>' :: ' ' :: t := by
      rw [List.append_assoc]
      rfl
    rw [harrow, trimLeft_append_of_head _ (by rintro c ⟨⟩; rfl)]
    exact ⟨' ', by simp, rfl⟩
  apply arrowTarget?_eq_none
  intro target htarget
  rw [trimLeft_append_of_ne_nil hfull] at htarget
  generalize trimLeft s = front at hfull htarget
  match front with
  | [] => exact absurd rfl hfull
  | [c] =>
    rcases htarget with htarget | htarget
    · cases htarget
    · cases htarget
      exact hseveral []
  | c :: next :: front =>
    rcases htarget with htarget | htarget
    · cases htarget
      exact hseveral front
    · cases htarget
      exact hseveral (next :: front)

theorem arrowTarget?_blanks (hs : ∀ c ∈ s, isBlank c = true) (ht : IsWord t) :
    arrowTarget? (s ++ arrowTo t) = some t := by
  have harrow : trimLeft (s ++ arrowTo t) = '-' :: '>' :: ' ' :: t :=
    trimLeft_blanks_append hs _
  have htarget : trimLeft (' ' :: t) = t := trimLeft_of_head ht.trimmed.1
  simpa [arrowTarget?, harrow, htarget, ht.nonempty] using ht.noBlank

/-- What is trimmed off at the end of a text does not depend on its beginning. -/
theorem trimRight_cons_congr (h : trimRight s = trimRight t) :
    trimRight (c :: s) = trimRight (c :: t) := by
  obtain ⟨blanks, hblanks, hs⟩ := exists_blanks s
  obtain ⟨blanks', hblanks', ht⟩ := exists_blanks t
  rw [hs, ht, h, ← List.cons_append, ← List.cons_append, trimRight_append_blanks _ hblanks,
    trimRight_append_blanks _ hblanks']

/-- The text of an offer ends at the arrow behind it. -/
theorem splitTarget_text (hs : ∃ c ∈ s, isBlank c = false) (ht : IsWord t) :
    ∃ text, splitTarget (s ++ arrowTo t) = (text, some t) ∧ text.head? = s.head? ∧
      trimRight text = trimRight s := by
  induction s with
  | nil =>
    obtain ⟨c, hc, -⟩ := hs
    cases hc
  | cons c rest ih =>
    rw [List.cons_append, splitTarget]
    by_cases hrest : ∃ c ∈ rest, isBlank c = false
    · obtain ⟨text, hsplit, -, htrim⟩ := ih hrest
      rw [arrowTarget?_text hrest, hsplit]
      exact ⟨c :: text, rfl, rfl, trimRight_cons_congr htrim⟩
    · have hblank : ∀ c ∈ rest, isBlank c = true := by simpa using hrest
      rw [arrowTarget?_blanks hblank ht]
      exact ⟨[c], rfl, rfl, (trimRight_append_blanks [c] hblank).symm⟩

/-- The target of an offer is always one word. -/
theorem isWord_of_arrowTarget? (h : arrowTarget? s = some t) : IsWord t := by
  have hbehind : ∃ rest, (if (trimLeft rest).isEmpty || (trimLeft rest).any isBlank then none
      else some (trimLeft rest)) = some t := by
    unfold arrowTarget? at h
    split at h
    · exact ⟨_, h⟩
    · exact ⟨_, h⟩
    · cases h
  obtain ⟨rest, hrest⟩ := hbehind
  split at hrest
  · cases hrest
  · rename_i hword
    cases hrest
    simp only [Bool.or_eq_true, List.isEmpty_iff, List.any_eq_true, not_or] at hword
    refine ⟨hword.1, ?_⟩
    intro c hc
    exact eq_false_of_ne_true fun hblank => hword.2 ⟨c, hc, hblank⟩

theorem isWord_of_splitTarget (h : (splitTarget s).2 = some t) : IsWord t := by
  induction s with
  | nil => cases h
  | cons c rest ih =>
    rw [splitTarget] at h
    split at h
    · rename_i target harrow
      cases h
      exact isWord_of_arrowTarget? harrow
    · exact ih h

/-- The line of an offer. -/
def offerText (number : Nat) (label target : List Char) : List Char :=
  Nat.toDigits 10 number ++ '.' :: ' ' :: (label ++ arrowTo target)

/-- What the line of an offer is read as. The text and the target are parted at an arrow that one word follows. -/
def offerRead (number : Nat) (label target : List Char) : Instruction :=
  .offer number (String.ofList (trim (splitTarget (trimLeft label ++ arrowTo target)).1))
    ((splitTarget (trimLeft label ++ arrowTo target)).2.map String.ofList)

theorem numberedOffer?_offerText {number : Nat} (hnumber : fitsWord number = true) (hs : IsLabel s)
    (t : List Char) : numberedOffer? (offerText number s t) = some (offerRead number s t) := by
  have hdigits : ∀ c ∈ Nat.toDigits 10 number, isDigit c = true := by
    intro c hc
    exact Nat.isDigit_of_mem_toDigits (by decide) (Nat.le_refl 10) hc
  have htake : (offerText number s t).takeWhile isDigit = Nat.toDigits 10 number := by
    rw [offerText, List.takeWhile_append_of_pos hdigits]
    exact List.append_nil _
  have hdrop : trimLeft ((offerText number s t).dropWhile isDigit) =
      '.' :: ' ' :: (s ++ arrowTo t) := by
    rw [offerText, List.dropWhile_append_of_pos hdigits]
    rfl
  have hnumeral : digits? 10 (Nat.toDigits 10 number) = some number :=
    digits?_toDigits (by decide) (by decide) number
  have hpoint : ['.', ')', '、', '．'].contains '.' = true := rfl
  have hfull : trimLeft s ≠ [] := trimLeft_ne_nil_iff.2 hs.full
  have hbody : trimLeft (' ' :: (s ++ arrowTo t)) = trimLeft s ++ arrowTo t :=
    trimLeft_append_of_ne_nil hfull _
  have hne : (trimLeft s ++ arrowTo t).isEmpty = false := by simp [hfull]
  simp only [numberedOffer?, bind, Option.bind, htake, hnumeral, hdrop, hnumber, hpoint, hbody, hne]
  rfl

/-- A target of one word is read as it was written, and so is the text in front of it. -/
theorem offerRead_word (number : Nat) (hs : IsLabel s) (ht : IsWord t) :
    offerRead number s t = .offer number (String.ofList (trim s)) (some (String.ofList t)) := by
  have hfull : trimLeft s ≠ [] := trimLeft_ne_nil_iff.2 hs.full
  have hletter : ∃ c ∈ trimLeft s, isBlank c = false := by
    obtain ⟨c, rest, hcons⟩ := List.exists_cons_of_ne_nil hfull
    exact ⟨c, by simp [hcons], isBlank_head_trimLeft (by rw [hcons, List.head?_cons])⟩
  obtain ⟨text, hsplit, hhead, htrim⟩ := splitTarget_text hletter ht
  have htext : trim text = trim s := by
    rw [trim, trimLeft_of_head fun c hc => isBlank_head_trimLeft (hhead ▸ hc), htrim, trim]
  rw [offerRead, hsplit, htext, Option.map_some]

/-- The line of an offer leads where it was written to lead exactly if that is one word. -/
theorem offerRead_leads_iff (number : Nat) (hs : IsLabel s) (t : List Char) :
    (offerRead number s t).navigationTarget = some (String.ofList t) ↔ IsWord t := by
  constructor
  · intro htarget
    obtain ⟨word, hword, hsame⟩ := Option.map_eq_some_iff.1 htarget
    rw [← String.ofList_injective hsame]
    exact isWord_of_splitTarget hword
  · intro ht
    rw [offerRead_word number hs ht]
    rfl

/-- The last word is taken for the target if an arrow stands in front of it. -/
example : offerRead 1 "Go".toList "out -> in".toList = .offer 1 "Go -> out" (some "in") := by
  decide +kernel

/-- A line that does not begin with an equality sign is a line of a body. -/
theorem lineKind_of_head (h : s.head? = some c) (hc : c ≠ '=') : lineKind s = .body := by
  obtain ⟨rest, rfl⟩ := List.head?_eq_some_iff.1 h
  have hnone : after? ['=', '=', '='] (c :: rest) = none := by rw [after?, if_neg hc]
  have hmarker : isEndMarker (c :: rest) = false := by rw [isEndMarker, hnone]; rfl
  have hheader : header? (c :: rest) = none := by simp only [header?, bind, Option.bind, hnone]
  rw [lineKind, hmarker, hheader]
  rfl

theorem head?_offerText (number : Nat) (s t : List Char) :
    ∃ c, (offerText number s t).head? = some c ∧ c.isDigit = true := by
  obtain ⟨c, rest, hdigits⟩ :=
    List.exists_cons_of_ne_nil (Nat.toDigits_ne_nil (n := number) (b := 10))
  refine ⟨c, by rw [offerText, hdigits]; rfl, ?_⟩
  exact Nat.isDigit_of_mem_toDigits (by decide) (Nat.le_refl 10) (hdigits ▸ List.mem_cons_self)

theorem lineKind_offerText (number : Nat) (s t : List Char) :
    lineKind (offerText number s t) = .body := by
  obtain ⟨c, hhead, hdigit⟩ := head?_offerText number s t
  apply lineKind_of_head hhead
  rintro rfl
  cases hdigit

/-! ## Narrated lines -/

/-- A line in which the narrator tells something. -/
def narratedText (narrator text : List Char) : List Char :=
  "<content id=\"".toList ++ (narrator ++ '"' :: '>' :: (text ++ "</content>".toList))

theorem readLine?_narratedText (count : Nat) {narrator text : List Char} (hnarrator : IsLabel narrator)
    (hquote : '"' ∉ narrator) (hconfig : config.isNarrator (String.ofList (trim narrator)) = true)
    (htext : IsLabel text) :
    readLine? config count (narratedText narrator text) =
      some (.narration (String.ofList (trim text))) := by
  have hline : narratedText narrator text = tagText "content" narrator text := rfl
  have hspoken : lineOf config (trim narrator) (trim text) = .narration (String.ofList (trim text)) := by
    simp only [lineOf, hconfig, if_true]
  rw [hline, ← hspoken]
  exact readLine?_eq_some_iff.2 ⟨.content, content?_tagText config (trim_ne_nil_iff.2 hnarrator.full) hquote
    (trim_ne_nil_iff.2 htext.full) htext.oneLine⟩

end Script

end Storyline
