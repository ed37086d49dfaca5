-- SUMMARY: No line can be read by two rules, so the order in which the rules are tried makes no difference.
import Storyline.Proofs.Text.Lines
import Storyline.Script

/-!
# Openings of lines

A rule other than that of plain dialogue reads only lines that open in one of a few ways, and no way in which
one rule wants a line to open goes on to a way of another rule. A speaker begins with none of the brackets that
all of these ways begin with. So a line can be read by one rule at most, whatever else stands in it, and rules
that are tried in another order read every document alike.
-/

namespace Storyline

open Text

/-! ## Words at the front of a line -/

namespace Text

variable {a b c : Char} {s word word' : List Char}

/-- The letters that a character stands for when case is ignored: there is one at most. -/
theorem eq_of_foldsTo (ha : a ≠ 'ſ') (hb : b ≠ 'ſ') (hac : foldsTo a c = true)
    (hbc : foldsTo b c = true) : a = b := by
  have hlong : 'ſ'.toLower = 'ſ' := rfl
  simp only [foldsTo, Bool.or_eq_true, Bool.and_eq_true, beq_iff_eq] at hac hbc
  rcases hac with rfl | ⟨rfl, rfl⟩
  · rcases hbc with hbc | ⟨rfl, rfl⟩
    · exact hbc
    · exact absurd hlong ha
  · rcases hbc with rfl | ⟨rfl, -⟩
    · exact absurd hlong hb
    · rfl

/-- A character below the letters in lower case is written in one way. -/
theorem eq_of_toLower (hb : b.toNat < 'a'.toNat) (h : c.toLower = b) : c = b := by
  unfold Char.toLower at h
  split at h
  · rename_i hupper
    subst h
    have hbounds : 'A'.val.toNat = 65 ∧ 'Z'.val.toNat = 90 ∧ 'a'.toNat = 97 :=
      ⟨rfl, rfl, rfl⟩
    have hshift : ('a'.val - 'A'.val).toNat = 32 := rfl
    simp only [Char.toNat, UInt32.le_iff_toNat_le, ge_iff_le, UInt32.toNat_add] at hb hupper hbounds
    omega
  · exact h

/-- Of two words at the front of one text, the longer one goes on where the other ends. -/
theorem prefix_or_prefix_of_afterCaseless? (hword : 'ſ' ∉ word) (hword' : 'ſ' ∉ word')
    (h : (afterCaseless? word s).isSome = true) (h' : (afterCaseless? word' s).isSome = true) :
    word <+: word' ∨ word' <+: word := by
  induction word generalizing word' s with
  | nil => exact .inl List.nil_prefix
  | cons a word ih =>
    cases word' with
    | nil => exact .inr List.nil_prefix
    | cons b word' =>
      cases s with
      | nil => cases h
      | cons c s =>
        obtain ⟨ha, hrest⟩ := List.ne_and_not_mem_of_not_mem_cons hword
        obtain ⟨hb, hrest'⟩ := List.ne_and_not_mem_of_not_mem_cons hword'
        rw [afterCaseless?] at h h'
        split at h
        · rename_i hac
          split at h'
          · rename_i hbc
            rw [eq_of_foldsTo ha.symm hb.symm hac hbc, List.cons_prefix_cons, List.cons_prefix_cons]
            exact (ih hrest hrest' h h').imp (⟨rfl, ·⟩) (⟨rfl, ·⟩)
          · cases h'
        · cases h

theorem afterCaseless?_append (word word' s : List Char) :
    afterCaseless? (word ++ word') s = (afterCaseless? word s).bind (afterCaseless? word') := by
  induction word generalizing s with
  | nil => rfl
  | cons a word ih =>
    cases s with
    | nil => rfl
    | cons c s =>
      rw [List.cons_append, afterCaseless?, afterCaseless?]
      split
      · exact ih s
      · rfl

/-- A word in lower case is found as it is written. -/
theorem afterCaseless?_of_after? {rest : List Char} (hword : word.all (fun c => foldsTo c c) = true)
    (h : after? word s = some rest) : afterCaseless? word s = some rest := by
  rw [after?_eq_some_iff] at h
  subst h
  induction word with
  | nil => rfl
  | cons a word ih =>
    rw [List.all_cons, Bool.and_eq_true] at hword
    rw [List.cons_append, afterCaseless?, if_pos hword.1]
    exact ih hword.2

end Text

/-! ## How rules want lines to open -/

/-- The ways in which the lines of a rule open, in lower case. Those of plain dialogue have none in common. -/
def LineRule.openings : LineRule → List (List Char)
  | scene => ["<scene>".toList, "[scene:".toList]
  | conditional => ["[if:".toList, "[else]".toList, "[end".toList]
  | image => ["<image".toList, "[image:".toList]
  | content => ["<content".toList]
  | jump => ["[jump:".toList]
  | choice => ["<choice".toList, "[choice]".toList]
  | plainDialogue => []

theorem LineRule.mem_precedence (rule : LineRule) : rule ∈ precedence := by
  cases rule <;> decide

/-- No way in which a rule wants lines to open goes on to one of another rule. -/
theorem LineRule.eq_of_openings {rule rule' : LineRule} {word word' : List Char}
    (hword : word ∈ rule.openings) (hword' : word' ∈ rule'.openings) (h : word <+: word') :
    rule = rule' := by
  have hapart : precedence.all (fun rule => precedence.all fun rule' => rule.openings.all fun word =>
      rule'.openings.all fun word' => !word.isPrefixOf word' || rule == rule') = true := rfl
  simp only [List.all_eq_true] at hapart
  have hsame := hapart rule rule.mem_precedence rule' rule'.mem_precedence word hword word' hword'
  rw [List.isPrefixOf_iff_prefix.2 h] at hsame
  exact eq_of_beq hsame

/-- Does the line open with the word, when case is ignored? -/
def OpensWith (word line : List Char) : Prop :=
  (afterCaseless? word line).isSome = true

/-- Does the line open in one of the ways of the rule? -/
def LineRule.MayOpen (rule : LineRule) (line : List Char) : Prop :=
  ∃ word ∈ rule.openings, OpensWith word line

namespace Script

variable {config : ScriptConfig} {next : Nat} {line rest : List Char} {name : String}

theorem opensWith_append {word word' : List Char} (h : afterCaseless? word line = some rest)
    (h' : OpensWith word' rest) : OpensWith (word ++ word') line := by
  rw [OpensWith, afterCaseless?_append, h]
  exact h'

theorem opensWith_of_after? {word : List Char} (hword : word.all (fun c => foldsTo c c) = true)
    (h : after? word line = some rest) : OpensWith word line := by
  rw [OpensWith, afterCaseless?_of_after? hword h]
  rfl

theorem opensWith_of_directive? {inner : List Char} (h : directive? name line = some inner) :
    OpensWith ('[' :: (name.toList ++ [':'])) line := by
  simp only [directive?, Option.bind_eq_bind, Option.bind_eq_some_iff] at h
  obtain ⟨behind, hbracket, rest, hname, _, hcolon, _⟩ := h
  exact opensWith_append (afterCaseless?_of_after? rfl hbracket)
    (opensWith_append hname (opensWith_of_after? rfl hcolon))

theorem opensWith_of_isMarker (h : isMarker name line = true) :
    OpensWith ('[' :: (name.toList ++ [']'])) line := by
  simp only [isMarker, Option.bind_eq_bind, beq_iff_eq, Option.bind_eq_some_iff] at h
  obtain ⟨behind, hbracket, rest, hname, hclose⟩ := h
  exact opensWith_append (afterCaseless?_of_after? rfl hbracket)
    (opensWith_append hname (opensWith_of_after? rfl hclose))

theorem opensWith_of_tagged? {parts : List Char × List Char}
    (hname : ('<' :: name.toList).all (fun c => foldsTo c c) = true)
    (h : tagged? name line = some parts) : OpensWith ('<' :: name.toList) line := by
  simp only [tagged?, Option.bind_eq_bind, Option.bind_eq_some_iff] at h
  obtain ⟨rest, hopen, _⟩ := h
  exact opensWith_of_after? hname hopen

theorem mayOpen_of_scene? (h : (scene? line).isSome = true) : LineRule.scene.MayOpen line := by
  unfold scene? at h
  split at h
  · rename_i rest hopen
    exact ⟨"<scene>".toList, .head _, opensWith_of_after? rfl hopen⟩
  · rw [Option.isSome_map] at h
    obtain ⟨inner, hinner⟩ := Option.isSome_iff_exists.1 (Option.isSome_of_isSome_bind h)
    exact ⟨"[scene:".toList, .tail _ (.head _), opensWith_of_directive? hinner⟩

theorem mayOpen_of_conditional? (h : (conditional? line).isSome = true) :
    LineRule.conditional.MayOpen line := by
  unfold conditional? at h
  split at h
  · rename_i inner hinner
    exact ⟨"[if:".toList, .head _, opensWith_of_directive? hinner⟩
  · split at h
    · rename_i hmarker
      exact ⟨"[else]".toList, .tail _ (.head _), opensWith_of_isMarker hmarker⟩
    · rw [Option.bind_eq_bind] at h
      obtain ⟨behind, hbracket⟩ := Option.isSome_iff_exists.1 (Option.isSome_of_isSome_bind h)
      rw [hbracket, Option.bind_some] at h
      have hopen : OpensWith (['['] ++ "end".toList) line :=
        opensWith_append (afterCaseless?_of_after? rfl hbracket) (Option.isSome_of_isSome_bind h)
      exact ⟨"[end".toList, .tail _ (.tail _ (.head _)), hopen⟩

theorem mayOpen_of_image? (h : (image? config line).isSome = true) : LineRule.image.MayOpen line := by
  unfold image? at h
  split at h
  · rename_i hparts
    exact ⟨"<image".toList, .head _, opensWith_of_tagged? rfl hparts⟩
  · obtain ⟨inner, hinner⟩ := Option.isSome_iff_exists.1 (Option.isSome_of_isSome_bind h)
    exact ⟨"[image:".toList, .tail _ (.head _), opensWith_of_directive? hinner⟩

theorem exists_tag_of_taggedOffer? (h : (taggedOffer? next line).isSome = true) :
    ∃ rest, line = "<choice".toList ++ rest := by
  obtain ⟨rest, hopen⟩ := Option.isSome_iff_exists.1 (Option.isSome_of_isSome_bind h)
  exact ⟨rest, after?_eq_some_iff.1 hopen⟩

theorem mayOpen_of_taggedOffer? (h : (taggedOffer? next line).isSome = true) :
    LineRule.choice.MayOpen line := by
  obtain ⟨rest, hline⟩ := exists_tag_of_taggedOffer? h
  exact ⟨"<choice".toList, .head _, opensWith_of_after? rfl (after?_eq_some_iff.2 hline)⟩

theorem mayOpen_of_choice? (h : (choice? next line).isSome = true) : LineRule.choice.MayOpen line := by
  unfold choice? at h
  split at h
  · rename_i hmarker
    exact ⟨"[choice]".toList, .tail _ (.head _), opensWith_of_isMarker hmarker⟩
  · exact mayOpen_of_taggedOffer? h

/-- A sign has no second form. -/
theorem exists_cons_of_opensWith {b : Char} {word : List Char} (hb : b.toNat < 'a'.toNat)
    (h : OpensWith (b :: word) line) : ∃ rest, line = b :: rest := by
  unfold OpensWith at h
  cases line with
  | nil => cases h
  | cons c rest =>
    rw [afterCaseless?] at h
    split at h
    · rename_i hfolds
      simp only [foldsTo, Bool.or_eq_true, Bool.and_eq_true, beq_iff_eq] at hfolds
      obtain hlower | ⟨rfl, -⟩ := hfolds
      · exact ⟨rest, by rw [eq_of_toLower hb hlower]⟩
      · exact absurd hb (by decide)
    · cases h

/-- A speaker begins with neither bracket. -/
theorem plainDialogue?_of_bracket {c : Char} (hc : c = '[' ∨ c = '<') :
    plainDialogue? config (c :: line) = none := by
  have hplain : isBlank c = false ∧ isColon c = false := by
    rcases hc with rfl | rfl <;> exact ⟨rfl, rfl⟩
  obtain ⟨hblank, hcolon⟩ := hplain
  obtain ⟨speaker, hspeaker⟩ := List.head?_eq_some_iff.1
    (head?_trim_cons hblank (line.takeWhile (!isColon ·)))
  have hname : isPlausibleSpeaker config (c :: speaker) = false := by
    rcases hc with rfl | rfl <;> rfl
  have htake : trim ((c :: line).takeWhile (!isColon ·)) = c :: speaker := by
    rw [List.takeWhile_cons_of_pos (by simp [hcolon]), hspeaker]
  unfold plainDialogue?
  split
  · simp only [htake, hname, Bool.not_false, Bool.true_or, if_true]
  · rfl

/-- Plain dialogue opens in no way of another rule. -/
theorem plainDialogue?_of_mayOpen {rule : LineRule} (h : rule.MayOpen line) :
    plainDialogue? config line = none := by
  obtain ⟨word, hword, hopen⟩ := h
  have hbrackets : LineRule.precedence.all (fun rule => rule.openings.all fun word =>
      word.head? == some '[' || word.head? == some '<') = true := rfl
  simp only [List.all_eq_true, Bool.or_eq_true, beq_iff_eq, List.head?_eq_some_iff] at hbrackets
  obtain ⟨behind, rfl⟩ | ⟨behind, rfl⟩ := hbrackets rule rule.mem_precedence word hword
  · obtain ⟨rest, rfl⟩ := exists_cons_of_opensWith (by decide) hopen
    exact plainDialogue?_of_bracket (.inl rfl)
  · obtain ⟨rest, rfl⟩ := exists_cons_of_opensWith (by decide) hopen
    exact plainDialogue?_of_bracket (.inr rfl)

end Script

/-! ## One rule for each line -/

namespace LineRule

variable {config : ScriptConfig} {next : Nat} {line : List Char} {rule rule' : LineRule}

theorem MayOpen.eq (h : rule.MayOpen line) (h' : rule'.MayOpen line) : rule = rule' := by
  have hlong : precedence.all (fun rule => rule.openings.all (!·.contains 'ſ')) = true := rfl
  simp only [List.all_eq_true, Bool.not_eq_true', List.contains_eq_mem, decide_eq_false_iff_not] at hlong
  obtain ⟨word, hword, hopen⟩ := h
  obtain ⟨word', hword', hopen'⟩ := h'
  rcases prefix_or_prefix_of_afterCaseless? (hlong rule rule.mem_precedence word hword)
    (hlong rule' rule'.mem_precedence word' hword') hopen hopen' with hprefix | hprefix
  · exact eq_of_openings hword hword' hprefix
  · exact (eq_of_openings hword' hword hprefix).symm

theorem mayOpen_of_read? (hrule : rule ≠ plainDialogue)
    (h : (rule.read? config next line).isSome = true) : rule.MayOpen line := by
  cases rule with
  | scene => exact Script.mayOpen_of_scene? h
  | conditional => exact Script.mayOpen_of_conditional? h
  | image => exact Script.mayOpen_of_image? h
  | content =>
    obtain ⟨parts, hparts⟩ := Option.isSome_iff_exists.1 (Option.isSome_of_isSome_bind h)
    exact ⟨"<content".toList, .head _, Script.opensWith_of_tagged? rfl hparts⟩
  | jump =>
    rw [read?, Script.jump?, Option.isSome_map] at h
    obtain ⟨inner, hinner⟩ := Option.isSome_iff_exists.1 (Option.isSome_of_isSome_bind h)
    exact ⟨"[jump:".toList, .head _, Script.opensWith_of_directive? hinner⟩
  | choice => exact Script.mayOpen_of_choice? h
  | plainDialogue => exact absurd rfl hrule

/-- A line that another rule reads is no plain dialogue. -/
theorem eq_plainDialogue_of_read? (h : (plainDialogue.read? config next line).isSome = true)
    {config' : ScriptConfig} {next' : Nat} (h' : (rule'.read? config' next' line).isSome = true) :
    rule' = plainDialogue := by
  by_contra hrule
  rw [read?, Script.plainDialogue?_of_mayOpen (mayOpen_of_read? hrule h')] at h
  cases h

/-- Two rules do not read the same line, not even with different settings. -/
theorem eq_of_read? {config' : ScriptConfig} {next' : Nat}
    (h : (rule.read? config next line).isSome = true)
    (h' : (rule'.read? config' next' line).isSome = true) : rule = rule' := by
  by_cases hrule : rule = plainDialogue
  · subst hrule
    exact (eq_plainDialogue_of_read? h h').symm
  · by_cases hrule' : rule' = plainDialogue
    · subst hrule'
      exact eq_plainDialogue_of_read? h' h
    · exact (mayOpen_of_read? hrule h).eq (mayOpen_of_read? hrule' h')

end LineRule

/-! ## Reading in any order -/

namespace Script

variable {order : List LineRule} {config : ScriptConfig} {next : Nat} {line : List Char}
  {instruction : Instruction}

/-- Reads a line by the first rule of the order that fits. -/
def readLineIn? (order : List LineRule) (config : ScriptConfig) (nextOffer : Nat) (line : List Char) :
    Option Instruction :=
  order.findSome? (·.read? config nextOffer line)

/-- A line is read by whatever rule fits. -/
theorem readLineIn?_eq_some_iff :
    readLineIn? order config next line = some instruction ↔
      ∃ rule ∈ order, rule.read? config next line = some instruction := by
  constructor
  · exact List.exists_of_findSome?_eq_some
  · rintro ⟨rule, hrule, hread⟩
    have hsome : (readLineIn? order config next line).isSome = true :=
      List.findSome?_isSome_iff.2 ⟨rule, hrule, by rw [hread]; rfl⟩
    obtain ⟨other, hother⟩ := Option.isSome_iff_exists.1 hsome
    obtain ⟨rule', -, hread'⟩ := List.exists_of_findSome?_eq_some hother
    obtain rfl : rule = rule' :=
      LineRule.eq_of_read? (by rw [hread]; rfl) (by rw [hread']; rfl)
    rw [hother, ← hread, ← hread']

theorem readLine?_eq_some_iff :
    readLine? config next line = some instruction ↔
      ∃ rule : LineRule, rule.read? config next line = some instruction := by
  rw [readLine?, ← readLineIn?, readLineIn?_eq_some_iff]
  simp only [LineRule.mem_precedence, true_and]

theorem readLineIn?_eq (h : order.Perm LineRule.precedence) (config : ScriptConfig) (next : Nat)
    (line : List Char) : readLineIn? order config next line = readLine? config next line := by
  apply Option.ext
  intro instruction
  rw [readLine?, ← readLineIn?, readLineIn?_eq_some_iff, readLineIn?_eq_some_iff]
  simp only [h.mem_iff]

/-- `readLines` with the rules in an order of choice. -/
def readLinesIn (order : List LineRule) (config : ScriptConfig) :
    (count : Nat) → (inMenu : Bool) → List NumberedLine → List Instruction × List NumberedLine
  | _, _, [] => ([], [])
  | count, inMenu, line :: rest =>
    let offer? :=
      if inMenu then (numberedOffer? line.text).or (taggedOffer? (count + 1) line.text) else none
    match offer? with
    | some offer =>
      let (list, lost) := readLinesIn order config (count + 1) true rest
      (offer :: list, lost)
    | none =>
      match readLineIn? order config (count + 1) line.text with
      | some .openMenu =>
        let (list, lost) := readLinesIn order config 0 true rest
        (.openMenu :: list, lost)
      | some (.offer index text target) =>
        let (list, lost) := readLinesIn order config (count + 1) false rest
        (.offer index text target :: list, lost)
      | some instruction =>
        let (list, lost) := readLinesIn order config 0 false rest
        (instruction :: list, lost)
      | none =>
        let (list, lost) := readLinesIn order config count false rest
        (list, line :: lost)

/-- `readBody` with the rules in an order of choice. -/
def readBodyIn (order : List LineRule) (config : ScriptConfig) (node : NodeId)
    (body : List NumberedLine) : List Instruction × List Anomaly :=
  let (raw, lost) := readLinesIn order config 0 false body
  let (list, faults) := balance raw
  (list, lost.map (lostLine node) ++ faults.map (.unbalanced node))

/-- `addSections` with the rules in an order of choice. -/
def addSectionsIn (order : List LineRule) (config : ScriptConfig) :
    Script → List Section → Script × List Anomaly
  | script, [] => (script, [])
  | script, part :: rest =>
    let repeated := if script.contains part.id then [Anomaly.duplicateNode part.id] else []
    let (list, faults) := readBodyIn order config part.id part.lines
    let (script, later) := addSectionsIn order config (script.insert part.id list) rest
    (script, repeated ++ faults ++ later)

/-- `parse` with the rules in an order of choice. -/
def parseIn (order : List LineRule) (config : ScriptConfig) (document : String) :
    Script × List Anomaly :=
  let (front, parts) := sections (numberedLines document.toList)
  let (script, faults) := addSectionsIn order config .empty parts
  (script, front.map (fun line => .lineOutsideNode line.number (String.ofList line.text)) ++ faults)

theorem readLinesIn_eq (h : order.Perm LineRule.precedence) (count : Nat) (inMenu : Bool)
    (lines : List NumberedLine) :
    readLinesIn order config count inMenu lines = readLines config count inMenu lines := by
  induction lines generalizing count inMenu with
  | nil => rfl
  | cons line rest ih =>
    cases hoffer : (if inMenu then
        (numberedOffer? line.text).or (taggedOffer? (count + 1) line.text) else none) with
    | some offer => simp only [readLinesIn, readLines, hoffer, ih]
    | none =>
      cases hline : readLine? config (count + 1) line.text with
      | none => simp only [readLinesIn, readLines, hoffer, readLineIn?_eq h, hline, ih]
      | some instruction =>
        cases instruction <;> simp only [readLinesIn, readLines, hoffer, readLineIn?_eq h, hline, ih]

theorem readBodyIn_eq (h : order.Perm LineRule.precedence) (node : NodeId) (body : List NumberedLine) :
    readBodyIn order config node body = readBody config node body := by
  rw [readBodyIn, readLinesIn_eq h, readBody]

theorem addSectionsIn_eq (h : order.Perm LineRule.precedence) (script : Script) (parts : List Section) :
    addSectionsIn order config script parts = addSections config script parts := by
  induction parts generalizing script with
  | nil => rfl
  | cons part rest ih => simp only [addSectionsIn, addSections, readBodyIn_eq h, ih]

theorem parseIn_eq (h : order.Perm LineRule.precedence) (document : String) :
    parseIn order config document = parse config document := by
  unfold parseIn
  simp only [addSectionsIn_eq h]
  rfl

/-- A line is read by one rule at most, with any settings and any number for the next offer. So documents are
read alike, reports and all, when the rules are tried in another order. -/
theorem rules_exclude_each_other (config : ScriptConfig) {order : List LineRule}
    (h : order.Perm LineRule.precedence) :
    (∀ (nextOffer : Nat) (line : List Char) (rule rule' : LineRule),
      (rule.read? config nextOffer line).isSome = true →
        (rule'.read? config nextOffer line).isSome = true → rule = rule') ∧
    ∀ document : String, parseIn order config document = parse config document :=
  ⟨fun _ _ _ _ => LineRule.eq_of_read?, parseIn_eq h⟩

/-- Scenes may be named like a speech and jumps like a tag, and the last rule may be tried first. -/
theorem rules_exclude_each_other_in_reverse :
    let order := LineRule.precedence.reverse
    let document := "=== Node: inn ===\n<scene>Bar: night</scene>\n[ſcene: Mio: Hi]\n[JUMP: <scene>x</scene>]"
    let list := [.scene "Bar: night", .scene "Mio: Hi", .jump "<scene>x</scene>"]
    order.Perm LineRule.precedence ∧
    (∀ rule : LineRule, (rule.read? {} 1 "[ſcene: Mio: Hi]".toList).isSome = true → rule = .scene) ∧
    parseIn order {} document = (.ofList [("inn", list)], []) := by
  intro order document list
  have horder : order.Perm LineRule.precedence := List.reverse_perm _
  obtain ⟨hone, hsame⟩ := rules_exclude_each_other {} horder
  refine ⟨horder, fun rule hrule => hone 1 _ rule .scene hrule ?_, (hsame document).trans ?_⟩
  · decide +kernel
  · decide +kernel

end Script

end Storyline
