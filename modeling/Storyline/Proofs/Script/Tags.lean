-- SUMMARY: Tags and directives carry the texts in their fields through unchanged.
import Storyline.Proofs.Script.Openings
import Storyline.Proofs.Text.Numeral

/-!
# Fields of tags and directives

A line that is a tag or a directive is recognised by its two ends, and a condition by the last sign before its
level. So the texts in its fields are read as they are written, also where they hold closing tags, brackets,
signs or arrows themselves. A value in quotation marks ends at the next such mark.
-/

namespace Storyline

open Text

namespace Script

variable {config : ScriptConfig} {next : Nat} {s inner value : List Char}

/-! ## Fields -/

theorem field?_of_trim (h : IsLine s) (hinner : trim inner = s) : field? inner = some s := by
  rw [field?, hinner]
  cases s with
  | nil => exact absurd rfl h.nonempty
  | cons c rest =>
    dsimp only
    rw [if_neg (by simpa using h.oneLine)]

theorem trim_blanks_append {front behind : List Char} (hfront : ∀ c ∈ front, isBlank c = true)
    (hbehind : ∀ c ∈ behind, isBlank c = true) (h : Trimmed s) : trim (front ++ (s ++ behind)) = s := by
  rw [← List.append_assoc, trim_append_blanks _ hbehind, trim, trimLeft_blanks_append hfront]
  exact trim_of_trimmed h

/-! ## Tags -/

/-- The value of an attribute ends at the next quotation mark. -/
theorem attribute?_append (name : String) (hname : ∀ c, name.toList.head? = some c → isBlank c = false)
    (hvalue : '"' ∉ value) (rest : List Char) :
    attribute? name (' ' :: (name.toList ++ '=' :: '"' :: (value ++ '"' :: rest))) =
      some (value, rest) := by
  have hnoquote : ∀ c ∈ value, (c != '"') = true := by
    intro c hc
    rw [bne_iff_ne]
    rintro rfl
    exact hvalue hc
  have htake : (value ++ '"' :: rest).takeWhile (· != '"') = value := by
    rw [List.takeWhile_append_of_pos hnoquote]
    exact List.append_nil _
  have hdrop : (value ++ '"' :: rest).dropWhile (· != '"') = '"' :: rest := by
    rw [List.dropWhile_append_of_pos hnoquote]
    rfl
  have hword : after? name.toList
      (trimLeft (' ' :: (name.toList ++ '=' :: '"' :: (value ++ '"' :: rest)))) =
        some ('=' :: '"' :: (value ++ '"' :: rest)) := by
    have hhead : ∀ c, (name.toList ++ '=' :: '"' :: (value ++ '"' :: rest)).head? = some c →
        isBlank c = false := by
      intro c hc
      cases hletters : name.toList with
      | nil => rw [hletters] at hc; cases hc; rfl
      | cons first letters => rw [hletters] at hc; cases hc; exact hname c (by rw [hletters]; rfl)
    rw [← List.singleton_append, trimLeft_blanks_append (List.forall_mem_singleton.2 rfl),
      trimLeft_of_head hhead]
    exact after?_eq_some_iff.2 rfl
  have hsign : after? ['=', '"'] ('=' :: '"' :: (value ++ '"' :: rest)) =
      some (value ++ '"' :: rest) := rfl
  have hblank : isBlank ' ' = true := rfl
  have hclose : after? ['"'] ('"' :: rest) = some rest := rfl
  simp only [attribute?, bind, Option.bind, List.head?_cons, hblank, if_true, hword, hsign, htake,
    hdrop, hclose]

/-- The line of a tag with an id. -/
def tagText (name : String) (id body : List Char) : List Char :=
  '<' :: (name.toList ++ ' ' :: ("id".toList ++ '=' :: '"' :: (id ++ '"' :: '>' ::
    (body ++ ("</".toList ++ name.toList ++ ['>'])))))

theorem tagged?_tagText (name : String) {id : List Char} (hid : '"' ∉ id) (body : List Char) :
    tagged? name (tagText name id body) = some (id, body) := by
  have hopen : after? ('<' :: name.toList) (tagText name id body) = some _ := after?_eq_some_iff.2 rfl
  have hattribute := attribute?_append "id" (by rintro c ⟨⟩; rfl) hid
    ('>' :: (body ++ ("</".toList ++ name.toList ++ ['>'])))
  have hend : after? ['>'] ('>' :: (body ++ ("</".toList ++ name.toList ++ ['>']))) = some _ := rfl
  have hclose : before? ("</".toList ++ name.toList ++ ['>'])
      (body ++ ("</".toList ++ name.toList ++ ['>'])) = some body := before?_eq_some_iff.2 rfl
  simp only [tagged?, bind, Option.bind, hopen, hattribute, hend, hclose]

theorem content?_tagText (config : ScriptConfig) {speaker text : List Char} (hspeaker : trim speaker ≠ [])
    (hquote : '"' ∉ speaker) (htext : trim text ≠ []) (hline : '\n' ∉ text) :
    content? config (tagText "content" speaker text) = some (lineOf config (trim speaker) (trim text)) := by
  have hnewline : text.contains '\n' = false := by simpa using hline
  simp only [content?, bind, Option.bind, tagged?_tagText "content" hquote, hnewline,
    List.isEmpty_eq_false_iff.2 hspeaker, List.isEmpty_eq_false_iff.2 htext, Bool.or_self,
    Bool.false_eq_true, if_false]

theorem image?_tagText (config : ScriptConfig) {speaker expression : List Char} (hquote : '"' ∉ speaker)
    (hsign : '<' ∉ expression) :
    image? config (tagText "image" speaker expression) =
      some (portraitOf config (trim speaker) (trim expression)) := by
  have hopen : expression.contains '<' = false := by simpa using hsign
  simp only [image?, tagged?_tagText "image" hquote, hopen, Bool.false_eq_true, if_false]

theorem scene?_tag (h : IsLine s) :
    scene? ("<scene>".toList ++ (s ++ "</scene>".toList)) = some (.scene (String.ofList s)) := by
  have hopen : after? "<scene>".toList ("<scene>".toList ++ (s ++ "</scene>".toList)) = some _ :=
    after?_eq_some_iff.2 rfl
  have hclose : before? "</scene>".toList (s ++ "</scene>".toList) = some s := before?_eq_some_iff.2 rfl
  simp only [scene?, hopen, hclose, Option.bind_some, field?_of_trim h (trim_of_trimmed h.trimmed),
    Option.map_some]

/-! ## Offers -/

/-- Behind the attributes of an offer stands its text, up to the tag at the end of the line. -/
theorem choice?_text (next : Nat) (htext : s ≠ []) (hline : '\n' ∉ s) :
    choice? next ("<choice>".toList ++ (s ++ "</choice>".toList)) =
      some (.offer next (String.ofList (trim s)) none) := by
  have hmarker : isMarker "choice" ("<choice>".toList ++ (s ++ "</choice>".toList)) = false := rfl
  have hopen : after? "<choice".toList ("<choice>".toList ++ (s ++ "</choice>".toList)) =
      some ('>' :: (s ++ "</choice>".toList)) := rfl
  have hattribute : attribute? "target" ('>' :: (s ++ "</choice>".toList)) = none := rfl
  have hend : after? ['>'] (trimLeft ('>' :: (s ++ "</choice>".toList))) =
      some (s ++ "</choice>".toList) := rfl
  have hclose : before? "</choice>".toList (s ++ "</choice>".toList) = some s :=
    before?_eq_some_iff.2 rfl
  have hnewline : s.contains '\n' = false := by simpa using hline
  simp only [choice?, hmarker, taggedOffer?, bind, Option.bind, hopen, hattribute, hend, hclose, hnewline,
    List.isEmpty_eq_false_iff.2 htext, Bool.or_self, Bool.false_eq_true, if_false]
  rfl

theorem choice?_target (next : Nat) (hvalue : trim value ≠ []) (hquote : '"' ∉ value) (htext : s ≠ [])
    (hline : '\n' ∉ s) :
    choice? next ("<choice target=\"".toList ++ (value ++ ("\">".toList ++ (s ++ "</choice>".toList)))) =
      some (.offer next (String.ofList (trim s)) (some (String.ofList (trim value)))) := by
  have hmarker : isMarker "choice"
      ("<choice target=\"".toList ++ (value ++ ("\">".toList ++ (s ++ "</choice>".toList)))) = false := rfl
  have hopen : after? "<choice".toList
      ("<choice target=\"".toList ++ (value ++ ("\">".toList ++ (s ++ "</choice>".toList)))) =
        some (' ' :: ("target".toList ++ '=' :: '"' ::
          (value ++ '"' :: '>' :: (s ++ "</choice>".toList)))) := rfl
  have hattribute := attribute?_append "target" (by rintro c ⟨⟩; rfl) hquote
    ('>' :: (s ++ "</choice>".toList))
  have hend : after? ['>'] (trimLeft ('>' :: (s ++ "</choice>".toList))) =
      some (s ++ "</choice>".toList) := rfl
  have hclose : before? "</choice>".toList (s ++ "</choice>".toList) = some s :=
    before?_eq_some_iff.2 rfl
  have hnewline : s.contains '\n' = false := by simpa using hline
  simp only [choice?, hmarker, taggedOffer?, bind, Option.bind, hopen, hattribute, hend, hclose, hnewline,
    List.isEmpty_eq_false_iff.2 htext, List.isEmpty_eq_false_iff.2 hvalue, Bool.or_self,
    Bool.false_eq_true, if_false]

/-! ## Directives -/

theorem jump?_directive (h : IsLine s) :
    jump? ("[JUMP: ".toList ++ (s ++ [']'])) = some (.jump (String.ofList s)) := by
  have hdirective : directive? "jump" ("[JUMP: ".toList ++ (s ++ [']'])) = some ([' '] ++ (s ++ [])) :=
    before?_eq_some_iff.2 (by rw [List.append_nil]; rfl)
  have hfield : trim ([' '] ++ (s ++ [])) = s :=
    trim_blanks_append (List.forall_mem_singleton.2 rfl) (List.forall_mem_nil _) h.trimmed
  rw [jump?, hdirective, Option.bind_some, field?_of_trim h hfield, Option.map_some]

/-- Behind a blank at the end of a condition stands the numeral of its level. -/
theorem threshold?_append (front : List Char) {numeral digits : List Char} (hfull : digits ≠ [])
    (hall : ∀ c ∈ digits, isDigit c = true) (hnumeral : numeral = digits ∨ numeral = '-' :: digits) :
    threshold? (front ++ ' ' :: numeral) =
      (after? ['=', '>'] (trimLeft (' ' :: front.reverse))).bind fun rest =>
        (field? rest.reverse).bind fun role => (level? numeral).bind fun level => some (role, level) := by
  have hlast : ∀ c, (front ++ ' ' :: numeral).getLast? = some c → isBlank c = false := by
    have hends : ∃ front', front ++ ' ' :: numeral = front' ++ digits := by
      rcases hnumeral with rfl | rfl
      · exact ⟨front ++ [' '], by simp⟩
      · exact ⟨front ++ [' ', '-'], by simp⟩
    obtain ⟨front', hends⟩ := hends
    intro c hc
    rw [hends, List.getLast?_append, List.getLast?_eq_some_getLast hfull] at hc
    cases hc
    exact isBlank_of_isDigit (hall _ (List.getLast_mem hfull))
  have hreverse : (front ++ ' ' :: numeral).reverse = numeral.reverse ++ ' ' :: front.reverse := by simp
  have hparts {c : Char} (hc : isDigit c = false) (rest : List Char) :
      (digits.reverse ++ c :: rest).takeWhile isDigit = digits.reverse ∧
        (digits.reverse ++ c :: rest).dropWhile isDigit = c :: rest := by
    have hdigits : ∀ d ∈ digits.reverse, isDigit d = true := by simpa using hall
    constructor
    · rw [List.takeWhile_append_of_pos hdigits, List.takeWhile_cons_of_neg (by simp [hc]), List.append_nil]
    · rw [List.dropWhile_append_of_pos hdigits, List.dropWhile_cons_of_neg (by simp [hc])]
  rcases hnumeral with rfl | rfl
  · obtain ⟨htake, hdrop⟩ := hparts (c := ' ') rfl front.reverse
    simp only [threshold?, trimRight_of_last hlast, hreverse, htake, hdrop, List.reverse_reverse]
    rfl
  · obtain ⟨htake, hdrop⟩ := hparts (c := '-') rfl (' ' :: front.reverse)
    have hsigned : ('-' :: digits).reverse ++ ' ' :: front.reverse =
        digits.reverse ++ '-' :: ' ' :: front.reverse := by simp
    simp only [threshold?, trimRight_of_last hlast, hreverse, hsigned, htake, hdrop, List.reverse_reverse]
    rfl

/-- The role of a condition is what stands before the last sign. -/
theorem threshold?_toString (h : IsLine s) {level : Int} (hlevel : fitsLevel level = true) :
    threshold? (' ' :: (s ++ " >=".toList) ++ ' ' :: (toString level).toList) = some (s, level) := by
  obtain ⟨digits, hfull, hall, hnumeral⟩ := exists_digits_toString level
  have hreverse : (' ' :: (s ++ " >=".toList)).reverse = '=' :: '>' :: ' ' :: (s.reverse ++ [' ']) := by
    simp
  have hsign : after? ['=', '>'] (trimLeft (' ' :: '=' :: '>' :: ' ' :: (s.reverse ++ [' ']))) =
      some (' ' :: (s.reverse ++ [' '])) := rfl
  have hback : (' ' :: (s.reverse ++ [' '])).reverse = [' '] ++ (s ++ [' ']) := by simp
  have hfield : field? ([' '] ++ (s ++ [' '])) = some s :=
    field?_of_trim h (trim_blanks_append (List.forall_mem_singleton.2 rfl)
      (List.forall_mem_singleton.2 rfl) h.trimmed)
  rw [threshold?_append _ hfull hall hnumeral, hreverse, hsign, Option.bind_some, hback, hfield,
    Option.bind_some, level?_toString hlevel, Option.bind_some]

theorem conditional?_directive (h : IsLine s) {level : Int} (hlevel : fitsLevel level = true) :
    conditional? ("[IF: ".toList ++ (s ++ (" >= ".toList ++ ((toString level).toList ++ [']'])))) =
      some (.ifLevel (String.ofList s) level) := by
  have hword : directive? "if"
      ("[IF: ".toList ++ (s ++ (" >= ".toList ++ ((toString level).toList ++ [']'])))) =
        before? [']'] (' ' :: (s ++ (" >= ".toList ++ ((toString level).toList ++ [']'])))) := rfl
  have hinner : ' ' :: (s ++ (" >= ".toList ++ ((toString level).toList ++ [']']))) =
      ' ' :: (s ++ " >=".toList) ++ ' ' :: (toString level).toList ++ [']'] := by simp
  rw [conditional?, hword, before?_eq_some_iff.2 hinner]
  dsimp only
  rw [threshold?_toString h hlevel, Option.map_some]

/-! ## Lines as they are written -/

/-- Does the rule read the line as this instruction, and no rule before it? -/
def ReadsAs (config : ScriptConfig) (next : Nat) (rule : LineRule) (line : String)
    (instruction : Instruction) : Prop :=
  rule.read? config next line.toList = some instruction ∧
    readLine? config next line.toList = some instruction

theorem readsAs_of_read? {rule : LineRule} {line : String} {instruction : Instruction}
    (h : rule.read? config next line.toList = some instruction) :
    ReadsAs config next rule line instruction :=
  ⟨h, readLine?_eq_some_iff.2 ⟨rule, h⟩⟩

theorem lineOf_ofList (speaker text : String) :
    lineOf config speaker.toList text.toList =
      if config.isNarrator speaker then .narration text else .dialogue speaker text := by
  simp only [lineOf, String.ofList_toList]

theorem portraitOf_ofList (speaker expression : String) :
    portraitOf config speaker.toList expression.toList =
      if config.isClearToken expression then .clearPortrait else .portrait speaker expression := by
  simp only [portraitOf, String.ofList_toList]

/-- Whatever texts of one line stand in its fields, a tag or a directive is read with just these texts. -/
theorem fields_read_as_written (config : ScriptConfig) (next : Nat) :
    (∀ name : String, IsLine name.toList →
      ReadsAs config next .scene ("<scene>" ++ name ++ "</scene>") (.scene name)) ∧
    (∀ (role : String) (level : Int), IsLine role.toList → fitsLevel level = true →
      ReadsAs config next .conditional ("[IF: " ++ role ++ " >= " ++ toString level ++ "]")
        (.ifLevel role level)) ∧
    (∀ target : String, IsLine target.toList →
      ReadsAs config next .jump ("[JUMP: " ++ target ++ "]") (.jump target)) ∧
    (∀ speaker text : String, IsLine speaker.toList → '"' ∉ speaker.toList → IsLine text.toList →
      ReadsAs config next .content ("<content id=\"" ++ speaker ++ "\">" ++ text ++ "</content>")
        (if config.isNarrator speaker then .narration text else .dialogue speaker text)) ∧
    (∀ speaker expression : String, IsLine speaker.toList → '"' ∉ speaker.toList →
      IsLine expression.toList → '<' ∉ expression.toList →
        ReadsAs config next .image ("<image id=\"" ++ speaker ++ "\">" ++ expression ++ "</image>")
          (if config.isClearToken expression then .clearPortrait else .portrait speaker expression)) ∧
    (∀ text : String, IsLine text.toList →
      ReadsAs config next .choice ("<choice>" ++ text ++ "</choice>") (.offer next text none)) ∧
    (∀ target text : String, IsLine target.toList → '"' ∉ target.toList → IsLine text.toList →
      ReadsAs config next .choice ("<choice target=\"" ++ target ++ "\">" ++ text ++ "</choice>")
        (.offer next text (some target))) := by
  refine ⟨?_, ?_, ?_, ?_, ?_, ?_, ?_⟩
  · intro name hname
    apply readsAs_of_read?
    have hread := scene?_tag hname
    rw [String.ofList_toList] at hread
    simp only [String.toList_append, List.append_assoc]
    exact hread
  · intro role level hrole hlevel
    apply readsAs_of_read?
    have hread := conditional?_directive hrole hlevel
    rw [String.ofList_toList] at hread
    simp only [String.toList_append, List.append_assoc]
    exact hread
  · intro target htarget
    apply readsAs_of_read?
    have hread := jump?_directive htarget
    rw [String.ofList_toList] at hread
    simp only [String.toList_append, List.append_assoc]
    exact hread
  · intro speaker text hspeaker hquote htext
    apply readsAs_of_read?
    have hread := content?_tagText config hspeaker.trim_ne_nil hquote htext.trim_ne_nil
      htext.oneLine
    rw [hspeaker.trim_eq, htext.trim_eq, lineOf_ofList] at hread
    simp only [String.toList_append, List.append_assoc]
    exact hread
  · intro speaker expression hspeaker hquote hexpression hsign
    apply readsAs_of_read?
    have hread := image?_tagText config hquote hsign
    rw [hspeaker.trim_eq, hexpression.trim_eq, portraitOf_ofList] at hread
    simp only [String.toList_append, List.append_assoc]
    exact hread
  · intro text htext
    apply readsAs_of_read?
    have hread := choice?_text next htext.nonempty htext.oneLine
    rw [htext.trim_eq, String.ofList_toList] at hread
    simp only [String.toList_append, List.append_assoc]
    exact hread
  · intro target text htarget hquote htext
    apply readsAs_of_read?
    have hread := choice?_target next htarget.trim_ne_nil hquote htext.nonempty htext.oneLine
    rw [htarget.trim_eq, htext.trim_eq, String.ofList_toList, String.ofList_toList] at hread
    simp only [String.toList_append, List.append_assoc]
    exact hread

/-- The fields hold what the lines are recognised by. -/
theorem fields_read_as_written_of_delimiters :
    ReadsAs {} 2 .scene ("<scene>" ++ "</scene>: 3]" ++ "</scene>") (.scene "</scene>: 3]") ∧
    ReadsAs {} 2 .conditional ("[IF: " ++ "Mio >= 3]" ++ " >= " ++ toString (-2 : Int) ++ "]")
      (.ifLevel "Mio >= 3]" (-2)) ∧
    ReadsAs {} 2 .jump ("[JUMP: " ++ "] -> [END IF]" ++ "]") (.jump "] -> [END IF]") ∧
    ReadsAs {} 2 .content ("<content id=\"" ++ "NARRATOR" ++ "\">" ++ "</content>" ++ "</content>")
      (.narration "</content>") ∧
    ReadsAs {} 2 .image ("<image id=\"" ++ "</image>" ++ "\">" ++ ">= 3]" ++ "</image>")
      (.portrait "</image>" ">= 3]") ∧
    ReadsAs {} 2 .choice ("<choice>" ++ "1. Go -> inn" ++ "</choice>") (.offer 2 "1. Go -> inn" none) ∧
    ReadsAs {} 2 .choice ("<choice target=\"" ++ "old inn\\" ++ "\">" ++ "\"></choice>" ++ "</choice>")
      (.offer 2 "\"></choice>" (some "old inn\\")) := by
  obtain ⟨hscene, hcondition, hjump, hcontent, himage, htext, htarget⟩ := fields_read_as_written {} 2
  refine ⟨hscene _ ?_, hcondition _ _ ?_ ?_, hjump _ ?_, hcontent _ _ ?_ ?_ ?_, himage _ _ ?_ ?_ ?_ ?_,
    htext _ ?_, htarget _ _ ?_ ?_ ?_⟩
  all_goals decide

end Script

end Storyline
