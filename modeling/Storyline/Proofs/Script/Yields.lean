-- SUMMARY: What the rules can read from a line, and how the texts in it are trimmed.
import Storyline.Proofs.Script.Written

/-!
# What lines are read as

Each rule yields a few kinds of instructions. The texts in them are trimmed, and most of them cannot be empty
either. A field between fixed words is an exception: where there are only blanks, one of them is the field. The
text of an offer that is written as a tag, and the speaker in the tag of a portrait, may be empty.
-/

namespace Storyline

open Text

/-! ## Texts without outer blanks -/

/-- Is the text neither empty nor padded with blanks? -/
def IsFull (text : String) : Prop :=
  text ≠ "" ∧ Trimmed text.toList

/-- Is the text one blank? -/
def IsOneBlank (text : String) : Prop :=
  ∃ c, isBlank c = true ∧ text = String.ofList [c]

instance (text : String) : Decidable (IsFull text) :=
  inferInstanceAs (Decidable (_ ∧ _))

section Texts

variable {s inner : List Char}

theorem trimmed_nil : Trimmed [] :=
  ⟨nofun, nofun⟩

theorem trimmed_ofList (h : Trimmed s) : Trimmed (String.ofList s).toList := by
  rwa [String.toList_ofList]

theorem isFull_ofList (hne : s ≠ []) (h : Trimmed s) : IsFull (String.ofList s) := by
  refine ⟨?_, trimmed_ofList h⟩
  intro hempty
  exact hne (String.ofList_injective hempty)

/-- A trimmed text is full unless it is empty. -/
theorem eq_empty_or_isFull {text : String} (h : Trimmed text.toList) : text = "" ∨ IsFull text := by
  by_cases hempty : text = ""
  · exact .inl hempty
  · exact .inr ⟨hempty, h⟩

theorem IsOneBlank.not_isFull {text : String} (h : IsOneBlank text) : ¬IsFull text := by
  obtain ⟨c, hblank, rfl⟩ := h
  rintro ⟨-, htrimmed⟩
  rw [String.toList_ofList] at htrimmed
  cases hblank.symm.trans (htrimmed.1 c rfl)

theorem isFull_trim (h : trim s ≠ []) : IsFull (String.ofList (trim s)) :=
  isFull_ofList h (trimmed_trim s)

/-- Where only blanks stand between the delimiters, the field is one of them; otherwise it is trimmed. -/
theorem isFull_or_isOneBlank_of_field? (h : Script.field? inner = some s) :
    IsFull (String.ofList s) ∨ IsOneBlank (String.ofList s) := by
  unfold Script.field? at h
  split at h
  · rename_i hblank
    obtain ⟨c, hc, rfl⟩ := Option.map_eq_some_iff.1 h
    have hmem : c ∈ inner := List.mem_reverse.1 (List.mem_of_find?_eq_some hc)
    have hall : ∀ c ∈ inner, isBlank c = true := by
      by_contra hfull
      exact trim_ne_nil_iff.2 (by simpa using hfull) hblank
    exact .inr ⟨c, hall c hmem, rfl⟩
  · rename_i c rest htrim
    split at h
    · cases h
    · cases h
      rw [← htrim]
      exact .inl (isFull_trim (by rw [htrim]; exact List.cons_ne_nil c rest))

end Texts

/-! ## Instructions by rule -/

/-- The instructions that a rule can yield. -/
inductive LineRule.Yields : LineRule → Instruction → Prop
  | scene {name : String} (hname : IsFull name ∨ IsOneBlank name) : Yields .scene (.scene name)
  | ifLevel {role : String} {level : Int} (hrole : IsFull role ∨ IsOneBlank role) :
    Yields .conditional (.ifLevel role level)
  | otherwise : Yields .conditional .otherwise
  | endIf : Yields .conditional .endIf
  | clearPortrait : Yields .image .clearPortrait
  | portrait {speaker expression : String} (hspeaker : Trimmed speaker.toList)
    (hexpression : IsFull expression) : Yields .image (.portrait speaker expression)
  | narration {rule : LineRule} {text : String} (hrule : rule = .content ∨ rule = .plainDialogue)
    (htext : IsFull text) : Yields rule (.narration text)
  | dialogue {rule : LineRule} {speaker text : String} (hrule : rule = .content ∨ rule = .plainDialogue)
    (hspeaker : IsFull speaker) (htext : IsFull text) : Yields rule (.dialogue speaker text)
  | jump {target : NodeId} (htarget : IsFull target ∨ IsOneBlank target) : Yields .jump (.jump target)
  | openMenu : Yields .choice .openMenu
  | offer {index : Nat} {text : String} {target : Option NodeId} (htext : Trimmed text.toList)
    (htarget : ∀ word ∈ target, IsFull word) : Yields .choice (.offer index text target)

namespace Script

variable {config : ScriptConfig} {next : Nat} {line : List Char} {instruction : Instruction}

theorem yields_lineOf {rule : LineRule} (hrule : rule = .content ∨ rule = .plainDialogue)
    {speaker text : List Char} (hspeaker : IsFull (String.ofList speaker))
    (htext : IsFull (String.ofList text)) : rule.Yields (lineOf config speaker text) := by
  unfold lineOf
  dsimp only
  split
  · exact .narration hrule htext
  · exact .dialogue hrule hspeaker htext

theorem yields_portraitOf {speaker expression : List Char} (hspeaker : Trimmed speaker)
    (hexpression : Trimmed expression) : LineRule.image.Yields (portraitOf config speaker expression) := by
  unfold portraitOf
  dsimp only
  split
  · exact .clearPortrait
  · rename_i hclear
    refine .portrait (trimmed_ofList hspeaker) (isFull_ofList ?_ hexpression)
    rintro rfl
    exact hclear rfl

theorem yields_of_scene? (h : scene? line = some instruction) : LineRule.scene.Yields instruction := by
  obtain ⟨name, hname, rfl⟩ := Option.map_eq_some_iff.1 h
  obtain ⟨inner, -, hfield⟩ := Option.bind_eq_some_iff.1 hname
  exact .scene (isFull_or_isOneBlank_of_field? hfield)

theorem yields_of_jump? (h : jump? line = some instruction) : LineRule.jump.Yields instruction := by
  obtain ⟨target, htarget, rfl⟩ := Option.map_eq_some_iff.1 h
  obtain ⟨inner, -, hfield⟩ := Option.bind_eq_some_iff.1 htarget
  exact .jump (isFull_or_isOneBlank_of_field? hfield)

theorem isFull_or_isOneBlank_of_threshold? {inner : List Char} {parts : List Char × Int}
    (h : threshold? inner = some parts) :
    IsFull (String.ofList parts.1) ∨ IsOneBlank (String.ofList parts.1) := by
  simp only [threshold?, Option.bind_eq_bind, Option.bind_eq_some_iff] at h
  obtain ⟨_, _, role, hrole, level, _, hparts⟩ := h
  cases hparts
  exact isFull_or_isOneBlank_of_field? hrole

theorem yields_of_conditional? (h : conditional? line = some instruction) :
    LineRule.conditional.Yields instruction := by
  unfold conditional? at h
  split at h
  · obtain ⟨parts, hparts, rfl⟩ := Option.map_eq_some_iff.1 h
    exact .ifLevel (isFull_or_isOneBlank_of_threshold? hparts)
  · split at h
    · cases h
      exact .otherwise
    · simp only [Option.bind_eq_bind, Option.bind_eq_some_iff] at h
      obtain ⟨_, _, _, _, _, _, rest, _, hend⟩ := h
      split at hend
      · cases hend
        exact .endIf
      · cases hend

theorem trimmed_portraitParts {value : List Char} (h : Trimmed value) :
    Trimmed (portraitParts value).1 ∧ Trimmed (portraitParts value).2 := by
  unfold portraitParts
  split
  · exact ⟨trimmed_trim _, trimmed_trim _⟩
  · refine ⟨h, ?_⟩
    dsimp only
    split <;> decide

theorem yields_of_image? (h : image? config line = some instruction) :
    LineRule.image.Yields instruction := by
  unfold image? at h
  split at h
  · split at h
    · cases h
    · cases h
      exact yields_portraitOf (trimmed_trim _) (trimmed_trim _)
  · simp only [Option.bind_eq_bind, Option.bind_eq_some_iff] at h
    obtain ⟨inner, -, hparts⟩ := h
    obtain ⟨hspeaker, hexpression⟩ := trimmed_portraitParts (trimmed_trim inner)
    split at hparts
    · cases hparts
    · split at hparts
      · cases hparts
        exact .clearPortrait
      · cases hparts
        exact yields_portraitOf hspeaker hexpression

theorem yields_of_content? (h : content? config line = some instruction) :
    LineRule.content.Yields instruction := by
  simp only [content?, Option.bind_eq_bind, Option.bind_eq_some_iff] at h
  obtain ⟨_, -, hparts⟩ := h
  split at hparts
  · cases hparts
  · rename_i hfull
    cases hparts
    simp only [Bool.or_eq_true, List.isEmpty_iff, not_or] at hfull
    exact yields_lineOf (.inl rfl) (isFull_trim hfull.1.2) (isFull_trim hfull.2)

/-! ### Offers -/

/-- An offer in a tag has the number that it gets, and its target is no blank one. -/
theorem exists_of_taggedOffer? (h : taggedOffer? next line = some instruction) :
    ∃ text target, instruction = .offer next text target ∧ Trimmed text.toList ∧
      ∀ word ∈ target, IsFull word := by
  simp only [taggedOffer?, Option.bind_eq_bind, Option.bind_eq_some_iff] at h
  obtain ⟨rest, -, _, -, body, -, hoffer⟩ := h
  split at hoffer
  · cases hoffer
  · cases hoffer
    refine ⟨_, _, rfl, trimmed_ofList (trimmed_trim body), ?_⟩
    intro word hword
    rw [Option.mem_def, Option.ite_none_left_eq_some] at hword
    obtain ⟨hfull, ⟨⟩⟩ := hword
    refine isFull_ofList (by simpa using hfull) ?_
    cases attribute? "target" rest with
    | none => exact trimmed_nil
    | some parts => exact trimmed_trim _

theorem head?_splitTarget (c : Char) (s : List Char) : (splitTarget (c :: s)).1.head? = some c := by
  rw [splitTarget]
  split <;> rfl

/-- The text of a numbered offer is not blank, because it begins where the blanks behind the number end. -/
theorem exists_of_numberedOffer? (h : numberedOffer? line = some instruction) :
    ∃ index text target, instruction = .offer index text target ∧ IsFull text ∧
      ∀ word ∈ target, IsFull word := by
  simp only [numberedOffer?, Option.bind_eq_bind, Option.bind_eq_some_iff] at h
  obtain ⟨index, -, hoffer⟩ := h
  split at hoffer
  · split at hoffer
    · split at hoffer
      · cases hoffer
      · rename_i rest _ _ hbody
        cases hoffer
        obtain ⟨c, body, hcons⟩ := List.exists_cons_of_ne_nil (by simpa using hbody)
        have hhead := head?_splitTarget c body
        have hfirst : isBlank c = false :=
          isBlank_head_trimLeft (s := rest) (by rw [hcons, List.head?_cons])
        refine ⟨_, _, _, rfl, isFull_trim (trim_ne_nil_iff.2 ⟨c, ?_, hfirst⟩), ?_⟩
        · rw [hcons]
          exact List.mem_of_head? hhead
        · intro word hword
          obtain ⟨target, htarget, rfl⟩ := Option.map_eq_some_iff.1 hword
          have hword := isWord_of_splitTarget htarget
          exact isFull_ofList hword.nonempty hword.trimmed
    · cases hoffer
  · cases hoffer

theorem yields_of_choice? (h : choice? next line = some instruction) :
    LineRule.choice.Yields instruction := by
  unfold choice? at h
  split at h
  · cases h
    exact .openMenu
  · obtain ⟨text, target, rfl, htext, htarget⟩ := exists_of_taggedOffer? h
    exact .offer htext htarget

/-! ### Plain dialogue -/

theorem trimmed_unquote {text : List Char} (h : Trimmed text) : Trimmed (unquote text) := by
  unfold unquote
  split
  · exact trimmed_trim _
  · exact h

theorem yields_of_plainDialogue? (h : plainDialogue? config line = some instruction) :
    LineRule.plainDialogue.Yields instruction := by
  unfold plainDialogue? at h
  split at h
  · dsimp only at h
    split at h
    · cases h
    · rename_i hfull
      cases h
      simp only [Bool.or_eq_true, Bool.not_eq_true', List.isEmpty_iff, not_or] at hfull
      obtain ⟨⟨hspeaker, -⟩, htext⟩ := hfull
      refine yields_lineOf (.inr rfl) (isFull_trim ?_) (isFull_ofList htext (trimmed_unquote (trimmed_trim _)))
      intro hnil
      rw [hnil] at hspeaker
      exact hspeaker rfl
  · cases h

end Script

/-- What a rule reads is one of the instructions that it can yield. -/
theorem LineRule.yields_of_read? {rule : LineRule} {config : ScriptConfig} {next : Nat}
    {line : List Char} {instruction : Instruction} (h : rule.read? config next line = some instruction) :
    rule.Yields instruction := by
  cases rule with
  | scene => exact Script.yields_of_scene? h
  | conditional => exact Script.yields_of_conditional? h
  | image => exact Script.yields_of_image? h
  | content => exact Script.yields_of_content? h
  | jump => exact Script.yields_of_jump? h
  | choice => exact Script.yields_of_choice? h
  | plainDialogue => exact Script.yields_of_plainDialogue? h

end Storyline
