-- SUMMARY: A body is read line by line, and what is kept between two lines is a cursor.
import Mathlib.Data.List.DropRight
import Storyline.Proofs.Script.Document
import Storyline.Proofs.Script.Mending
import Storyline.Proofs.Script.Yields

/-!
# Reading line by line

How a line of a body is read depends on a cursor: how many offers stand together just before it, and may a
numbered offer follow? `readFrom_cons` says what one line does, and `readFrom_append` that lines are read where
the lines before them leave off. The cursor counts just the offers at the end of what was read.
-/

namespace Storyline

open Text

namespace Script

variable {config : ScriptConfig} {next : Nat} {line : List Char} {text : String} {target : Option NodeId}
  {instruction : Instruction}

/-! ## Offers outside of menus -/

/-- A line that holds an offer as a tag holds no marker. -/
theorem isMarker_of_taggedOffer? (h : (taggedOffer? next line).isSome = true) (word : String) :
    isMarker word line = false := by
  obtain ⟨rest, rfl⟩ := exists_tag_of_taggedOffer? h
  rfl

/-- An offer in a tag has no number in front. -/
theorem numberedOffer?_of_taggedOffer? (h : (taggedOffer? next line).isSome = true) :
    numberedOffer? line = none := by
  obtain ⟨rest, rfl⟩ := exists_tag_of_taggedOffer? h
  rfl

/-- An offer in a tag can be read wherever it stands; only its number depends on that. -/
theorem readLine?_eq_offer_iff {index : Nat} :
    readLine? config next line = some (.offer index text target) ↔
      taggedOffer? next line = some (.offer index text target) := by
  rw [readLine?_eq_some_iff]
  constructor
  · rintro ⟨rule, hread⟩
    have hyields := LineRule.yields_of_read? hread
    generalize hoffer : Instruction.offer index text target = offer at hyields
    cases hyields with
    | offer =>
      cases hoffer
      rw [LineRule.read?, choice?] at hread
      split at hread
      · cases hread
      · exact hread
    | _ => cases hoffer
  · intro hoffer
    refine ⟨.choice, ?_⟩
    rw [LineRule.read?, choice?, isMarker_of_taggedOffer? (by rw [hoffer]; rfl)]
    exact hoffer

theorem taggedOffer?_or_readLine? (config : ScriptConfig) (next : Nat) (line : List Char) :
    (taggedOffer? next line).or (readLine? config next line) = readLine? config next line := by
  cases hoffer : taggedOffer? next line with
  | none => rfl
  | some offer =>
    obtain ⟨text, target, rfl, -⟩ := exists_of_taggedOffer? hoffer
    exact (readLine?_eq_offer_iff.2 hoffer).symm

/-! ## The cursor -/

/-- What the lines before a line of a body are to it: how many offers stand together just before, and did they
begin with the marker of a menu, so that a numbered offer may follow? -/
structure Cursor where
  count : Nat
  inMenu : Bool

namespace Cursor

/-- The cursor at the beginning of a body. -/
def start : Cursor :=
  ⟨0, false⟩

/-- The cursor behind an instruction. -/
def past (cursor : Cursor) : Instruction → Cursor
  | .openMenu => ⟨0, true⟩
  | .offer _ _ _ => ⟨cursor.count + 1, cursor.inMenu⟩
  | _ => ⟨0, false⟩

/-- The instruction that is read from a line. -/
def read? (config : ScriptConfig) (cursor : Cursor) (line : List Char) : Option Instruction :=
  (if cursor.inMenu then numberedOffer? line else none).or (readLine? config (cursor.count + 1) line)

/-- The cursor behind a line. A line that is lost ends the menu, but not the count of the offers. -/
def behindLine (config : ScriptConfig) (cursor : Cursor) (line : NumberedLine) : Cursor :=
  match cursor.read? config line.text with
  | some instruction => cursor.past instruction
  | none => ⟨cursor.count, false⟩

/-- The cursor behind lines. -/
def behind (config : ScriptConfig) (cursor : Cursor) (lines : List NumberedLine) : Cursor :=
  lines.foldl (behindLine config) cursor

end Cursor

/-- What lines of a body are read as, and those that are lost. -/
def readFrom (config : ScriptConfig) (cursor : Cursor) (lines : List NumberedLine) :
    List Instruction × List NumberedLine :=
  readLines config cursor.count cursor.inMenu lines

section Cursor

variable {cursor : Cursor} {lines : List NumberedLine}

theorem Cursor.read?_eq (config : ScriptConfig) (cursor : Cursor) (line : List Char) :
    cursor.read? config line =
      (if cursor.inMenu then (numberedOffer? line).or (taggedOffer? (cursor.count + 1) line)
        else none).or (readLine? config (cursor.count + 1) line) := by
  rw [Cursor.read?]
  split
  · rw [Option.or_assoc, taggedOffer?_or_readLine?]
  · rfl

/-- An offer that is read in a menu leaves the menu open. -/
theorem Cursor.past_menuOffer {offer : Instruction} (h : (if cursor.inMenu then
      (numberedOffer? line).or (taggedOffer? (cursor.count + 1) line) else none) = some offer) :
    cursor.past offer = ⟨cursor.count + 1, true⟩ := by
  split at h
  · rename_i hmenu
    rcases Option.or_eq_some_iff.1 h with hnumbered | ⟨-, htagged⟩
    · obtain ⟨index, text, target, rfl, -⟩ := exists_of_numberedOffer? hnumbered
      rw [past, hmenu]
    · obtain ⟨text, target, rfl, -⟩ := exists_of_taggedOffer? htagged
      rw [past, hmenu]
  · cases h

theorem readFrom_of_read {line : NumberedLine} (h : cursor.read? config line.text = some instruction)
    (rest : List NumberedLine) :
    readFrom config cursor (line :: rest) =
      (instruction :: (readFrom config (cursor.past instruction) rest).1,
        (readFrom config (cursor.past instruction) rest).2) := by
  rw [Cursor.read?_eq] at h
  cases hoffer : (if cursor.inMenu then
      (numberedOffer? line.text).or (taggedOffer? (cursor.count + 1) line.text) else none) with
  | some offer =>
    rw [hoffer, Option.some_or] at h
    cases h
    simp only [readFrom, readLines, hoffer, Cursor.past_menuOffer hoffer]
  | none =>
    rw [hoffer, Option.none_or] at h
    cases instruction with
    | offer index text target =>
      -- in a menu the offer would have been read before the rules are tried
      have hbare : cursor.inMenu = false := by
        by_contra hmenu
        rw [if_pos (eq_true_of_ne_false hmenu), readLine?_eq_offer_iff.1 h, Option.or_some] at hoffer
        cases hoffer
      simp only [readFrom, readLines, h, Cursor.past, hbare, Bool.false_eq_true, if_false]
    | _ =>
      simp only [readFrom, readLines, hoffer, h]
      rfl

theorem readFrom_of_lost {line : NumberedLine} (h : cursor.read? config line.text = none)
    (rest : List NumberedLine) :
    readFrom config cursor (line :: rest) =
      ((readFrom config ⟨cursor.count, false⟩ rest).1,
        line :: (readFrom config ⟨cursor.count, false⟩ rest).2) := by
  rw [Cursor.read?_eq, Option.or_eq_none_iff] at h
  simp only [readFrom, readLines, h.1, h.2]

/-- Reading goes on behind a line with the cursor that the line leaves. -/
theorem readFrom_cons (config : ScriptConfig) (cursor : Cursor) (line : NumberedLine)
    (rest : List NumberedLine) :
    (readFrom config cursor (line :: rest)).1 = (cursor.read? config line.text).toList ++
      (readFrom config (cursor.behindLine config line) rest).1 := by
  unfold Cursor.behindLine
  cases hread : cursor.read? config line.text with
  | none => rw [readFrom_of_lost hread]; rfl
  | some instruction => rw [readFrom_of_read hread]; rfl

/-- Lines are read with the cursor that the lines before them leave. -/
theorem readFrom_append (config : ScriptConfig) (cursor : Cursor) (front later : List NumberedLine) :
    (readFrom config cursor (front ++ later)).1 =
      (readFrom config cursor front).1 ++ (readFrom config (cursor.behind config front) later).1 := by
  induction front generalizing cursor with
  | nil => rfl
  | cons line rest ih =>
    rw [List.cons_append, readFrom_cons, readFrom_cons, ih, List.append_assoc]
    rfl

/-- Whatever is read was read from a line. -/
theorem exists_of_mem_readFrom (h : instruction ∈ (readFrom config cursor lines).1) :
    ∃ earlier : Cursor, ∃ line ∈ lines, earlier.read? config line.text = some instruction := by
  induction lines generalizing cursor with
  | nil => cases h
  | cons line rest ih =>
    rw [readFrom_cons, List.mem_append, Option.mem_toList] at h
    rcases h with hread | hrest
    · exact ⟨cursor, line, List.mem_cons_self, hread⟩
    · obtain ⟨earlier, other, hother, hread⟩ := ih hrest
      exact ⟨earlier, other, List.mem_cons_of_mem line hother, hread⟩

/-! ## Counting offers -/

/-- How many offers stand together at the end of a list? -/
def trailingOffers (list : List Instruction) : Nat :=
  (list.rtakeWhile (·.isOffer)).length

theorem trailingOffers_concat_offer (h : instruction.isOffer = true) (list : List Instruction) :
    trailingOffers (list ++ [instruction]) = trailingOffers list + 1 := by
  rw [trailingOffers, List.rtakeWhile_concat_pos _ _ _ h, List.length_append]
  rfl

theorem trailingOffers_concat_other (h : instruction.isOffer = false) (list : List Instruction) :
    trailingOffers (list ++ [instruction]) = 0 := by
  rw [trailingOffers, List.rtakeWhile_concat_neg _ _ _ (by rw [h]; exact Bool.false_ne_true)]
  rfl

/-- Behind an instruction the cursor counts on if it counted the offers before. -/
theorem Cursor.count_past {list : List Instruction} (h : cursor.count = trailingOffers list)
    (instruction : Instruction) :
    (cursor.past instruction).count = trailingOffers (list ++ [instruction]) := by
  cases instruction with
  | offer index text target => rw [trailingOffers_concat_offer rfl, ← h, Cursor.past]
  | _ => rw [trailingOffers_concat_other rfl]; rfl

/-- The cursor counts the offers that stand together just before it, whatever lines are lost between them. -/
theorem Cursor.count_behind {list : List Instruction} (h : cursor.count = trailingOffers list)
    (lines : List NumberedLine) :
    (cursor.behind config lines).count = trailingOffers (list ++ (readFrom config cursor lines).1) := by
  induction lines generalizing cursor list with
  | nil => rw [show (readFrom config cursor []).1 = [] from rfl, List.append_nil]; exact h
  | cons line rest ih =>
    have hline : (cursor.behindLine config line).count =
        trailingOffers (list ++ (cursor.read? config line.text).toList) := by
      unfold Cursor.behindLine
      cases cursor.read? config line.text with
      | none => rw [Option.toList_none, List.append_nil]; exact h
      | some instruction => exact Cursor.count_past h instruction
    rw [readFrom_cons, ← List.append_assoc]
    exact ih hline

end Cursor

/-! ## Lists and their sections -/

variable {id : NodeId} {list : List Instruction}

/-- Every list of a script was read from a section of the document. -/
theorem exists_section_of_get? {document : String} (h : (parse config document).1.get? id = some list) :
    ∃ lines, ⟨id, lines⟩ ∈ (sections (numberedLines document.toList)).2 ∧
      list = (readBody config id lines).1 := by
  have hscript : (parse config document).1 =
      (addSections config .empty (sections (numberedLines document.toList)).2).1 := rfl
  rw [hscript, addSections_fst, ← SortedMap.ofList, SortedMap.get?_ofList] at h
  obtain ⟨_, _, hentries, -⟩ := List.lookup_eq_some_iff.1 h
  have hentry := List.mem_reverse.1 (hentries ▸ List.mem_append_right _ List.mem_cons_self)
  obtain ⟨⟨_, lines⟩, hpart, ⟨⟩⟩ := List.mem_map.1 hentry
  exact ⟨lines, hpart, (readBody_fst _ lines).symm⟩

/-- What a list holds was read from a line of its section, or it closes a condition. -/
theorem exists_of_mem_readBody {lines : List NumberedLine}
    (h : instruction ∈ (readBody config id lines).1) :
    (∃ cursor : Cursor, ∃ line ∈ lines, cursor.read? config line.text = some instruction) ∨
      instruction = .endIf := by
  obtain ⟨kept, -, added, -, hkept, -, hlist, -⟩ := (mended_balance (readFrom config .start lines).1).repair
  have hread : (readBody config id lines).1 = kept ++ List.replicate added .endIf := hlist
  rw [hread, List.mem_append] at h
  exact h.imp (fun hmem => exists_of_mem_readFrom (hkept.mem hmem)) List.eq_of_mem_replicate

end Script

end Storyline
