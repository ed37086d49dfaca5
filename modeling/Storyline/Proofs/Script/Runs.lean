-- SUMMARY: The numbers of offers without a number of their own, and the runs of offers they stand in.
import Storyline.Proofs.Script.Reading

/-!
# Runs of offers

Offers that stand together are shown as one menu. An offer in a tag has no number of its own and gets its
position among the offers that were read just before it. Balancing the list comes later: where it drops a marker
between two offers, two runs become one, and the numbers start again in the middle of it. Nowhere else does an
offer in a tag have another number than its position in its run.
-/

namespace Storyline.Script

variable {config : ScriptConfig} {line : List Char} {front list run raw kept : List Instruction}
  {causes : List Imbalance} {instruction : Instruction}

/-! ## Positions -/

/-- Which position in its run has an offer behind this list? -/
def offerPosition (front : List Instruction) : Nat :=
  trailingOffers front + 1

theorem trailingOffers_append (front : List Instruction) (h : ∀ offer ∈ run, offer.isOffer = true) :
    trailingOffers (front ++ run) = trailingOffers front + run.length := by
  induction run using List.reverseRecOn with
  | nil => rw [List.append_nil]; rfl
  | append_singleton run offer ih =>
    obtain ⟨hrun, hoffer⟩ := List.forall_mem_append.1 h
    rw [← List.append_assoc, trailingOffers_concat_offer (hoffer _ List.mem_cons_self), ih hrun,
      List.length_append]
    rfl

theorem trailingOffers_append_cons (hother : instruction.isOffer = false) (front : List Instruction)
    (h : ∀ offer ∈ run, offer.isOffer = true) :
    trailingOffers (front ++ instruction :: run) = run.length := by
  rw [List.append_cons, trailingOffers_append _ h, trailingOffers_concat_other hother, Nat.zero_add]

/-- The offers at the end of a list reach back to its beginning or to another instruction. -/
theorem exists_run (list : List Instruction) :
    (∀ offer ∈ list, offer.isOffer = true) ∨ ∃ early instruction run,
      list = early ++ instruction :: run ∧ instruction.isOffer = false ∧
        ∀ offer ∈ run, offer.isOffer = true := by
  induction list using List.reverseRecOn with
  | nil => exact .inl nofun
  | append_singleton front last ih =>
    cases hlast : last.isOffer with
    | false => exact .inr ⟨front, last, [], rfl, hlast, nofun⟩
    | true =>
      have hsingle : ∀ offer ∈ [last], offer.isOffer = true := List.forall_mem_singleton.2 hlast
      rcases ih with hoffers | ⟨early, instruction, run, rfl, hother, hrun⟩
      · exact .inl (List.forall_mem_append.2 ⟨hoffers, hsingle⟩)
      · exact .inr ⟨early, instruction, run ++ [last], List.append_assoc _ _ _, hother,
          List.forall_mem_append.2 ⟨hrun, hsingle⟩⟩

/-! ## Runs that become one -/

/-- Are the offers at the end of what was read parted from others by a marker that balancing drops? -/
def Parted (raw : List Instruction) : Prop :=
  ∃ early marker run kept causes, raw = early ++ marker :: run ∧ (∀ offer ∈ run, offer.isOffer = true) ∧
    Mends [] early kept causes ∧ ¬Continues (kept ++ [marker]) ∧ 0 < trailingOffers kept

theorem isElseOrEnd_of_isOffer (h : instruction.isOffer = true) : isElseOrEnd instruction = false := by
  cases instruction <;> first | rfl | cases h

theorem Mends.eq_of_offers (h : Mends front run kept causes)
    (hrun : ∀ offer ∈ run, offer.isOffer = true) : kept = run :=
  h.eq_of_others fun offer hoffer => isElseOrEnd_of_isOffer (hrun offer hoffer)

theorem Misfit.isOffer {cause : Imbalance} (h : Misfit instruction cause) :
    instruction.isOffer = false := by
  cases h <;> rfl

/-- Offers that were parted have a higher position in the end. -/
theorem Parted.lt (h : Parted raw) (hmends : Mends [] raw kept causes) :
    trailingOffers raw < trailingOffers kept := by
  obtain ⟨early, marker, run, keptEarly, _, rfl, hrun, hearly, hstuck, hoffers⟩ := h
  obtain ⟨keptFront, _, keptLater, _, hfront, hlater, rfl⟩ := hmends.exists_of_append
  obtain rfl := hfront.unique hearly
  cases hlater with
  | keep hfits _ => exact absurd hfits hstuck
  | drop _ hmisfit hrest =>
    rw [hrest.eq_of_offers hrun, trailingOffers_append_cons hmisfit.isOffer early hrun,
      trailingOffers_append keptFront hrun]
    exact Nat.lt_add_of_pos_left hoffers

/-- Offers that were not parted keep their position. -/
theorem trailingOffers_eq_of_not_parted (h : ¬Parted raw) (hmends : Mends [] raw kept causes) :
    trailingOffers raw = trailingOffers kept := by
  rcases exists_run raw with hoffers | ⟨early, instruction, run, rfl, hother, hrun⟩
  · rw [hmends.eq_of_offers hoffers]
  · obtain ⟨keptFront, _, keptLater, _, hfront, hlater, rfl⟩ := hmends.exists_of_append
    cases hlater with
    | keep _ hrest =>
      rw [hrest.eq_of_offers hrun, trailingOffers_append_cons hother early hrun,
        trailingOffers_append_cons hother keptFront hrun]
    | drop hstuck hmisfit hrest =>
      have hnone : trailingOffers keptFront = 0 := by
        by_contra hsome
        exact h ⟨early, instruction, run, keptFront, _, rfl, hrun, hfront, hstuck,
          Nat.pos_of_ne_zero hsome⟩
      rw [hrest.eq_of_offers hrun, trailingOffers_append_cons hother early hrun,
        trailingOffers_append keptFront hrun, hnone, Nat.zero_add]

theorem trailingOffers_mended (h : Mends [] raw kept causes) :
    trailingOffers raw ≤ trailingOffers kept ∧
      (trailingOffers raw = trailingOffers kept ↔ ¬Parted raw) := by
  by_cases hparted : Parted raw
  · have hlt := hparted.lt h
    exact ⟨hlt.le, iff_of_false hlt.ne (not_not_intro hparted)⟩
  · have heq := trailingOffers_eq_of_not_parted hparted h
    exact ⟨heq.le, iff_of_true heq hparted⟩

/-! ## Offers in tags -/

/-- Is the line an offer in a tag? -/
def IsTaggedOffer (line : List Char) : Prop :=
  (taggedOffer? 1 line).isSome = true

instance (line : List Char) : Decidable (IsTaggedOffer line) :=
  inferInstanceAs (Decidable (_ = true))

/-- The text and the target of an offer do not depend on the number that it gets. -/
theorem taggedOffer?_renumber {next : Nat} {text : String} {target : Option NodeId}
    (h : taggedOffer? next line = some (.offer next text target)) (other : Nat) :
    taggedOffer? other line = some (.offer other text target) := by
  simp only [taggedOffer?, Option.bind_eq_bind, Option.bind_eq_some_iff] at h
  obtain ⟨rest, hopen, behind, hend, body, hclose, hoffer⟩ := h
  split at hoffer
  · cases hoffer
  · rename_i hfull
    cases hoffer
    simp only [taggedOffer?, bind, Option.bind, hopen, hend, hclose, if_neg hfull]

/-- An offer in a tag is read wherever it stands, and its number is the next one. -/
theorem exists_of_isTaggedOffer (h : IsTaggedOffer line) :
    ∃ text target, (∀ next, taggedOffer? next line = some (.offer next text target)) ∧
      ∀ (config : ScriptConfig) (cursor : Cursor),
        cursor.read? config line = some (.offer (cursor.count + 1) text target) := by
  obtain ⟨offer, hoffer⟩ := Option.isSome_iff_exists.1 h
  obtain ⟨text, target, rfl, -⟩ := exists_of_taggedOffer? hoffer
  have htagged := taggedOffer?_renumber hoffer
  refine ⟨text, target, htagged, fun config cursor => ?_⟩
  rw [Cursor.read?, numberedOffer?_of_taggedOffer? h, ite_self, Option.none_or]
  exact readLine?_eq_offer_iff.2 (htagged _)

/-- What balancing keeps of the lines `front` of a body is `before`, and `index` is the number of an offer in a
tag that follows them. It is the position of the offer in its run unless the offer was parted from others. -/
structure Numbered (config : ScriptConfig) (front : List NumberedLine) (before : List Instruction)
    (index : Nat) : Prop where
  kept : ∃ causes, Mends [] (readFrom config .start front).1 before causes
  le_position : index ≤ offerPosition before
  eq_position_iff : index = offerPosition before ↔ ¬Parted (readFrom config .start front).1

theorem numbered_of_mends {front : List NumberedLine} {before : List Instruction}
    (h : Mends [] (readFrom config .start front).1 before causes) :
    Numbered config front before ((Cursor.start.behind config front).count + 1) := by
  have hstart : Cursor.start.count = trailingOffers [] := rfl
  have hcount : (Cursor.start.behind config front).count = trailingOffers (readFrom config .start front).1 :=
    Cursor.count_behind hstart front
  obtain ⟨hle, heq⟩ := trailingOffers_mended h
  rw [hcount]
  exact ⟨⟨causes, h⟩, Nat.succ_le_succ hle, Nat.succ_inj.trans heq⟩

/-- The offer that a line holds as a tag stands in the list of its body, behind what is kept of the lines
before it. -/
theorem exists_numbered (config : ScriptConfig) (id : NodeId) (front later : List NumberedLine)
    {line : NumberedLine} (h : IsTaggedOffer line.text) :
    ∃ before index text target after,
      (readBody config id (front ++ line :: later)).1 = before ++ .offer index text target :: after ∧
        taggedOffer? index line.text = some (.offer index text target) ∧
          Numbered config front before index := by
  obtain ⟨text, target, htagged, hread⟩ := exists_of_isTaggedOffer h
  obtain ⟨kept, _, added, hmends, -, -, hlist, -⟩ :=
    (mended_balance (readFrom config .start (front ++ line :: later)).1).repair
  rw [readFrom_append, readFrom_of_read (hread config _)] at hmends
  obtain ⟨before, _, keptLater, _, hfront, hlater, rfl⟩ := hmends.exists_of_append
  cases hlater with
  | @keep _ _ after _ _ _ _ =>
    refine ⟨before, _, text, target, after ++ List.replicate added .endIf, ?_, htagged _,
      numbered_of_mends hfront⟩
    rw [← List.cons_append, ← List.append_assoc]
    exact hlist
  | drop _ hmisfit _ => cases hmisfit

/-- In the lists of a script an offer that was written as a tag has its position in its run for a number, exactly
if no marker that was dropped stood between it and other offers of the run; otherwise its number is lower. -/
theorem tagged_offer_numbered (config : ScriptConfig) (document : String) {id : NodeId}
    (h : (parse config document).1.get? id = some list) :
    ∃ lines, ⟨id, lines⟩ ∈ (sections (numberedLines document.toList)).2 ∧
      list = (readBody config id lines).1 ∧
      ∀ (front later : List NumberedLine) (line : NumberedLine), lines = front ++ line :: later →
        IsTaggedOffer line.text → ∃ before index text target after,
          list = before ++ .offer index text target :: after ∧
            taggedOffer? index line.text = some (.offer index text target) ∧
              Numbered config front before index := by
  obtain ⟨lines, hsection, rfl⟩ := exists_section_of_get? h
  refine ⟨lines, hsection, rfl, ?_⟩
  rintro front later line rfl hline
  exact exists_numbered config id front later hline

/-- A marker that is kept, or a line that is lost, makes no difference. -/
theorem tagged_offer_numbered_of_market :
    let document := "=== Node: market ===\n<choice>Look</choice>\n[IF: Mio >= 1]\n<choice>Buy</choice>\n" ++
      "??\n<choice target=\"road\">Leave</choice>\n[ENDIF]"
    let list := [.offer 1 "Look" none, .ifLevel "Mio" 1, .offer 1 "Buy" none,
      .offer 2 "Leave" (some "road"), .endIf]
    (parse {} document).1.get? "market" = some list ∧
      ∃ lines, ⟨"market", lines⟩ ∈ (sections (numberedLines document.toList)).2 ∧
        list = (readBody {} "market" lines).1 ∧
        ∀ (front later : List NumberedLine) (line : NumberedLine), lines = front ++ line :: later →
          IsTaggedOffer line.text → ∃ before index text target after,
            list = before ++ .offer index text target :: after ∧
              taggedOffer? index line.text = some (.offer index text target) ∧
                Numbered {} front before index := by
  intro document list
  have hlist : (parse {} document).1.get? "market" = some list := by decide +kernel
  exact ⟨hlist, tagged_offer_numbered {} document hlist⟩

/-- Where a stray marker is dropped between two offers, the second one in the run is numbered as the first. -/
theorem tagged_offer_behind_stray_marker :
    let document := "=== Node: root ===\n<choice>Stay</choice>\n[ENDIF]\n<choice>Go</choice>"
    let before := [.offer 1 "Stay" none]
    parse {} document =
        (.ofList [("root", before ++ [.offer 1 "Go" none])], [.unbalanced "root" .endIfOutsideIf]) ∧
      IsTaggedOffer "<choice>Go</choice>".toList ∧ offerPosition before = 2 := by
  intro document before
  exact ⟨by decide +kernel, by decide +kernel, by decide +kernel⟩

end Storyline.Script
