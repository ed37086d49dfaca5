-- SUMMARY: The conditions that enclose a position of a list.
import Storyline.Proofs.Script.Nesting

/-!
# Enclosing conditions

A condition *encloses* a position of a list if it opens before the position and nothing in between closes it.
`conditionsAt` finds these conditions in one pass over the list. That it finds the right ones, with the part
of each that the position is in, is `mem_conditionsAt_iff`.
-/

namespace Storyline.Script

/-! ## Tracking conditions -/

variable {instruction : Instruction}

/-- The conditions that are open behind an instruction. -/
def track (position : Nat) (opened : List OpenCondition) : Instruction → List OpenCondition
  | .ifLevel _ _ => ⟨position, .thenPart⟩ :: opened
  | .otherwise =>
    match opened with
    | [] => []
    | condition :: outer => { condition with branch := .elsePart } :: outer
  | .endIf => opened.tail
  | _ => opened

/-- The conditions that are open behind a piece of a list that begins at a position. -/
def conditionsFrom : (position : Nat) → List OpenCondition → List Instruction → List OpenCondition
  | _, opened, [] => opened
  | position, opened, instruction :: rest =>
    conditionsFrom (position + 1) (track position opened instruction) rest

/-- The conditions that enclose a position of a list, innermost first. -/
def conditionsAt (list : List Instruction) (position : Nat) : List OpenCondition :=
  conditionsFrom 0 [] (list.take position)

theorem track_plain (position : Nat) (opened : List OpenCondition) (h : instruction.isMarker = false) :
    track position opened instruction = opened := by
  cases instruction with
  | ifLevel | otherwise | endIf => cases h
  | _ => rfl

theorem conditionsFrom_append (position : Nat) (opened : List OpenCondition)
    (list later : List Instruction) :
    conditionsFrom position opened (list ++ later) =
      conditionsFrom (position + list.length) (conditionsFrom position opened list) later := by
  induction list generalizing position opened with
  | nil => rfl
  | cons instruction rest ih =>
    rw [List.cons_append, conditionsFrom, ih, conditionsFrom, List.length_cons]
    congr 1
    omega

/-- The conditions at a later position follow from those at an earlier one. -/
theorem conditionsAt_add (list : List Instruction) {position : Nat} (h : position ≤ list.length)
    (distance : Nat) :
    conditionsAt list (position + distance) =
      conditionsFrom position (conditionsAt list position) ((list.drop position).take distance) := by
  unfold conditionsAt
  rw [List.take_add, conditionsFrom_append, List.length_take, Nat.min_eq_left h, Nat.zero_add]

/-- The conditions behind an instruction and some more that are passed over. -/
theorem conditionsAt_behind {list rest : List Instruction} {position : Nat}
    (h : list.drop position = instruction :: rest) (skipped : Nat) :
    conditionsAt list (position + 1 + skipped) =
      conditionsFrom (position + 1) (track position (conditionsAt list position) instruction)
        (rest.take skipped) := by
  have hle : position ≤ list.length := by
    have hlength := length_of_front h
    omega
  rw [Nat.add_assoc, Nat.add_comm 1, conditionsAt_add list hle, h, List.take_succ_cons, conditionsFrom]

/-- What is left of a well-nested list fits into the conditions that are open there. -/
theorem nests_conditionsFrom {list later : List Instruction} (position : Nat)
    {opened : List OpenCondition} (h : nests (opened.map (·.branch)) (list ++ later) = true) :
    nests ((conditionsFrom position opened list).map (·.branch)) later = true := by
  induction list generalizing position opened with
  | nil => exact h
  | cons instruction rest ih =>
    apply ih (position + 1)
    cases instruction using Instruction.markerCases with
    | ifLevel => exact h
    | otherwise =>
      obtain ⟨outer, hopened, hnests⟩ := nests_otherwise h
      cases opened with
      | nil => cases hopened
      | cons condition conditions =>
        obtain ⟨_, rfl⟩ := List.cons.inj hopened
        exact hnests
    | endIf =>
      obtain ⟨_, outer, hopened, hnests⟩ := nests_endIf h
      rw [track, List.map_tail, hopened]
      exact hnests
    | plain instruction hplain =>
      rw [track_plain _ _ hplain]
      rwa [List.cons_append, nests_plain _ hplain] at h

theorem WellNested.nests_drop {list : List Instruction} (h : WellNested list) (position : Nat) :
    nests ((conditionsAt list position).map (·.branch)) (list.drop position) = true :=
  nests_conditionsFrom 0 (by rwa [List.take_append_drop])

/-! ## Enclosing conditions -/

/-- How many more conditions a piece of a list opens than it closes. -/
def surplus : List Instruction → Int
  | [] => 0
  | .ifLevel _ _ :: rest => surplus rest + 1
  | .endIf :: rest => surplus rest - 1
  | _ :: rest => surplus rest

/-- The instructions behind an `ifLevel` do not close it and lead into the given part of it: into the other
part if they hold an `otherwise` of its own level. -/
structure LeadsInto (inner : List Instruction) (branch : Branch) : Prop where
  unclosed : ∀ part, part <+: inner → 0 ≤ surplus part
  branch_eq : branch = .elsePart ↔ ∃ part, part ++ [.otherwise] <+: inner ∧ surplus part = 0

/-- The condition opens in the given front of a list and encloses the position behind that front; `depth`
conditions are open inside of it. -/
def EnclosesAt (front : List Instruction) (depth : Nat) (condition : OpenCondition) : Prop :=
  ∃ before role level inner, front = before ++ .ifLevel role level :: inner ∧
    before.length = condition.position ∧ LeadsInto inner condition.branch ∧ surplus inner = depth

/-- The condition encloses the position of the list: it opens before the position, nothing in between closes
it, and the position is in the given part of it. -/
def Encloses (list : List Instruction) (position : Nat) (condition : OpenCondition) : Prop :=
  ∃ before role level inner, list.take position = before ++ .ifLevel role level :: inner ∧
    before.length = condition.position ∧ LeadsInto inner condition.branch

theorem surplus_plain (h : instruction.isMarker = false) : surplus [instruction] = 0 := by
  cases instruction with
  | ifLevel | endIf => cases h
  | _ => rfl

theorem surplus_append (list later : List Instruction) :
    surplus (list ++ later) = surplus list + surplus later := by
  induction list with
  | nil => simp [surplus]
  | cons instruction rest ih =>
    cases instruction with
    | ifLevel | endIf =>
      simp only [List.cons_append, surplus, ih]
      omega
    | _ => exact ih

theorem leadsInto_nil {branch : Branch} : LeadsInto [] branch ↔ branch = .thenPart := by
  constructor
  · intro h
    cases branch with
    | thenPart => rfl
    | elsePart =>
      obtain ⟨part, hpart, _⟩ := h.branch_eq.1 rfl
      simp at hpart
  · rintro rfl
    refine ⟨?_, by simp⟩
    intro part hpart
    simp [List.prefix_nil.1 hpart, surplus]

theorem exists_leadsInto {inner : List Instruction}
    (h : ∀ part, part <+: inner → 0 ≤ surplus part) : ∃ branch, LeadsInto inner branch := by
  by_cases hpart : ∃ part, part ++ [.otherwise] <+: inner ∧ surplus part = 0
  · exact ⟨.elsePart, h, iff_of_true rfl hpart⟩
  · exact ⟨.thenPart, h, iff_of_false (by simp) hpart⟩

theorem leadsInto_concat {inner : List Instruction} {branch : Branch} (h : instruction ≠ .otherwise) :
    LeadsInto (inner ++ [instruction]) branch ↔
      LeadsInto inner branch ∧ 0 ≤ surplus (inner ++ [instruction]) := by
  -- the own `otherwise` of the condition stands before the last instruction, if anywhere
  have hdivides : ∀ part, part ++ [.otherwise] <+: inner ++ [instruction] ↔
      part ++ [.otherwise] <+: inner := by
    intro part
    rw [List.prefix_concat_iff]
    apply or_iff_right
    intro hcon
    exact h (List.cons.inj (List.append_inj' hcon rfl).2).1.symm
  constructor
  · intro hleads
    refine ⟨⟨?_, ?_⟩, hleads.unclosed _ (List.prefix_refl _)⟩
    · intro part hpart
      exact hleads.unclosed part (hpart.trans (List.prefix_append _ _))
    · rw [hleads.branch_eq]
      simp only [hdivides]
  · rintro ⟨hleads, hsurplus⟩
    refine ⟨?_, ?_⟩
    · intro part hpart
      rcases List.prefix_concat_iff.1 hpart with rfl | hpart
      · exact hsurplus
      · exact hleads.unclosed part hpart
    · simp only [hdivides]
      exact hleads.branch_eq

/-- Behind an `otherwise` of the own level the other part begins. -/
theorem leadsInto_concat_otherwise {inner : List Instruction} {branch : Branch} :
    LeadsInto (inner ++ [.otherwise]) branch ↔
      if surplus inner = 0 then branch = .elsePart ∧ ∃ earlier, LeadsInto inner earlier
      else LeadsInto inner branch := by
  have hsame : surplus (inner ++ [.otherwise]) = surplus inner := by simp [surplus_append, surplus]
  have hunclosed : (∀ part, part <+: inner ++ [.otherwise] → 0 ≤ surplus part) ↔
      ∀ part, part <+: inner → 0 ≤ surplus part := by
    constructor
    · intro h part hpart
      exact h part (hpart.trans (List.prefix_append _ _))
    · intro h part hpart
      rcases List.prefix_concat_iff.1 hpart with rfl | hpart
      · rw [hsame]
        exact h inner (List.prefix_refl _)
      · exact h part hpart
  have hdivides : ∀ part, part ++ [.otherwise] <+: inner ++ [.otherwise] ↔
      part = inner ∨ part ++ [.otherwise] <+: inner := by
    intro part
    rw [List.prefix_concat_iff, List.append_left_inj]
  split
  · rename_i hlevel
    constructor
    · intro h
      exact ⟨h.branch_eq.2 ⟨inner, (hdivides inner).2 (.inl rfl), hlevel⟩,
        exists_leadsInto (hunclosed.1 h.unclosed)⟩
    · rintro ⟨rfl, earlier, h⟩
      exact ⟨hunclosed.2 h.unclosed,
        iff_of_true rfl ⟨inner, (hdivides inner).2 (.inl rfl), hlevel⟩⟩
  · rename_i hlevel
    have hpart : (∃ part, part ++ [.otherwise] <+: inner ++ [.otherwise] ∧ surplus part = 0) ↔
        ∃ part, part ++ [.otherwise] <+: inner ∧ surplus part = 0 := by
      apply exists_congr
      intro part
      rw [hdivides, or_and_right, or_iff_right]
      rintro ⟨rfl, hsurplus⟩
      exact hlevel hsurplus
    constructor
    · intro h
      exact ⟨hunclosed.1 h.unclosed, h.branch_eq.trans hpart⟩
    · intro h
      exact ⟨hunclosed.2 h.unclosed, h.branch_eq.trans hpart.symm⟩

/-! ## One instruction further -/

section Further

variable {front : List Instruction} {depth : Nat} {condition : OpenCondition}

theorem enclosesAt_concat_cases :
    EnclosesAt (front ++ [instruction]) depth condition ↔
      (∃ role level, instruction = .ifLevel role level ∧ depth = 0 ∧
        condition = ⟨front.length, .thenPart⟩) ∨
      ∃ before role level inner, front = before ++ .ifLevel role level :: inner ∧
        before.length = condition.position ∧ LeadsInto (inner ++ [instruction]) condition.branch ∧
        surplus (inner ++ [instruction]) = depth := by
  constructor
  · rintro ⟨before, role, level, inner, hfront, hlength, hleads, hsurplus⟩
    rcases inner.eq_nil_or_concat with rfl | ⟨inner, last, rfl⟩
    · obtain ⟨rfl, hlast⟩ := List.append_inj' hfront rfl
      refine .inl ⟨role, level, (List.cons.inj hlast).1, ?_, ?_⟩
      · simpa [surplus] using hsurplus.symm
      · rw [hlength, ← leadsInto_nil.1 hleads]
    · rw [List.concat_eq_append, ← List.cons_append, ← List.append_assoc] at hfront
      obtain ⟨rfl, hlast⟩ := List.append_inj' hfront rfl
      obtain ⟨rfl, -⟩ := List.cons.inj hlast
      rw [List.concat_eq_append] at hleads hsurplus
      exact .inr ⟨before, role, level, inner, rfl, hlength, hleads, hsurplus⟩
  · rintro (⟨role, level, rfl, rfl, rfl⟩ | ⟨before, role, level, inner, rfl, hlength, hleads, hsurplus⟩)
    · exact ⟨front, role, level, [], rfl, rfl, leadsInto_nil.2 rfl, rfl⟩
    · exact ⟨before, role, level, inner ++ [instruction], by simp, hlength, hleads, hsurplus⟩

theorem enclosesAt_concat (h : instruction ≠ .otherwise) :
    EnclosesAt (front ++ [instruction]) depth condition ↔
      (∃ role level, instruction = .ifLevel role level ∧ depth = 0 ∧
        condition = ⟨front.length, .thenPart⟩) ∨
      ∃ earlier : Nat, EnclosesAt front earlier condition ∧ earlier + surplus [instruction] = depth := by
  rw [enclosesAt_concat_cases]
  apply or_congr_right
  constructor
  · rintro ⟨before, role, level, inner, hfront, hlength, hleads, hsurplus⟩
    have hleads := ((leadsInto_concat h).1 hleads).1
    have hnonneg := hleads.unclosed inner (List.prefix_refl _)
    rw [surplus_append] at hsurplus
    exact ⟨(surplus inner).toNat,
      ⟨before, role, level, inner, hfront, hlength, hleads, (Int.toNat_of_nonneg hnonneg).symm⟩,
      by rw [Int.toNat_of_nonneg hnonneg, hsurplus]⟩
  · rintro ⟨earlier, ⟨before, role, level, inner, hfront, hlength, hleads, hsurplus⟩, hdepth⟩
    have htotal : surplus (inner ++ [instruction]) = depth := by
      rw [surplus_append, hsurplus, hdepth]
    exact ⟨before, role, level, inner, hfront, hlength,
      (leadsInto_concat h).2 ⟨hleads, by omega⟩, htotal⟩

theorem enclosesAt_concat_otherwise :
    EnclosesAt (front ++ [.otherwise]) depth condition ↔
      if depth = 0 then
        condition.branch = .elsePart ∧
          ∃ earlier, EnclosesAt front 0 { condition with branch := earlier }
      else EnclosesAt front depth condition := by
  have hsame : ∀ inner, surplus (inner ++ [.otherwise]) = surplus inner := by
    intro inner
    simp [surplus_append, surplus]
  rw [enclosesAt_concat_cases, or_iff_right (by simp)]
  simp only [leadsInto_concat_otherwise, hsame]
  split
  · rename_i hdepth
    subst hdepth
    constructor
    · rintro ⟨before, role, level, inner, hfront, hlength, hleads, hsurplus⟩
      rw [hsurplus, if_pos Int.natCast_zero] at hleads
      obtain ⟨hbranch, earlier, hleads⟩ := hleads
      exact ⟨hbranch, earlier, before, role, level, inner, hfront, hlength, hleads, hsurplus⟩
    · rintro ⟨hbranch, earlier, before, role, level, inner, hfront, hlength, hleads, hsurplus⟩
      refine ⟨before, role, level, inner, hfront, hlength, ?_, hsurplus⟩
      rw [hsurplus, if_pos Int.natCast_zero]
      exact ⟨hbranch, earlier, hleads⟩
  · rename_i hdepth
    refine exists_congr fun before => exists_congr fun role => exists_congr fun level =>
      exists_congr fun inner => ?_
    refine and_congr_right fun _ => and_congr_right fun _ => and_congr_left fun hsurplus => ?_
    rw [hsurplus, if_neg (by omega)]

end Further

/-! ## Tracking finds what encloses -/

/-- The open conditions are those that enclose the position behind the front, innermost first. -/
def Finds (front : List Instruction) (opened : List OpenCondition) : Prop :=
  ∀ (depth : Nat) (condition : OpenCondition),
    opened[depth]? = some condition ↔ EnclosesAt front depth condition

theorem finds_nil : Finds [] [] := by
  intro depth condition
  apply iff_of_false (by simp)
  rintro ⟨before, role, level, inner, hfront, _⟩
  simp at hfront

namespace Finds

variable {front : List Instruction} {opened : List OpenCondition}

theorem ifLevel (h : Finds front opened) (role : String) (level : Int) :
    Finds (front ++ [.ifLevel role level]) (⟨front.length, .thenPart⟩ :: opened) := by
  intro depth condition
  have hne : Instruction.ifLevel role level ≠ .otherwise := by simp
  rw [enclosesAt_concat hne]
  cases depth with
  | zero =>
    rw [List.getElem?_cons_zero, or_iff_left]
    · simp [eq_comm]
    · rintro ⟨earlier, _, hdepth⟩
      simp only [surplus] at hdepth
      omega
  | succ depth =>
    rw [List.getElem?_cons_succ, h, or_iff_right (by simp)]
    constructor
    · intro hencloses
      exact ⟨depth, hencloses, by simp [surplus]⟩
    · rintro ⟨earlier, hencloses, hdepth⟩
      simp only [surplus] at hdepth
      obtain rfl : earlier = depth := by omega
      exact hencloses

theorem otherwise (h : Finds front opened) :
    Finds (front ++ [.otherwise]) (Script.track front.length opened .otherwise) := by
  intro depth condition
  rw [enclosesAt_concat_otherwise]
  split
  · rename_i hdepth
    subst hdepth
    simp only [← h _ _]
    cases opened with
    | nil => simp [Script.track]
    | cons innermost outer =>
      cases innermost
      cases condition
      simp [Script.track, and_comm, eq_comm]
  · rename_i hdepth
    rw [← h]
    cases opened with
    | nil => rfl
    | cons innermost outer =>
      obtain ⟨depth, rfl⟩ := Nat.exists_eq_succ_of_ne_zero hdepth
      rfl

theorem endIf (h : Finds front opened) : Finds (front ++ [.endIf]) opened.tail := by
  intro depth condition
  have hne : Instruction.endIf ≠ .otherwise := by simp
  rw [enclosesAt_concat hne, or_iff_right (by simp), List.getElem?_tail, h]
  constructor
  · intro hencloses
    refine ⟨depth + 1, hencloses, ?_⟩
    simp only [surplus]
    omega
  · rintro ⟨earlier, hencloses, hdepth⟩
    simp only [surplus] at hdepth
    obtain rfl : earlier = depth + 1 := by omega
    exact hencloses

theorem plain (h : Finds front opened) (hplain : instruction.isMarker = false) :
    Finds (front ++ [instruction]) opened := by
  intro depth condition
  have hne : instruction ≠ .otherwise := by
    rintro rfl
    cases hplain
  have hif : ∀ role level, instruction ≠ .ifLevel role level := by
    rintro role level rfl
    cases hplain
  have hsurplus : surplus [instruction] = 0 := surplus_plain hplain
  rw [enclosesAt_concat hne, or_iff_right (by simp [hif]), h]
  constructor
  · intro hencloses
    exact ⟨depth, hencloses, by simp [hsurplus]⟩
  · rintro ⟨earlier, hencloses, hdepth⟩
    obtain rfl : earlier = depth := by omega
    exact hencloses

/-- What one instruction does to the open conditions is what it does to the enclosing ones. -/
theorem track (h : Finds front opened) (instruction : Instruction) :
    Finds (front ++ [instruction]) (Script.track front.length opened instruction) := by
  cases instruction using Instruction.markerCases with
  | ifLevel role level => exact h.ifLevel role level
  | otherwise => exact h.otherwise
  | endIf => exact h.endIf
  | plain instruction hplain =>
    rw [track_plain _ _ hplain]
    exact h.plain hplain

theorem conditionsFrom {front : List Instruction} {opened : List OpenCondition}
    (h : Finds front opened) (list : List Instruction) :
    Finds (front ++ list) (Script.conditionsFrom front.length opened list) := by
  induction list generalizing front opened with
  | nil =>
    rw [Script.conditionsFrom, List.append_nil]
    exact h
  | cons instruction rest ih =>
    have hrest := ih (h.track instruction)
    rw [List.append_assoc, List.singleton_append, List.length_append] at hrest
    exact hrest

end Finds

/-- The conditions open before the position, inner ones behind outer ones. -/
def Descending (position : Nat) (opened : List OpenCondition) : Prop :=
  (position :: opened.map (·.position)).Pairwise (· > ·)

theorem Descending.succ {position : Nat} {opened : List OpenCondition} (h : Descending position opened) :
    Descending (position + 1) opened :=
  List.pairwise_cons.2
    ⟨fun earlier hearlier => Nat.lt_succ_of_lt ((List.pairwise_cons.1 h).1 earlier hearlier), h.of_cons⟩

theorem Descending.track {position : Nat} {opened : List OpenCondition} (h : Descending position opened)
    (instruction : Instruction) :
    Descending (position + 1) (track position opened instruction) := by
  cases instruction using Instruction.markerCases with
  | ifLevel =>
    refine List.pairwise_cons.2 ⟨?_, h⟩
    intro earlier hearlier
    rcases List.mem_cons.1 hearlier with rfl | hearlier
    · exact Nat.lt_succ_self _
    · exact (List.pairwise_cons.1 h.succ).1 earlier hearlier
  | otherwise =>
    cases opened with
    | nil => exact h.succ
    | cons condition outer => exact h.succ
  | endIf =>
    cases opened with
    | nil => exact h.succ
    | cons condition outer => exact h.succ.sublist ((List.sublist_cons_self _ _).cons_cons _)
  | plain instruction hplain =>
    rw [track_plain _ _ hplain]
    exact h.succ

theorem descending_conditionsFrom {list : List Instruction} {position : Nat}
    {opened : List OpenCondition} (h : Descending position opened) :
    Descending (position + list.length) (conditionsFrom position opened list) := by
  induction list generalizing position opened with
  | nil => exact h
  | cons instruction rest ih =>
    rw [List.length_cons, ← Nat.add_assoc, Nat.add_right_comm]
    exact ih (h.track instruction)

/-- Of the conditions at a position, inner ones open behind outer ones. -/
theorem sorted_conditionsAt (list : List Instruction) (position : Nat) :
    (conditionsAt list position).Pairwise fun inner outer => outer.position < inner.position := by
  have hdescending : Descending 0 [] := List.pairwise_singleton _ _
  exact List.pairwise_map.1 (descending_conditionsFrom hdescending).of_cons

/-- The conditions at a position are those that enclose it. -/
theorem mem_conditionsAt_iff {list : List Instruction} {position : Nat} {condition : OpenCondition} :
    condition ∈ conditionsAt list position ↔ Encloses list position condition := by
  have hfinds : Finds (list.take position) (conditionsAt list position) :=
    finds_nil.conditionsFrom (list.take position)
  rw [List.mem_iff_getElem?]
  constructor
  · rintro ⟨depth, hdepth⟩
    obtain ⟨before, role, level, inner, hfront, hlength, hleads, _⟩ :=
      (hfinds depth condition).1 hdepth
    exact ⟨before, role, level, inner, hfront, hlength, hleads⟩
  · rintro ⟨before, role, level, inner, hfront, hlength, hleads⟩
    have hnonneg := hleads.unclosed inner (List.prefix_refl _)
    exact ⟨(surplus inner).toNat, (hfinds _ condition).2
      ⟨before, role, level, inner, hfront, hlength, hleads, (Int.toNat_of_nonneg hnonneg).symm⟩⟩

end Storyline.Script
