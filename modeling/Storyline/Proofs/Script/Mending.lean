-- SUMMARY: Balancing drops only markers that fit nowhere, and adds only what closes the list.
import Storyline.Proofs.Script.Nesting

/-!
# Mending

Balancing reads a list once and never goes back. What it keeps can always be continued to a well-nested list,
and a marker is dropped only if, behind what was kept before it, no well-nested list goes on with it. At the end
the conditions that are open are closed. `Mends` says this without the stack that balancing keeps.

Main statement: `balance_mends`.
-/

namespace Storyline.Script

/-! ## Mended lists -/

/-- Can the list be continued to a well-nested one? -/
def Continues (front : List Instruction) : Prop :=
  ∃ later, WellNested (front ++ later)

/-- The markers that may be dropped, with the causes to report for them. -/
inductive Misfit : Instruction → Imbalance → Prop
  | secondElse : Misfit .otherwise .secondElse
  | elseOutsideIf : Misfit .otherwise .elseOutsideIf
  | endIfOutsideIf : Misfit .endIf .endIfOutsideIf

/-- Behind `front`, `kept` is what a list keeps without the markers that fit nowhere, and `causes` has the
report of each of those. -/
inductive Mends : (front list kept : List Instruction) → (causes : List Imbalance) → Prop
  | nil (front : List Instruction) : Mends front [] [] []
  | keep {front rest kept : List Instruction} {causes : List Imbalance} {instruction : Instruction}
    (hfits : Continues (front ++ [instruction])) (h : Mends (front ++ [instruction]) rest kept causes) :
    Mends front (instruction :: rest) (instruction :: kept) causes
  | drop {front rest kept : List Instruction} {causes : List Imbalance} {instruction : Instruction}
    {cause : Imbalance} (hstuck : ¬Continues (front ++ [instruction])) (hmisfit : Misfit instruction cause)
    (h : Mends front rest kept causes) : Mends front (instruction :: rest) kept (cause :: causes)

/-- The answer of balancing behind `front`: what is kept, then an `endIf` for every condition that is left
open, and a report for everything that was dropped or added. -/
def MendsTo (front list : List Instruction) (answer : List Instruction × List Imbalance) : Prop :=
  ∃ kept dropped added, Mends front list kept dropped ∧
    answer = (kept ++ List.replicate added .endIf, dropped ++ List.replicate added .ifNotClosed)

/-- Is the instruction a marker that may be dropped or added? -/
def isElseOrEnd (instruction : Instruction) : Bool :=
  instruction == .otherwise || instruction == .endIf

section Mends

variable {front list rest kept : List Instruction} {causes : List Imbalance} {instruction : Instruction}
  {cause : Imbalance} {answer : List Instruction × List Imbalance}

theorem Mends.sublist (h : Mends front list kept causes) : kept.Sublist list := by
  induction h with
  | nil => exact .slnil
  | keep _ _ ih => exact ih.cons_cons _
  | drop _ _ _ ih => exact ih.cons _

/-- Every instruction is kept or reported. -/
theorem Mends.length_eq (h : Mends front list kept causes) :
    kept.length + causes.length = list.length := by
  induction h with
  | nil => rfl
  | keep _ _ ih => rw [List.length_cons, List.length_cons, ← ih, Nat.add_right_comm]
  | drop _ _ _ ih => rw [List.length_cons, List.length_cons, ← ih, Nat.add_assoc]

theorem Mends.filter_eq (h : Mends front list kept causes) :
    kept.filter (!isElseOrEnd ·) = list.filter (!isElseOrEnd ·) := by
  induction h with
  | nil => rfl
  | keep _ _ ih => rw [List.filter_cons, List.filter_cons, ih]
  | drop _ hmisfit _ ih =>
    rw [ih]
    cases hmisfit <;> rfl

theorem Continues.of_append {later : List Instruction} (h : Continues (front ++ later)) :
    Continues front := by
  obtain ⟨behind, hnests⟩ := h
  exact ⟨later ++ behind, by rwa [← List.append_assoc]⟩

/-- Nothing is dropped from a list that can be continued. -/
theorem Mends.eq_of_continues (h : Mends front list kept causes) (hlist : Continues (front ++ list)) :
    kept = list ∧ causes = [] := by
  induction h with
  | nil => exact ⟨rfl, rfl⟩
  | keep _ _ ih =>
    obtain ⟨rfl, rfl⟩ := ih (by rwa [List.append_assoc])
    exact ⟨rfl, rfl⟩
  | drop hstuck _ _ _ =>
    rw [List.append_cons] at hlist
    exact absurd hlist.of_append hstuck

/-- What stands before the end of a list is mended as it is without what follows. -/
theorem Mends.exists_of_append {later : List Instruction} (h : Mends front (list ++ later) kept causes) :
    ∃ keptFront causesFront keptLater causesLater, Mends front list keptFront causesFront ∧
      Mends (front ++ keptFront) later keptLater causesLater ∧ kept = keptFront ++ keptLater := by
  induction list generalizing front kept causes with
  | nil => exact ⟨[], [], kept, causes, .nil front, by rwa [List.append_nil], rfl⟩
  | cons instruction rest ih =>
    cases h with
    | keep hfits h =>
      obtain ⟨keptFront, causesFront, keptLater, causesLater, hfront, hlater, rfl⟩ := ih h
      rw [List.append_assoc] at hlater
      exact ⟨_, _, _, _, hfront.keep hfits, hlater, rfl⟩
    | drop hstuck hmisfit h =>
      obtain ⟨keptFront, causesFront, keptLater, causesLater, hfront, hlater, rfl⟩ := ih h
      exact ⟨_, _, _, _, hfront.drop hstuck hmisfit, hlater, rfl⟩

/-- What is kept is determined. -/
theorem Mends.unique {kept' : List Instruction} {causes' : List Imbalance}
    (h : Mends front list kept causes) (h' : Mends front list kept' causes') : kept = kept' := by
  induction h generalizing kept' causes' with
  | nil =>
    cases h'
    rfl
  | keep hfits _ ih =>
    cases h' with
    | keep _ h' => rw [ih h']
    | drop hstuck _ _ => exact absurd hfits hstuck
  | drop hstuck _ _ ih =>
    cases h' with
    | keep hfits _ => exact absurd hfits hstuck
    | drop _ _ h' => exact ih h'

/-- Instructions that are no markers are kept. -/
theorem Mends.eq_of_others (h : Mends front list kept causes)
    (hothers : ∀ instruction ∈ list, isElseOrEnd instruction = false) : kept = list := by
  refine h.sublist.eq_of_length_le ?_
  have hlist : list.filter (!isElseOrEnd ·) = list :=
    List.filter_eq_self.2 fun instruction hmem => by rw [hothers instruction hmem]; rfl
  rw [← hlist, ← h.filter_eq]
  exact List.length_filter_le _ kept

theorem MendsTo.keep (hfits : Continues (front ++ [instruction]))
    (h : MendsTo (front ++ [instruction]) rest answer) :
    MendsTo front (instruction :: rest) (instruction :: answer.1, answer.2) := by
  obtain ⟨kept, dropped, added, hmends, rfl⟩ := h
  exact ⟨instruction :: kept, dropped, added, hmends.keep hfits, rfl⟩

theorem MendsTo.drop (hstuck : ¬Continues (front ++ [instruction])) (hmisfit : Misfit instruction cause)
    (h : MendsTo front rest answer) :
    MendsTo front (instruction :: rest) (answer.1, cause :: answer.2) := by
  obtain ⟨kept, dropped, added, hmends, rfl⟩ := h
  exact ⟨kept, cause :: dropped, added, hmends.drop hstuck hmisfit, rfl⟩

end Mends

/-! ## What fits -/

/-- Behind the list these conditions are open: for each of them, innermost first, has its `otherwise` been
met? -/
def LeavesOpen (front : List Instruction) (opened : List Bool) : Prop :=
  ∀ later, nests [] (front ++ later) = nests (opened.map partRead) later

namespace LeavesOpen

variable {front : List Instruction} {opened opened' : List Bool} {instruction : Instruction}

theorem continues (h : LeavesOpen front opened) : Continues front :=
  ⟨_, (h _).trans (nests_closing opened)⟩

theorem concat (h : LeavesOpen front opened)
    (hstep : ∀ later, nests (opened.map partRead) (instruction :: later) = nests (opened'.map partRead) later) :
    LeavesOpen (front ++ [instruction]) opened' := by
  intro later
  rw [List.append_assoc, h, List.singleton_append, hstep]

theorem not_continues (h : LeavesOpen front opened)
    (hstuck : ∀ later, nests (opened.map partRead) (instruction :: later) = false) :
    ¬Continues (front ++ [instruction]) := by
  rintro ⟨later, hlater⟩
  rw [WellNested, List.append_assoc, h, List.singleton_append, hstuck] at hlater
  cases hlater

end LeavesOpen

/-! ## Balancing -/

/-- Behind a list that leaves these conditions open, balancing mends what follows. -/
theorem mendsTo_balanceFrom {front : List Instruction} {opened : List Bool} (h : LeavesOpen front opened)
    (list : List Instruction) : MendsTo front list (balanceFrom opened list) := by
  induction list generalizing front opened with
  | nil =>
    refine ⟨[], [], opened.length, .nil front, ?_⟩
    rw [balanceFrom, List.map_const', List.map_const', List.nil_append, List.nil_append]
  | cons instruction rest ih =>
    cases instruction using Instruction.markerCases with
    | ifLevel role level =>
      have hopen : LeavesOpen (front ++ [.ifLevel role level]) (false :: opened) := h.concat fun _ => rfl
      exact (ih hopen).keep hopen.continues
    | otherwise =>
      match opened with
      | [] => exact (ih h).drop (h.not_continues fun _ => rfl) .elseOutsideIf
      | true :: opened => exact (ih h).drop (h.not_continues fun _ => rfl) .secondElse
      | false :: opened =>
        have hopen : LeavesOpen (front ++ [.otherwise]) (true :: opened) := h.concat fun _ => rfl
        exact (ih hopen).keep hopen.continues
    | endIf =>
      match opened with
      | [] => exact (ih h).drop (h.not_continues fun _ => rfl) .endIfOutsideIf
      | met :: opened =>
        have hopen : LeavesOpen (front ++ [.endIf]) opened := h.concat fun _ => by cases met <;> rfl
        exact (ih hopen).keep hopen.continues
    | plain instruction hplain =>
      have hopen : LeavesOpen (front ++ [instruction]) opened := h.concat fun _ => nests_plain _ hplain
      rw [balanceFrom_plain opened hplain]
      exact (ih hopen).keep hopen.continues

theorem mendsTo_balance (list : List Instruction) : MendsTo [] list (balance list) :=
  mendsTo_balanceFrom (fun _ => rfl) list

example :
    balance [.ifLevel "guard" 1, .otherwise, .otherwise, .endIf, .endIf, .ifLevel "guard" 2] =
      ([.ifLevel "guard" 1, .otherwise, .endIf, .ifLevel "guard" 2, .endIf],
        [.secondElse, .endIfOutsideIf, .ifNotClosed]) :=
  rfl

/-- Behind what closes all open conditions none is open. -/
theorem nests_append {opened : List Branch} {list : List Instruction} (h : nests opened list = true)
    (later : List Instruction) : nests opened (list ++ later) = nests [] later := by
  induction list generalizing opened with
  | nil =>
    cases opened with
    | nil => rfl
    | cons => cases h
  | cons instruction rest ih =>
    cases instruction using Instruction.markerCases with
    | ifLevel => exact ih h
    | otherwise =>
      obtain ⟨outer, rfl, hrest⟩ := nests_otherwise h
      exact ih hrest
    | endIf =>
      obtain ⟨branch, outer, rfl, hrest⟩ := nests_endIf h
      cases branch <;> exact ih hrest
    | plain instruction hplain =>
      rw [nests_plain _ hplain] at h
      rw [List.cons_append, nests_plain _ hplain, ih h]

/-- A list that is well-nested stays as it is. -/
theorem balance_eq_self {list : List Instruction} (h : WellNested list) : balance list = (list, []) := by
  obtain ⟨kept, dropped, added, hmends, heq⟩ := mendsTo_balance list
  have hlist : Continues ([] ++ list) := ⟨[], by rwa [List.nil_append, List.append_nil]⟩
  obtain ⟨rfl, rfl⟩ := hmends.eq_of_continues hlist
  have hresult := wellNested_balance kept
  rw [heq, WellNested, nests_append h] at hresult
  cases added with
  | zero => rw [heq, List.replicate_zero, List.append_nil]; rfl
  | succ added => cases hresult

/-! ## Mended lists of documents -/

/-- How a list, the list that it is mended to, and the causes that are reported belong together. -/
structure Mended (list result : List Instruction) (causes : List Imbalance) : Prop where
  wellNested : WellNested result
  unchanged : WellNested list → result = list ∧ causes = []
  others_kept : result.filter (!isElseOrEnd ·) = list.filter (!isElseOrEnd ·)
  /-- What is dropped fits nowhere, what is added stands at the end, and each has its report. -/
  repair : ∃ kept dropped added, Mends [] list kept dropped ∧ kept.Sublist list ∧
    kept.length + dropped.length = list.length ∧ result = kept ++ List.replicate added .endIf ∧
    causes = dropped ++ List.replicate added .ifNotClosed

theorem mended_balance (list : List Instruction) : Mended list (balance list).1 (balance list).2 := by
  obtain ⟨kept, dropped, added, hmends, heq⟩ := mendsTo_balance list
  refine ⟨wellNested_balance list, ?_, ?_, ?_⟩
  · intro h
    rw [balance_eq_self h]
    exact ⟨rfl, rfl⟩
  · have hadded : (List.replicate added Instruction.endIf).filter (!isElseOrEnd ·) = [] :=
      List.filter_replicate_of_neg (by decide)
    rw [heq, List.filter_append, hadded, List.append_nil, hmends.filter_eq]
  · exact ⟨kept, dropped, added, hmends, hmends.sublist, hmends.length_eq, congrArg Prod.fst heq,
      congrArg Prod.snd heq⟩

/-- Balancing mends every list and drops no marker that fits; so whatever stands in a document or in a body,
the lists that are read from it are well-nested. -/
theorem balance_mends (list : List Instruction) (config : ScriptConfig) (document : String) (node : NodeId)
    (body : String) :
    Mended list (balance list).1 (balance list).2 ∧ Balanced (parse config document).1 ∧
      WellNested (parseBody config node body).1 :=
  ⟨mended_balance list, balanced_parse config document, wellNested_balance _⟩

end Storyline.Script
