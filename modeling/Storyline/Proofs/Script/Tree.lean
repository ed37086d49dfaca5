-- SUMMARY: Well-nested lists as trees of conditions.
import Storyline.Proofs.Script.Nesting

/-!
# Trees

A well-nested list is a flat way to write a tree: a block of instructions and conditions, each condition with
one part or with two. `wellNested_iff_exists_tree` says that the well-nested lists are those that a tree
flattens to.
-/

namespace Storyline.Script

/-- A block, instruction by instruction and condition by condition. -/
inductive Tree where
  | done
  | plain (instruction : Instruction) (isPlain : instruction.isMarker = false) (rest : Tree)
  /-- A condition without another part. -/
  | condition (role : String) (level : Int) (thenPart rest : Tree)
  /-- A condition with another part. -/
  | alternative (role : String) (level : Int) (thenPart elsePart rest : Tree)

namespace Tree

/-- The list that a tree is written as. -/
def flatten : Tree → List Instruction
  | done => []
  | plain instruction _ rest => instruction :: rest.flatten
  | condition role level thenPart rest =>
    .ifLevel role level :: (thenPart.flatten ++ .endIf :: rest.flatten)
  | alternative role level thenPart elsePart rest =>
    .ifLevel role level ::
      (thenPart.flatten ++ .otherwise :: (elsePart.flatten ++ .endIf :: rest.flatten))

theorem nests_flatten (tree : Tree) (opened : List Branch) (later : List Instruction) :
    nests opened (tree.flatten ++ later) = nests opened later := by
  induction tree generalizing opened later with
  | done => rfl
  | plain instruction isPlain rest ih =>
    rw [flatten, List.cons_append, nests_plain _ isPlain, ih]
  | condition role level thenPart rest ihthen ihrest =>
    simp only [flatten, List.cons_append, List.append_assoc, nests, ihthen, ihrest]
  | alternative role level thenPart elsePart rest ihthen ihelse ihrest =>
    simp only [flatten, List.cons_append, List.append_assoc, nests, ihthen, ihelse, ihrest]

theorem wellNested_flatten (tree : Tree) : WellNested tree.flatten := by
  have hnests := tree.nests_flatten [] []
  rwa [List.append_nil] at hnests

end Tree

/-- What can stand behind a block: the end of the list, or a marker that ends the innermost part. -/
inductive BlockEnd : List Branch → List Instruction → Prop where
  | list : BlockEnd [] []
  | endIf {branch : Branch} {opened : List Branch} {rest : List Instruction} :
      nests opened rest = true → BlockEnd (branch :: opened) (.endIf :: rest)
  | otherwise {opened : List Branch} {rest : List Instruction} :
      nests (.elsePart :: opened) rest = true → BlockEnd (.thenPart :: opened) (.otherwise :: rest)

/-- A list that fits into open conditions is a block and what ends it. -/
theorem exists_block {opened : List Branch} {list : List Instruction} (h : nests opened list = true) :
    ∃ (tree : Tree) (later : List Instruction), list = tree.flatten ++ later ∧ BlockEnd opened later := by
  match list with
  | [] =>
    obtain rfl := List.isEmpty_iff.1 h
    exact ⟨.done, [], rfl, .list⟩
  | instruction :: rest =>
    cases instruction using Instruction.markerCases with
    | ifLevel role level =>
      have hinside : nests (.thenPart :: opened) rest = true := h
      obtain ⟨thenPart, behind, hrest, hthen⟩ := exists_block hinside
      cases hthen with
      | endIf hbehind =>
        obtain ⟨tree, later, hlater, hend⟩ := exists_block hbehind
        exact ⟨.condition role level thenPart tree, later, by simp [Tree.flatten, hrest, hlater], hend⟩
      | otherwise hdivided =>
        obtain ⟨elsePart, behind, hother, helse⟩ := exists_block hdivided
        cases helse with
        | endIf hbehind =>
          obtain ⟨tree, later, hlater, hend⟩ := exists_block hbehind
          exact ⟨.alternative role level thenPart elsePart tree, later,
            by simp [Tree.flatten, hrest, hother, hlater], hend⟩
    | otherwise =>
      obtain ⟨outer, rfl, hnests⟩ := nests_otherwise h
      exact ⟨.done, _, rfl, .otherwise hnests⟩
    | endIf =>
      obtain ⟨branch, outer, rfl, hnests⟩ := nests_endIf h
      exact ⟨.done, _, rfl, .endIf hnests⟩
    | plain instruction hplain =>
      rw [nests_plain _ hplain] at h
      obtain ⟨tree, later, rfl, hend⟩ := exists_block h
      exact ⟨.plain instruction hplain tree, later, rfl, hend⟩
termination_by list.length
decreasing_by all_goals (simp_all <;> omega)

/-- The well-nested lists are those that trees are written as. -/
theorem wellNested_iff_exists_tree {list : List Instruction} :
    WellNested list ↔ ∃ tree : Tree, tree.flatten = list := by
  constructor
  · intro h
    obtain ⟨tree, later, rfl, hend⟩ := exists_block h
    cases hend
    exact ⟨tree, (List.append_nil _).symm⟩
  · rintro ⟨tree, rfl⟩
    exact tree.wellNested_flatten

end Storyline.Script
