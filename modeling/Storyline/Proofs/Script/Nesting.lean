-- SUMMARY: Well-nested lists of instructions, which is what balancing makes of any list.
import Storyline.Proofs.Playback.Perform

/-!
# Nesting

A list is well-nested if every `ifLevel` has its `endIf`, at most one `otherwise` stands at its own level
between them, and no other marker is in the list. Balancing makes lists well-nested, so all lists of a
script that was read from a document are.
-/

namespace Storyline

namespace Instruction

/-- Does the instruction open, divide or close a condition? -/
def isMarker : Instruction → Bool
  | ifLevel _ _ => true
  | otherwise => true
  | endIf => true
  | _ => false

/-- Most functions on lists tell the three markers apart and treat all other instructions alike. -/
@[elab_as_elim]
theorem markerCases {motive : Instruction → Prop} (ifLevel : ∀ role level, motive (.ifLevel role level))
    (otherwise : motive .otherwise) (endIf : motive .endIf)
    (plain : ∀ instruction, instruction.isMarker = false → motive instruction)
    (instruction : Instruction) : motive instruction := by
  cases instruction with
  | ifLevel role level => exact ifLevel role level
  | otherwise => exact otherwise
  | endIf => exact endIf
  | _ => exact plain _ rfl

end Instruction

namespace Script

/-! ## Well-nested lists -/

/-- Do the markers of a list fit into the open conditions, and is everything closed at the end? `opened` has
the part that is being read for each of them, innermost first. -/
def nests : (opened : List Branch) → List Instruction → Bool
  | opened, [] => opened.isEmpty
  | opened, .ifLevel _ _ :: rest => nests (.thenPart :: opened) rest
  | .thenPart :: opened, .otherwise :: rest => nests (.elsePart :: opened) rest
  | _, .otherwise :: _ => false
  | _ :: opened, .endIf :: rest => nests opened rest
  | [], .endIf :: _ => false
  | opened, _ :: rest => nests opened rest

/-- Conditions are closed in the list and have at most one other part each. -/
def WellNested (list : List Instruction) : Prop :=
  nests [] list = true

instance : DecidablePred WellNested := fun _ => inferInstanceAs (Decidable (_ = true))

variable {instruction : Instruction} {rest : List Instruction}

theorem nests_plain (opened : List Branch) (h : instruction.isMarker = false) :
    nests opened (instruction :: rest) = nests opened rest := by
  cases instruction with
  | ifLevel | otherwise | endIf => cases h
  | _ => rfl

theorem nests_otherwise {opened : List Branch} (h : nests opened (.otherwise :: rest) = true) :
    ∃ outer, opened = .thenPart :: outer ∧ nests (.elsePart :: outer) rest = true := by
  cases opened with
  | nil => cases h
  | cons branch outer =>
    cases branch with
    | thenPart => exact ⟨outer, rfl, h⟩
    | elsePart => cases h

theorem nests_endIf {opened : List Branch} (h : nests opened (.endIf :: rest) = true) :
    ∃ branch outer, opened = branch :: outer ∧ nests outer rest = true := by
  cases opened with
  | nil => cases h
  | cons branch outer => exact ⟨branch, outer, rfl, h⟩

/-! ## Balancing -/

/-- The part that is being read when the `otherwise` was met, or was not. -/
def partRead (otherwiseMet : Bool) : Branch :=
  if otherwiseMet then .elsePart else .thenPart

theorem balanceFrom_plain (opened : List Bool) (h : instruction.isMarker = false) :
    balanceFrom opened (instruction :: rest) =
      (instruction :: (balanceFrom opened rest).1, (balanceFrom opened rest).2) := by
  cases instruction with
  | ifLevel | otherwise | endIf => cases h
  | _ => rfl

theorem nests_closing (opened : List Bool) :
    nests (opened.map partRead) (opened.map fun _ => .endIf) = true := by
  induction opened with
  | nil => rfl
  | cons met opened ih => cases met <;> exact ih

theorem nests_balanceFrom (opened : List Bool) (list : List Instruction) :
    nests (opened.map partRead) (balanceFrom opened list).1 = true := by
  induction list generalizing opened with
  | nil => exact nests_closing opened
  | cons instruction rest ih =>
    cases instruction using Instruction.markerCases with
    | ifLevel role level => exact ih (false :: opened)
    | otherwise =>
      match opened with
      | [] => exact ih []
      | false :: opened => exact ih (true :: opened)
      | true :: opened => exact ih (true :: opened)
    | endIf =>
      match opened with
      | [] => exact ih []
      | met :: opened => cases met <;> exact ih opened
    | plain instruction h =>
      rw [balanceFrom_plain opened h, nests_plain _ h]
      exact ih opened

theorem wellNested_balance (list : List Instruction) : WellNested (balance list).1 :=
  nests_balanceFrom [] list

/-! ## Scripts from documents -/

/-- Every list of the script is well-nested. -/
def Balanced (script : Script) : Prop :=
  ∀ node list, script.get? node = some list → WellNested list

theorem balanced_empty : Balanced SortedMap.empty := by
  intro id list hlist
  rw [SortedMap.get?_empty] at hlist
  cases hlist

theorem Balanced.insert {script : Script} (h : script.Balanced) (node : NodeId)
    {list : List Instruction} (hlist : WellNested list) : Balanced (script.insert node list) := by
  intro id found hfound
  rw [SortedMap.get?_insert] at hfound
  split at hfound
  · cases hfound
    exact hlist
  · exact h id found hfound

theorem balanced_addSections (config : ScriptConfig) {script : Script} (h : script.Balanced)
    (parts : List Section) : Balanced (addSections config script parts).1 := by
  induction parts generalizing script with
  | nil => exact h
  | cons part rest ih =>
    exact ih (h.insert part.id (wellNested_balance (readLines config 0 false part.lines).1))

/-- Whatever stands in a document, the lists that are read from it are well-nested. -/
theorem balanced_parse (config : ScriptConfig) (document : String) :
    Balanced (parse config document).1 :=
  balanced_addSections config balanced_empty _

theorem Balanced.wellNested_listOf {script : Script} (h : script.Balanced) (node : NodeId) :
    WellNested (script.listOf node) := by
  unfold listOf
  cases hlist : script.get? node with
  | none => rfl
  | some list => exact h node list hlist

end Script

end Storyline
