-- SUMMARY: What a list tells, from its tree and from the flat list.
import Storyline.Proofs.Playback.Conditions
import Storyline.Proofs.Script.Tree

/-!
# Tellings

A reader goes on behind every line and picks only options that stay in the node. What such a reader is told
in a node depends on its list and on the levels alone. `Tree.tell` says it by evaluating the tree of the
list, part by part. `onward` says it by walking along the flat list, with the same looking ahead as playing.
`onward_flatten` says that both tell the same.
-/

namespace Storyline

open Script Playback

/-! ## Tellings -/

/-- Is the event one that a reader sees: a scene, a portrait, a line or a menu? -/
def Event.isSeen : Event → Bool
  | scene _ => true
  | portrait _ => true
  | line _ _ => true
  | choices _ => true
  | finished _ => false
  | anomaly _ => false

/-- What a reader sees of what was fired. -/
def seen (events : List Event) : List Event :=
  events.filter Event.isSeen

theorem seen_append (first second : List Event) : seen (first ++ second) = seen first ++ seen second :=
  List.filter_append ..

/-- How a telling ends. -/
inductive Ending where
  /-- Behind the last instruction. -/
  | through
  /-- At a menu all of whose options lead to other nodes. -/
  | closedMenu
  | jump (target : NodeId)
  deriving DecidableEq

/-- What a reader is shown, in order, and how it ends. -/
structure Telling where
  events : List Event
  ending : Ending
  deriving DecidableEq

namespace Telling

/-- Shows events and is through. -/
def of (events : List Event) : Telling := ⟨events, .through⟩

/-- Opens a menu. It is left behind if one of its options stays in the node. -/
def menu (options : List MenuOption) : Telling :=
  ⟨[.choices (options.map (·.text))],
    if options.any (·.target.isNone) then .through else .closedMenu⟩

/-- One telling and then another, unless the first ends before it is through. -/
def andThen (first second : Telling) : Telling :=
  match first.ending with
  | .through => ⟨first.events ++ second.events, second.ending⟩
  | _ => first

@[simp] theorem of_nil_andThen (telling : Telling) : (of []).andThen telling = telling := rfl

@[simp] theorem andThen_of_nil (telling : Telling) : telling.andThen (of []) = telling := by
  obtain ⟨events, ending⟩ := telling
  cases ending <;> simp [of, andThen]

theorem of_append_andThen (first second : List Event) (telling : Telling) :
    (of (first ++ second)).andThen telling = (of first).andThen ((of second).andThen telling) := by
  simp [of, andThen]

theorem menu_of_stays {options : List MenuOption} (h : ∃ option ∈ options, option.target = none) :
    menu options = of [.choices (options.map (·.text))] := by
  obtain ⟨option, hoption, hnone⟩ := h
  have hany : options.any (·.target.isNone) = true :=
    List.any_eq_true.2 ⟨option, hoption, by rw [hnone]; rfl⟩
  unfold menu of
  rw [if_pos hany]

theorem menu_of_leads {options : List MenuOption} (h : ∀ option ∈ options, option.target ≠ none) :
    menu options = ⟨[.choices (options.map (·.text))], .closedMenu⟩ := by
  have hany : ¬options.any (·.target.isNone) = true := by
    rw [List.any_eq_true]
    rintro ⟨option, hoption, hnone⟩
    exact h option hoption (Option.isNone_iff_eq_none.1 hnone)
  unfold menu
  rw [if_neg hany]

theorem andThen_assoc (first second third : Telling) :
    (first.andThen second).andThen third = first.andThen (second.andThen third) := by
  obtain ⟨events, ending⟩ := first
  cases ending with
  | through =>
    obtain ⟨later, ending⟩ := second
    cases ending with
    | through => simp [andThen]
    | _ => rfl
  | _ => rfl

end Telling

/-- What an instruction shows by itself. -/
def Instruction.told : Instruction → List Event
  | scene name => [.scene name]
  | portrait speaker expression => [.portrait (some ⟨speaker, expression⟩)]
  | clearPortrait => [.portrait none]
  | narration text => [.line none text]
  | dialogue speaker text => [.line (some speaker) text]
  | _ => []

/-! ## Trees -/

namespace Script.Tree

/-- The entries of the menu that the run of offers at the front of a block makes. -/
def offers : Tree → List MenuOption
  | plain (.offer _ text target) _ rest => ⟨text, target⟩ :: rest.offers
  | _ => []

/-- What a block tells. A run of offers opens one menu, at its first offer; `inRun` says that the block
stands behind an offer, so that the offers at its front are in a menu already. -/
def tell (level : LevelLookup) : (inRun : Bool) → Tree → Telling
  | _, done => .of []
  | inRun, plain instruction _ rest =>
    match instruction with
    | .jump target => ⟨[], .jump target⟩
    | .offer _ text target =>
      if inRun then rest.tell level true
      else (Telling.menu (⟨text, target⟩ :: rest.offers)).andThen (rest.tell level true)
    | other => (Telling.of other.told).andThen (rest.tell level false)
  | _, condition role threshold thenPart rest =>
    let part := if threshold ≤ (level role).getD 0 then thenPart.tell level false else .of []
    part.andThen (rest.tell level false)
  | _, alternative role threshold thenPart elsePart rest =>
    let part :=
      if threshold ≤ (level role).getD 0 then thenPart.tell level false else elsePart.tell level false
    part.andThen (rest.tell level false)

end Script.Tree

/-! ## Flat lists -/

namespace Playback

variable {rest later : List Instruction} {instruction : Instruction}

/-- What is told from the front of a flat list on. -/
def onward (level : LevelLookup) (list : List Instruction) : Telling :=
  match list with
  | [] => .of []
  | instruction :: rest =>
    match instruction with
    | .jump target => ⟨[], .jump target⟩
    | .offer _ text target =>
      (Telling.menu (⟨text, target⟩ :: offers rest)).andThen
        (onward level (rest.drop (offers rest).length))
    | .ifLevel role threshold =>
      if threshold ≤ (level role).getD 0 then onward level rest
      else onward level (rest.drop (failedDistance rest))
    | .otherwise => onward level (rest.drop (playedDistance rest))
    | other => (Telling.of other.told).andThen (onward level rest)
termination_by list.length
decreasing_by all_goals (simp only [List.length_drop, List.length_cons]; omega)

/-! ## Looking ahead over a block -/

/-- The same place, seen from `distance` instructions before. -/
def Landing.further (distance : Nat) : Landing → Landing
  | otherwise further => otherwise (further + distance)
  | endIf further => endIf (further + distance)

theorem Landing.further_zero : further 0 = id := by
  funext landing
  cases landing <;> rfl

theorem Landing.succ_eq_further : succ = further 1 := by
  funext landing
  cases landing <;> rfl

theorem Landing.further_further (first second : Nat) (landing : Landing) :
    (landing.further first).further second = landing.further (second + first) := by
  cases landing <;> simp only [further] <;> congr 1 <;> omega

/-- A block is passed over whole when the end of a part is looked for. -/
theorem landing?_flatten (tree : Tree) (depth : Nat) (later : List Instruction) :
    landing? depth (tree.flatten ++ later) =
      (landing? depth later).map (Landing.further tree.flatten.length) := by
  induction tree generalizing depth later with
  | done => simp [Tree.flatten, Landing.further_zero]
  | plain instruction isPlain rest ih =>
    rw [Tree.flatten, List.cons_append, landing?_plain _ isPlain, ih]
    simp [Function.comp_def, Landing.succ_eq_further, Landing.further_further,
      Nat.add_comm]
  | condition role level thenPart rest ihthen ihrest =>
    simp [Tree.flatten, landing?, ihthen, ihrest, Function.comp_def,
      Landing.succ_eq_further, Landing.further_further, Nat.add_comm, Nat.add_left_comm]
  | alternative role level thenPart elsePart rest ihthen ihelse ihrest =>
    simp [Tree.flatten, landing?, ihthen, ihelse, ihrest, Function.comp_def,
      Landing.succ_eq_further, Landing.further_further, Nat.add_comm, Nat.add_left_comm]

theorem endIf?_flatten (tree : Tree) (depth : Nat) (later : List Instruction) :
    endIf? depth (tree.flatten ++ later) =
      (endIf? depth later).map (· + tree.flatten.length) := by
  induction tree generalizing depth later with
  | done => simp [Tree.flatten]
  | plain instruction isPlain rest ih =>
    rw [Tree.flatten, List.cons_append, endIf?_plain _ isPlain, ih]
    simp [Function.comp_def, Nat.add_assoc]
  | condition role level thenPart rest ihthen ihrest =>
    simp [Tree.flatten, endIf?, ihthen, ihrest, Function.comp_def,
      Nat.add_comm, Nat.add_left_comm]
  | alternative role level thenPart elsePart rest ihthen ihelse ihrest =>
    simp [Tree.flatten, endIf?, ihthen, ihelse, ihrest, Function.comp_def,
      Nat.add_comm, Nat.add_left_comm]

theorem drop_behind (front : List Instruction) (marker : Instruction) (later : List Instruction) :
    (front ++ marker :: later).drop (1 + front.length) = later := by
  rw [Nat.add_comm, ← List.drop_drop, List.drop_left, List.drop_one, List.tail_cons]

/-- A failed condition without another part goes on behind its end. -/
theorem drop_failedDistance_endIf (part : Tree) (later : List Instruction) :
    (part.flatten ++ .endIf :: later).drop (failedDistance (part.flatten ++ .endIf :: later)) =
      later := by
  unfold failedDistance
  rw [landing?_flatten]
  exact drop_behind part.flatten .endIf later

/-- A failed condition with another part goes on in it. -/
theorem drop_failedDistance_otherwise (part : Tree) (later : List Instruction) :
    (part.flatten ++ .otherwise :: later).drop
      (failedDistance (part.flatten ++ .otherwise :: later)) = later := by
  unfold failedDistance
  rw [landing?_flatten]
  exact drop_behind part.flatten .otherwise later

/-- The end of the part that was played leads behind the other part. -/
theorem drop_playedDistance (part : Tree) (later : List Instruction) :
    (part.flatten ++ .endIf :: later).drop (playedDistance (part.flatten ++ .endIf :: later)) =
      later := by
  unfold playedDistance
  rw [endIf?_flatten]
  exact drop_behind part.flatten .endIf later

/-- Offers do not reach over the end of a block. -/
theorem offers_flatten (tree : Tree) (h : offers later = []) :
    offers (tree.flatten ++ later) = tree.offers := by
  induction tree with
  | done => exact h
  | plain instruction isPlain rest ih =>
    cases instruction with
    | offer => simp [Tree.flatten, Tree.offers, offers, ih]
    | _ => rfl
  | condition | alternative => rfl

/-! ## Flat lists and trees -/

/-- The list behind the offers at its front, if they are in a menu already. -/
def behindRun (inRun : Bool) (list : List Instruction) : List Instruction :=
  if inRun then list.drop (offers list).length else list

theorem behindRun_of_offers {list : List Instruction} (inRun : Bool) (h : offers list = []) :
    behindRun inRun list = list := by
  cases inRun <;> simp [behindRun, h]

theorem onward_endIf (level : LevelLookup) (list : List Instruction) :
    onward level (.endIf :: list) = onward level list := by
  simp [onward, Instruction.told]

/-- The flat list tells what its tree tells. -/
theorem onward_flatten (level : LevelLookup) (tree : Tree) (inRun : Bool) (h : offers later = []) :
    onward level (behindRun inRun (tree.flatten ++ later)) =
      (tree.tell level inRun).andThen (onward level later) := by
  induction tree generalizing later inRun with
  | done => rw [Tree.flatten, List.nil_append, behindRun_of_offers inRun h, Tree.tell]; rfl
  | plain instruction isPlain rest ih =>
    cases instruction with
    | ifLevel | otherwise | endIf => cases isPlain
    | jump target =>
      rw [Tree.flatten, List.cons_append, behindRun_of_offers inRun rfl, onward, Tree.tell]
      rfl
    | offer index text target =>
      have hrest := ih true h
      cases inRun with
      | true => exact hrest
      | false =>
        rw [behindRun, if_neg Bool.false_ne_true, Tree.flatten, List.cons_append, onward, Tree.tell,
          if_neg Bool.false_ne_true, Telling.andThen_assoc, ← hrest, ← offers_flatten rest h]
        rfl
    | _ =>
      rw [Tree.flatten, List.cons_append, behindRun_of_offers inRun rfl]
      simp only [onward, Tree.tell, Telling.andThen_assoc]
      rw [← ih false h]
      rfl
  | condition role threshold thenPart rest ihthen ihrest =>
    have hthen := ihthen false (rfl : offers (.endIf :: (rest.flatten ++ later)) = [])
    have hrest := ihrest false h
    rw [behindRun, if_neg Bool.false_ne_true] at hthen hrest
    rw [behindRun_of_offers inRun rfl]
    simp only [Tree.flatten, List.cons_append, List.append_assoc, onward, Tree.tell,
      Telling.andThen_assoc, drop_failedDistance_endIf]
    split
    · rw [hthen, onward_endIf, hrest]
    · rw [hrest, Telling.of_nil_andThen]
  | alternative role threshold thenPart elsePart rest ihthen ihelse ihrest =>
    have hthen := ihthen false
      (rfl : offers (.otherwise :: (elsePart.flatten ++ .endIf :: (rest.flatten ++ later))) = [])
    have helse := ihelse false (rfl : offers (.endIf :: (rest.flatten ++ later)) = [])
    have hrest := ihrest false h
    rw [behindRun, if_neg Bool.false_ne_true] at hthen helse hrest
    rw [behindRun_of_offers inRun rfl]
    simp only [Tree.flatten, List.cons_append, List.append_assoc, onward, Tree.tell,
      Telling.andThen_assoc, drop_failedDistance_otherwise]
    split
    · rw [hthen, onward, drop_playedDistance, hrest]
    · rw [helse, onward_endIf, hrest]

/-- What is told from the front of a well-nested list on is what the tree of the list tells. -/
theorem onward_of_flatten (level : LevelLookup) {tree : Tree} {list : List Instruction}
    (h : tree.flatten = list) : onward level list = tree.tell level false := by
  have hflat := onward_flatten level tree false (rfl : offers [] = [])
  rw [behindRun, if_neg Bool.false_ne_true, List.append_nil, h] at hflat
  rw [hflat, onward, Telling.andThen_of_nil]

end Playback

end Storyline
