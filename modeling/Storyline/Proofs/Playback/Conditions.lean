-- SUMMARY: The open conditions of a session are those that enclose the current position.
import Storyline.Proofs.Playback.Consistency
import Storyline.Proofs.Script.Enclosing

/-!
# Open conditions

Playing knows no tree. It looks ahead for the end of a part that is not played, and it keeps a stack of
conditions that grows at an `ifLevel` and shrinks at an `endIf`, or when an `otherwise` ends the part that
was played. On a script whose lists are well-nested this stack holds at all times the conditions that enclose
the current position. So no imbalance is met while such a script is played.
-/

namespace Storyline

open Script Playback

namespace Playback

/-! ## Where looking ahead leads -/

variable {instruction : Instruction} {rest list : List Instruction} {outer : List OpenCondition}
  {condition : OpenCondition}

theorem landing?_plain (depth : Nat) (h : instruction.isMarker = false) :
    landing? depth (instruction :: rest) = (landing? depth rest).map .succ := by
  cases instruction with
  | ifLevel | otherwise | endIf => cases h
  | _ => simp [landing?]

theorem endIf?_plain (depth : Nat) (h : instruction.isMarker = false) :
    endIf? depth (instruction :: rest) = (endIf? depth rest).map (· + 1) := by
  cases instruction with
  | ifLevel | otherwise | endIf => cases h
  | _ => simp [endIf?]

/-- What is found behind an instruction that looking ahead passes over is found from before it. -/
theorem endIf?_further {depth depth' position : Nat} {opened : List OpenCondition}
    (hpass : endIf? depth (instruction :: rest) = (endIf? depth' rest).map (· + 1))
    (hfound : ∃ distance, endIf? depth' rest = some distance ∧
      conditionsFrom (position + 1) (track position opened instruction) (rest.take distance) = outer) :
    ∃ distance, endIf? depth (instruction :: rest) = some distance ∧
      conditionsFrom position opened ((instruction :: rest).take distance) = outer := by
  obtain ⟨distance, hdistance, houter⟩ := hfound
  exact ⟨distance + 1, by rw [hpass, hdistance]; rfl, houter⟩

/-- In a well-nested list the end of a condition is found, and what was open around it is open there. -/
theorem endIf?_eq_some (position : Nat) (inner : List OpenCondition)
    (h : nests ((inner ++ condition :: outer).map (·.branch)) list = true) :
    ∃ distance, endIf? inner.length list = some distance ∧
      conditionsFrom position (inner ++ condition :: outer) (list.take distance) = outer := by
  induction list generalizing position inner condition with
  | nil => simp [nests] at h
  | cons instruction rest ih =>
    cases instruction using Instruction.markerCases with
    | ifLevel => exact endIf?_further rfl (ih (position + 1) (⟨position, .thenPart⟩ :: inner) h)
    | otherwise =>
      obtain ⟨_, hopened, hnests⟩ := nests_otherwise h
      cases inner with
      | nil =>
        obtain ⟨_, rfl⟩ := List.cons.inj hopened
        let divided : OpenCondition := { condition with branch := .elsePart }
        have hnests : nests (([] ++ divided :: outer).map OpenCondition.branch) rest = true := hnests
        exact endIf?_further rfl (ih (position + 1) [] hnests)
      | cons innermost inner =>
        obtain ⟨_, rfl⟩ := List.cons.inj hopened
        exact endIf?_further rfl
          (ih (position + 1) ({ innermost with branch := .elsePart } :: inner) hnests)
    | endIf =>
      cases inner with
      | nil => exact ⟨1, rfl, rfl⟩
      | cons innermost inner => exact endIf?_further rfl (ih (position + 1) inner h)
    | plain instruction hplain =>
      rw [nests_plain _ hplain] at h
      have hfound := ih (position + 1) inner h
      rw [← track_plain position (inner ++ condition :: outer) hplain] at hfound
      exact endIf?_further (endIf?_plain _ hplain) hfound

theorem landing?_further {depth depth' position : Nat} {opened : List OpenCondition}
    (hpass : landing? depth (instruction :: rest) = (landing? depth' rest).map .succ)
    (hfound : ∃ landing, landing? depth' rest = some landing ∧
      conditionsFrom (position + 1) (track position opened instruction)
        (rest.take landing.distance) = landing.opened condition outer) :
    ∃ landing, landing? depth (instruction :: rest) = some landing ∧
      conditionsFrom position opened ((instruction :: rest).take landing.distance) =
        landing.opened condition outer := by
  obtain ⟨landing, hlanding, hopened⟩ := hfound
  refine ⟨landing.succ, by rw [hpass, hlanding]; rfl, ?_⟩
  rw [Landing.distance_succ, Landing.opened_succ]
  exact hopened

/-- In a well-nested list a failed condition finds its landing, and there either its other part is open or
what was open around it. -/
theorem landing?_eq_some (position : Nat) (inner : List OpenCondition)
    (h : nests ((inner ++ condition :: outer).map (·.branch)) list = true) :
    ∃ landing, landing? inner.length list = some landing ∧
      conditionsFrom position (inner ++ condition :: outer) (list.take landing.distance) =
        landing.opened condition outer := by
  induction list generalizing position inner with
  | nil => simp [nests] at h
  | cons instruction rest ih =>
    cases instruction using Instruction.markerCases with
    | ifLevel => exact landing?_further rfl (ih (position + 1) (⟨position, .thenPart⟩ :: inner) h)
    | otherwise =>
      cases inner with
      | nil => exact ⟨.otherwise 1, rfl, rfl⟩
      | cons innermost inner =>
        obtain ⟨_, hopened, hnests⟩ := nests_otherwise h
        obtain ⟨_, rfl⟩ := List.cons.inj hopened
        exact landing?_further rfl
          (ih (position + 1) ({ innermost with branch := .elsePart } :: inner) hnests)
    | endIf =>
      cases inner with
      | nil => exact ⟨.endIf 1, rfl, rfl⟩
      | cons innermost inner => exact landing?_further rfl (ih (position + 1) inner h)
    | plain instruction hplain =>
      rw [nests_plain _ hplain] at h
      have hfound := ih (position + 1) inner h
      rw [← track_plain position (inner ++ condition :: outer) hplain] at hfound
      exact landing?_further (landing?_plain _ hplain) hfound

/-! ## Single instructions -/

/-- Does the event report an imbalance? -/
def reportsImbalance : Event → Bool
  | .anomaly (.unbalanced _ _) => true
  | _ => false

section Performing

variable {level : LevelLookup} {session next : Session} {skipped : Nat} {events : List Event}

theorem reportsImbalance_unknownRole {role : String} {event : Event}
    (h : event = .anomaly (.unknownRole role)) : reportsImbalance event = false := by
  rw [h]
  rfl

/-- A failed condition finds its landing, and its stack entry says where it goes on. -/
theorem landing?_tracks (hnests : nests (.thenPart :: session.conditions.map (·.branch)) rest = true) :
    ∃ landing, landing? 0 rest = some landing ∧
      landing.opened ⟨session.position, .thenPart⟩ session.conditions =
        conditionsFrom (session.position + 1)
          (⟨session.position, .thenPart⟩ :: session.conditions) (rest.take landing.distance) := by
  let condition : OpenCondition := ⟨session.position, .thenPart⟩
  have hnests : nests (([] ++ condition :: session.conditions).map OpenCondition.branch) rest = true :=
    hnests
  obtain ⟨landing, hlanding, hopened⟩ := landing?_eq_some (session.position + 1) [] hnests
  exact ⟨landing, hlanding, hopened.symm⟩

/-- The end of the part that was played finds the end of the condition. -/
theorem playedDistance_tracks
    (hnests : nests (session.conditions.map (·.branch)) (.otherwise :: rest) = true) :
    session.conditions ≠ [] ∧ endIf? 0 rest ≠ none ∧
      session.conditions.tail = conditionsFrom (session.position + 1)
        (track session.position session.conditions .otherwise) (rest.take (playedDistance rest)) := by
  obtain ⟨_, hopened, hnests⟩ := nests_otherwise hnests
  cases hconditions : session.conditions with
  | nil => simp [hconditions] at hopened
  | cons condition outer =>
    rw [hconditions] at hopened
    obtain ⟨_, rfl⟩ := List.cons.inj hopened
    let divided : OpenCondition := { condition with branch := .elsePart }
    have hnests : nests (([] ++ divided :: outer).map OpenCondition.branch) rest = true := hnests
    obtain ⟨distance, hdistance, houter⟩ := endIf?_eq_some (session.position + 1) [] hnests
    have hdistance : endIf? 0 rest = some distance := hdistance
    simp only [playedDistance, hdistance, Option.getD_some]
    exact ⟨by simp, by simp, houter.symm⟩

/-- On a well-nested list an instruction leaves the conditions that enclose the place where playing goes
on. -/
theorem perform_tracks (hnested : WellNested list)
    (hfront : list.drop session.position = instruction :: rest)
    (hconditions : session.conditions = conditionsAt list session.position)
    (h : perform level session rest instruction = .proceed next skipped events) :
    next.conditions = conditionsAt list (session.position + 1 + skipped) ∧
      ∀ event ∈ events, reportsImbalance event = false := by
  have hnests := hnested.nests_drop session.position
  rw [hfront, ← hconditions] at hnests
  rw [conditionsAt_behind hfront, ← hconditions]
  cases perform_proceeds h with
  | scene | portrait | clearPortrait | noOffers => exact ⟨rfl, by simp [reportsImbalance]⟩
  | holds _ reported =>
    exact ⟨rfl, fun event hevent => reportsImbalance_unknownRole (reported event hevent)⟩
  | fails _ found reported =>
    obtain ⟨landing, hlanding, hopened⟩ := landing?_tracks hnests
    cases found.symm.trans hlanding
    exact ⟨hopened, fun event hevent => reportsImbalance_unknownRole (reported event hevent)⟩
  | unended _ lost =>
    obtain ⟨landing, hlanding, -⟩ := landing?_tracks hnests
    cases lost.symm.trans hlanding
  | leaveThenPart quiet =>
    obtain ⟨hopen, hfound, htail⟩ := playedDistance_tracks hnests
    exact ⟨htail, by simp [quiet hfound hopen]⟩
  | leaveCondition quiet =>
    obtain ⟨_, _, hopened, _⟩ := nests_endIf hnests
    have hopen : session.conditions ≠ [] := by
      intro hnil
      simp [hnil] at hopened
    exact ⟨rfl, by simp [quiet hopen]⟩

end Performing

/-! ## Menus -/

/-- Between a menu and the place behind it no condition opens or ends. -/
theorem menuFrom_passes_plain (position : Nat) (list : List Instruction) :
    ∃ distance, (menuFrom position list).resumeAt = position + distance ∧
      ∀ instruction ∈ list.take distance, instruction.isMarker = false := by
  have hoffer : ∀ instruction : Instruction, instruction.isOffer = true →
      instruction.isMarker = false := by
    intro instruction h
    cases instruction with
    | offer => rfl
    | _ => cases h
  have hrun : ∀ (list : List Instruction) instruction,
      instruction ∈ list.take (list.takeWhile Instruction.isOffer).length →
      instruction.isMarker = false := by
    intro list instruction hmem
    rw [← List.prefix_iff_eq_take.1 (List.takeWhile_prefix _)] at hmem
    exact hoffer instruction (List.all_eq_true.1 List.all_takeWhile instruction hmem)
  simp only [menuFrom]
  split
  · rename_i hhead
    obtain ⟨rest, rfl⟩ := List.head?_eq_some_iff.1 hhead
    refine ⟨(rest.takeWhile Instruction.isOffer).length + 1, by simp; omega, ?_⟩
    intro instruction hmem
    rcases List.mem_cons.1 hmem with rfl | hmem
    · rfl
    · exact hrun rest instruction hmem
  · exact ⟨_, rfl, hrun list⟩

theorem conditionsFrom_plain {position : Nat} {opened : List OpenCondition}
    (h : ∀ instruction ∈ list, instruction.isMarker = false) :
    conditionsFrom position opened list = opened := by
  induction list generalizing position with
  | nil => rfl
  | cons instruction rest ih =>
    rw [conditionsFrom, track_plain _ _ (h instruction List.mem_cons_self)]
    apply ih
    intro other hother
    exact h other (List.mem_cons_of_mem _ hother)

end Playback

/-! ## Sessions -/

namespace Session

variable {graph : Graph} {script : Script}

/-- The session is consistent, and its conditions are those at the current position. -/
structure Tracked (graph : Graph) (script : Script) (session : Session) : Prop
    extends Consistent graph script session where
  conditions_eq : session.conditions = conditionsAt (script.listOf session.node) session.position
  /-- At the end of a node everything is closed. -/
  finished_outside : session.state = .finished → session.conditions = []

theorem tracked_start (graph : Graph) (script : Script) (node : NodeId) :
    (start node).Tracked graph script where
  toConsistent := consistent_start graph script node
  conditions_eq := rfl
  finished_outside := by simp [start]

namespace Tracked

variable {session : Session}

theorem conditions_eq_nil (h : session.Tracked graph script) (hbalanced : script.Balanced)
    (hend : (script.listOf session.node).drop session.position = []) : session.conditions = [] := by
  have hnests := (hbalanced.wellNested_listOf session.node).nests_drop session.position
  rw [hend, ← h.conditions_eq] at hnests
  exact List.map_eq_nil_iff.1 (List.isEmpty_iff.1 hnests)

theorem turn (h : session.Tracked graph script) (hbalanced : script.Balanced)
    (hready : session.Ready) {level : LevelLookup} {made made' : Nat} {events : List Event}
    {next : Session} (hturn : Stage.Turn ⟨graph, script, level⟩ made session events made' next) :
    next.Tracked graph script ∧ ∀ event ∈ events, reportsImbalance event = false := by
  have hnext := h.toConsistent.turn hready hturn
  have hfinished : next.state = .finished → next.conditions = [] := by
    simp [(hturn.ready hready).running]
  cases hturn with
  | jump => exact ⟨⟨hnext, rfl, hfinished⟩, List.forall_mem_nil _⟩
  | proceed hscript hfront hperform =>
    have hlist := Script.listOf_of_get? hscript
    have hnested := hbalanced.wellNested_listOf session.node
    have hconditions := h.conditions_eq
    rw [hlist] at hnested hconditions
    obtain ⟨htracks, hquiet⟩ := perform_tracks hnested hfront hconditions hperform
    refine ⟨⟨hnext, ?_, hfinished⟩, hquiet⟩
    have hnode := congrArg Session.node (perform_proceed_frame hperform)
    rw [hnode, hlist]
    exact htracks

theorem halt (h : session.Tracked graph script) (hbalanced : script.Balanced)
    (hready : session.Ready) {level : LevelLookup} {made : Nat} {outcome : Outcome}
    (hhalt : Stage.Halt ⟨graph, script, level⟩ made session outcome) :
    outcome.session.Tracked graph script ∧
      ∀ event ∈ outcome.events, reportsImbalance event = false := by
  have hnext := h.toConsistent.halt hready hhalt
  cases hhalt with
  | unscripted hscript =>
    have hlist : script.listOf session.node = [] := by
      rw [Script.listOf, show script.get? session.node = none from hscript, Option.getD_none]
    have hempty := h.conditions_eq_nil hbalanced (by rw [hlist, List.drop_nil])
    exact ⟨⟨hnext, h.conditions_eq, fun _ => hempty⟩, by simp [reportsImbalance]⟩
  | atEnd hscript hfront =>
    have hempty := h.conditions_eq_nil hbalanced (by rw [Script.listOf_of_get? hscript, hfront])
    exact ⟨⟨hnext, h.conditions_eq, fun _ => hempty⟩, by simp [reportsImbalance]⟩
  | runaway | unknownTarget => exact ⟨h, List.forall_mem_nil _⟩
  | stop _ _ hperform =>
    rcases perform_stop_cases hperform with ⟨_, _, _, rfl, rfl⟩ | ⟨_, _, _, rfl, rfl⟩
    · exact ⟨⟨hnext, h.conditions_eq, h.finished_outside⟩, by simp [reportsImbalance]⟩
    · exact ⟨⟨hnext, h.conditions_eq, by simp⟩, by simp [reportsImbalance]⟩

theorem begins (h : session.Tracked graph script) {level : LevelLookup} {call : Call}
    {start : Session} (hbegins : Stage.Begins ⟨graph, script, level⟩ session call start) :
    start.Tracked graph script := by
  have hnext := h.toConsistent.begins hbegins
  cases hbegins with
  | step => exact h
  | advance hstate hwaiting =>
    refine ⟨hnext, ?_, h.finished_outside⟩
    obtain ⟨_, instruction, speaker, text, hline, hspoken, _⟩ := h.line_shown hwaiting
    have hlt := h.lt_length_of_waiting hwaiting
    have hplain : instruction.isMarker = false := by
      cases instruction with
      | narration | dialogue => rfl
      | _ => cases hspoken
    rw [Stage.positionAfter, if_pos hlt]
    have hbehind := conditionsAt_behind (front_of_getElem? hline) 0
    rw [track_plain _ _ hplain] at hbehind
    exact h.conditions_eq.trans hbehind.symm
  | enter => exact ⟨hnext, rfl, by simp [enter]⟩
  | @resume _ menu _ hstate hmenu =>
    refine ⟨hnext, ?_, by simp⟩
    obtain ⟨distance, hresume, hplain⟩ := menuFrom_passes_plain session.position
      ((script.listOf session.node).drop session.position)
    rw [← (h.menu_shown menu hmenu).2] at hresume
    rw [hresume]
    have hbehind := conditionsAt_add _ h.position_le distance
    rw [conditionsFrom_plain hplain] at hbehind
    exact h.conditions_eq.trans hbehind.symm

theorem outcome (h : session.Tracked graph script) (hbalanced : script.Balanced) (move : Move) :
    (move.outcome graph script session).session.Tracked graph script ∧
      ∀ event ∈ (move.outcome graph script session).events, reportsImbalance event = false :=
  Stage.answer_preserves ⟨graph, script, move.level⟩ (fun htracked => htracked.begins)
    (fun hready htracked => htracked.turn hbalanced hready)
    (fun hready htracked => htracked.halt hbalanced hready) h move.call

end Tracked

/-- After any calls on a script whose lists are well-nested the session is tracked. -/
theorem tracked_after (graph : Graph) {script : Script} (hbalanced : script.Balanced) (node : NodeId)
    (moves : List Move) : ((start node).after graph script moves).Tracked graph script := by
  apply after_preserves graph script _ (tracked_start graph script node) moves
  intro session move h
  exact (h.outcome hbalanced move).1

/-- However a script that was read from a document is played, the open conditions are those that enclose the
current position, outermost first and each with the part that the position is in. So no imbalance is ever
reported, and no condition is open at the end. -/
theorem conditions_enclose_position (config : ScriptConfig) (document : String) (graph : Graph)
    (node : NodeId) (moves : List Move) :
    let script := (Script.parse config document).1
    let session := (start node).after graph script moves
    session.conditions.reverse.Pairwise (·.position < ·.position) ∧
      (∀ condition, condition ∈ session.conditions ↔
        Encloses (script.listOf session.node) session.position condition) ∧
      (∀ move, ∀ event ∈ (Move.outcome graph script session move).events,
        reportsImbalance event = false) ∧
      (session.state = .finished → session.conditions = []) := by
  intro script session
  have hbalanced := balanced_parse config document
  have h : session.Tracked graph script := tracked_after graph hbalanced node moves
  refine ⟨?_, ?_, ?_, h.finished_outside⟩
  · rw [List.pairwise_reverse, h.conditions_eq]
    exact sorted_conditionsAt _ _
  · intro condition
    rw [h.conditions_eq]
    exact mem_conditionsAt_iff
  · intro move
    exact (h.outcome hbalanced move).2

end Session

end Storyline
