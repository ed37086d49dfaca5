-- SUMMARY: Jumps that lead nowhere: what a call answers that comes to one, and that the session rests on it.
import Storyline.Proofs.Playback.Course
import Storyline.Proofs.Playback.Targets

/-!
# Jumps that lead nowhere

A call that comes to a jump to no node fails there. It leaves the session at the jump, so that a step from
there fails in the same way, whatever the levels are, and nothing is shown a second time.

The limit on jumps is looked at before the target is. A call that has entered every node of the graph on its
way therefore blames the limit, though the jump would not be allowed in any case. All nodes that it has entered
are different, so this happens only behind a beginning in the middle of a node: from the beginning of a node
the way to the jump does not enter that node again.
-/

namespace Storyline

open Playback

namespace Stage

variable {graph : Graph} {script : Script} {level : LevelLookup} {stage : Stage}
  {session start last : Session} {call : Call} {made : Nat} {fired : List Event} {target : NodeId}

/-! ## Stranded sessions -/

/-- The session rests where playing cannot go on: it is at no node, or at a jump to no node. -/
inductive Stranded (graph : Graph) (script : Script) (session : Session) : NodeId → Prop where
  | node (unknown : graph.contains session.node = false) : Stranded graph script session session.node
  | jump {list rest : List Instruction} {target : NodeId}
      (known : graph.contains session.node = true)
      (listed : script.get? session.node = some list)
      (front : list.drop session.position = .jump target :: rest)
      (unknown : graph.contains target = false) : Stranded graph script session target

/-- A step from where a session is stranded goes nowhere, whatever the levels are. -/
theorem Stranded.step_eq (h : Stranded graph script session target) (hready : session.Ready)
    (level : LevelLookup) :
    step ⟨graph, script, level⟩ session =
      ⟨session, [], .error (.structural (.unknownNode target))⟩ := by
  cases h with
  | node unknown => exact step_of_unknown _ hready unknown
  | jump known listed front unknown =>
    have hallowed : 0 + 1 ≤ graph.size := Graph.size_pos known
    rw [step_eq_run _ hready known]
    exact (Halt.unknownTarget listed front hallowed unknown).run_eq

/-- A step that fails for a structural reason leaves the session stranded. -/
theorem stranded_of_step {error : GraphError}
    (hfailed : (step ⟨graph, script, level⟩ session).result = .error (.structural error)) :
    (step ⟨graph, script, level⟩ session).session.Ready ∧ ∃ target, error = .unknownNode target ∧
      Stranded graph script (step ⟨graph, script, level⟩ session).session target := by
  rcases step_cases ⟨graph, script, level⟩ session with ⟨-, hstep⟩ | ⟨hready, hunknown, hstep⟩ |
    ⟨hready, hknown, fired, made, last, ended, hpassage, hhalt, hstep⟩
  · rw [hstep] at hfailed
    cases hfailed
  · rw [hstep] at hfailed ⊢
    cases hfailed
    exact ⟨hready, _, rfl, .node hunknown⟩
  · have hlast : last.Known graph := Session.Known.passage hknown hpassage
    rw [hstep] at hfailed ⊢
    cases hhalt with
    | unscripted | atEnd | stop | runaway => cases hfailed
    | unknownTarget listed front _ unknown =>
      cases hfailed
      exact ⟨hpassage.ready hready, _, rfl, .jump hlast listed front unknown⟩

/-- Steps from where a session is stranded go nowhere, however the levels change between them. -/
theorem Stranded.outcomes_eq (h : Stranded graph script session target) (hready : session.Ready)
    (levels : List LevelLookup) :
    session.outcomes graph script (levels.map (⟨·, .step⟩)) =
      levels.map fun _ => ⟨session, [], .error (.structural (.unknownNode target))⟩ := by
  induction levels with
  | nil => rfl
  | cons level levels ih =>
    have hstep := h.step_eq hready level
    simp only [List.map_cons, Session.outcomes, Move.outcome, answer, hstep, ih]

/-- If a step or an advance fails for a structural reason, then so does every step after it, in the same way and
whatever the levels are. It fires nothing, and the session stays as the failed call left it. -/
theorem step_again_of_structural (hcall : call = .step ∨ call = .advance) {error : GraphError}
    (hfailed : (answer ⟨graph, script, level⟩ session call).result = .error (.structural error)) :
    let left := (answer ⟨graph, script, level⟩ session call).session
    let again : Outcome := ⟨left, [], .error (.structural error)⟩
    (∀ other, step ⟨graph, script, other⟩ left = again) ∧
    ∀ others : List LevelLookup,
      left.outcomes graph script (others.map (⟨·, .step⟩)) = others.map fun _ => again := by
  rcases answer_cases ⟨graph, script, level⟩ session call with
    ⟨result, hidle, hanswer⟩ | ⟨start, hbegins⟩
  · -- A call that does nothing fails only if it is a choice.
    rw [hanswer] at hfailed
    cases hfailed
    rcases hcall with rfl | rfl <;> cases hidle
  · rw [hbegins.answer_eq] at hfailed ⊢
    obtain ⟨hready, target, rfl, hstranded⟩ := stranded_of_step hfailed
    exact ⟨hstranded.step_eq hready, hstranded.outcomes_eq hready⟩

/-- In the inn Mio waits, and then the inn is entered again. From a level of 1 on she leaves it for a place that is
no node. -/
def innToNowhere (nodes : List NodeId) (level : Int) : Stage where
  graph := nodes.foldl (fun graph id => graph.addNode ⟨id, "", .normal⟩) { root := "inn" }
  script := .ofList [("inn",
    [.ifLevel "Mio" 1, .jump "nowhere", .endIf, .dialogue "Mio" "Wait.", .jump "inn"])]
  level := fun _ => some level

/-- The session in which Mio waits. -/
def inTheInn : Session :=
  { Session.start "inn" with
    position := 3
    display := { speaker := some "Mio", text := some "Wait." }
    awaitingAdvance := true }

theorem step_again_of_structural_of_inn :
    let stage := innToNowhere ["inn", "road"] 1
    let answer := stage.answer inTheInn .advance
    let error : GraphError := .unknownNode "nowhere"
    let again : Outcome := ⟨answer.session, [], .error (.structural error)⟩
    answer.result = .error (.structural error) ∧
    (∀ other, step ⟨stage.graph, stage.script, other⟩ answer.session = again) ∧
    ∀ others : List LevelLookup,
      answer.session.outcomes stage.graph stage.script (others.map (⟨·, .step⟩)) =
        others.map fun _ => again := by
  intro stage answer error again
  have hfailed : answer.result = .error (.structural error) := by decide +kernel
  exact ⟨hfailed, step_again_of_structural (.inr rfl) hfailed⟩

/-! ## What a call answers at a jump to no node -/

/-- A call comes to a jump: it begins to play at `start`, and with `made` jumps it gets to `last`, where the jump
is. -/
structure ComesToJump (stage : Stage) (session : Session) (call : Call) (start : Session)
    (fired : List Event) (made : Nat) (last : Session) (target : NodeId) : Prop where
  begins : Begins stage session call start
  ready : start.Ready
  passage : Passage stage 0 start fired made last
  jump : ∃ list rest, stage.script.get? last.node = some list ∧
    list.drop last.position = .jump target :: rest

namespace ComesToJump

/-- The call halts at the jump to no node, for one of two reasons. -/
theorem answer_cases (h : ComesToJump stage session call start fired made last target)
    (hknown : session.Known stage.graph) (hunknown : stage.graph.contains target = false) :
    (made < stage.graph.size ∧
      stage.answer session call = ⟨last, fired, .error (.structural (.unknownNode target))⟩) ∨
    (made = stage.graph.size ∧
      stage.answer session call = ⟨last, fired, .error (.runawayJumps target (made + 1))⟩) := by
  obtain ⟨list, rest, hlist, hfront⟩ := h.jump
  have hstart : start.Known stage.graph := hknown.begins h.begins
  have hanswer : stage.answer session call = (stage.run made last).after fired := by
    rw [h.begins.answer_eq, step_eq_run stage h.ready hstart, h.passage.run_eq]
  have hallowed : made ≤ stage.graph.size := h.passage.made_allowed (Nat.zero_le _)
  rcases Nat.lt_or_eq_of_le hallowed with hlt | heq
  · left
    rw [hanswer, (Halt.unknownTarget hlist hfront hlt hunknown).run_eq, Outcome.after,
      List.append_nil]
    exact ⟨hlt, rfl⟩
  · right
    rw [hanswer, (Halt.runaway hlist hfront (Nat.lt_succ_of_le heq.ge)).run_eq, Outcome.after,
      List.append_nil]
    exact ⟨heq, rfl⟩

/-- On the way to a jump to no node a call enters different nodes. If it begins at the beginning of a node, then
it does not enter that node again. -/
theorem entered (h : ComesToJump stage session call start fired made last target)
    (hknown : session.Known stage.graph) (hunknown : stage.graph.contains target = false) :
    ∃ entered, last.trail = entered ++ start.trail ∧ entered.length = made ∧ entered.Nodup ∧
      (∀ id ∈ entered, stage.graph.contains id = true) ∧
      (start.position = 0 → start.node ∉ entered) := by
  obtain ⟨list, rest, hlist, hfront⟩ := h.jump
  have hstart : start.Known stage.graph := hknown.begins h.begins
  obtain ⟨rounds, htakes⟩ := h.passage.takes (.stop (round_lost hlist hfront hunknown))
  obtain ⟨entered, _, _, htrail, hentered, -⟩ := h.passage.entered htakes (Entered.nil stage rounds)
  rw [List.append_nil] at hentered
  have hlength := h.passage.trail_length
  rw [htrail, List.length_append] at hlength
  refine ⟨entered, htrail, by omega, hentered.nodup, hentered.known, ?_⟩
  intro hposition hmem
  have hbefore : stage.Entered rounds [start.node] := by
    have hagain : ∃ outcome, stage.Takes rounds (start.enter start.node) outcome :=
      htakes.same_place rfl hposition.symm
    exact (Entered.nil stage (rounds + 1)).cons hstart hagain.choose_spec
  obtain ⟨entered', _, _, htrail', hentered', -⟩ := h.passage.entered htakes hbefore
  obtain rfl : entered' = entered := List.append_cancel_right (htrail'.symm.trans htrail)
  exact (List.nodup_append.1 hentered'.nodup).2.2 _ hmem _ (List.mem_singleton_self _) rfl

end ComesToJump

/-- A call that comes to a jump to no node says so if it has entered fewer nodes than there are. Otherwise it has
entered all nodes of the graph, each of them once, and says that it has jumped too often. That does not happen to
a call that begins at the beginning of a node. -/
theorem answer_at_unknown_target
    (hcomes : ComesToJump stage session call start fired made last target)
    (hknown : session.Known stage.graph) (hunknown : stage.graph.contains target = false) :
    let answer := stage.answer session call
    ∃ entered, last.trail = entered ++ start.trail ∧ entered.length = made ∧ entered.Nodup ∧
      ((made < stage.graph.size ∧
          answer = ⟨last, fired, .error (.structural (.unknownNode target))⟩) ∨
        (made = stage.graph.size ∧ start.position ≠ 0 ∧
          (∀ id, stage.graph.contains id = true → id ∈ entered) ∧
          answer = ⟨last, fired, .error (.runawayJumps target (made + 1))⟩)) := by
  intro answer
  obtain ⟨entered, htrail, hlength, hnodup, hentered, hbeginning⟩ := hcomes.entered hknown hunknown
  refine ⟨entered, htrail, hlength, hnodup, ?_⟩
  refine (hcomes.answer_cases hknown hunknown).imp_right ?_
  rintro ⟨hall, hanswer⟩
  have hmem : ∀ id, stage.graph.contains id = true → id ∈ entered := by
    intro id hid
    by_contra hnew
    have hsize : (id :: entered).length ≤ stage.graph.size :=
      Graph.length_le_size (List.nodup_cons.2 ⟨hnew, hnodup⟩) (List.forall_mem_cons.2 ⟨hid, hentered⟩)
    rw [List.length_cons] at hsize
    omega
  refine ⟨hall, ?_, hmem, hanswer⟩
  intro hposition
  exact hbeginning hposition (hmem start.node (hknown.begins hcomes.begins))

/-- The session behind the line of Mio. -/
def behindTheLine : Session :=
  { inTheInn with awaitingAdvance := false, position := 4 }

/-- The session at the jump to no node, with one jump back to the beginning of the inn. -/
def atTheWayOut : Session :=
  { behindTheLine.enter "inn" with position := 1, conditions := [⟨0, .thenPart⟩] }

theorem comesToJump_of_inn :
    ComesToJump (innToNowhere ["inn"] 1) inTheInn .advance behindTheLine [] 1 atTheWayOut "nowhere" := by
  have hback : Turn (innToNowhere ["inn"] 1) 0 behindTheLine [] 1 (behindTheLine.enter "inn") :=
    .jump rfl rfl (by decide) (by decide)
  have hinto : Turn (innToNowhere ["inn"] 1) 1 (behindTheLine.enter "inn") [] 1 atTheWayOut := by
    have hheld (rest : List Instruction) :
        perform (innToNowhere ["inn"] 1).level (behindTheLine.enter "inn") rest (.ifLevel "Mio" 1) =
          .proceed { behindTheLine.enter "inn" with conditions := [⟨0, .thenPart⟩] } 0 [] := rfl
    exact .proceed rfl rfl (hheld _)
  exact ⟨.advance rfl rfl, ⟨rfl, rfl⟩, .turn hback (.turn hinto (.here _ _)), _, _, rfl, rfl⟩

theorem answer_at_unknown_target_of_inn :
    let stage := innToNowhere ["inn"] 1
    let answer := stage.answer inTheInn .advance
    ComesToJump stage inTheInn .advance behindTheLine [] 1 atTheWayOut "nowhere" ∧
    inTheInn.Known stage.graph ∧ stage.graph.contains "nowhere" = false ∧
    ∃ entered, atTheWayOut.trail = entered ++ behindTheLine.trail ∧ entered.length = 1 ∧
      entered.Nodup ∧
      ((1 < stage.graph.size ∧
          answer = ⟨atTheWayOut, [], .error (.structural (.unknownNode "nowhere"))⟩) ∨
        (1 = stage.graph.size ∧ behindTheLine.position ≠ 0 ∧
          (∀ id, stage.graph.contains id = true → id ∈ entered) ∧
          answer = ⟨atTheWayOut, [], .error (.runawayJumps "nowhere" 2)⟩)) := by
  intro stage answer
  have hknown : inTheInn.Known stage.graph := rfl
  have hunknown : stage.graph.contains "nowhere" = false := by decide
  exact ⟨comesToJump_of_inn, hknown, hunknown,
    answer_at_unknown_target comesToJump_of_inn hknown hunknown⟩

/-- The levels may change while Mio waits, and then the next call comes to the jump to no node. It does not say
so; and from the beginning of the inn, with the levels that it has now, a step says so. -/
theorem answer_at_unknown_target_blames_limit :
    let stage := innToNowhere ["inn"] 1
    ((innToNowhere ["inn"] 0).step (Session.start "inn")).session = inTheInn ∧
    inTheInn.Known stage.graph ∧ stage.graph.contains "nowhere" = false ∧
    ComesToJump stage inTheInn .advance behindTheLine [] 1 atTheWayOut "nowhere" ∧
    (stage.answer inTheInn .advance).result = .error (.runawayJumps "nowhere" 2) ∧
    (stage.answer inTheInn .advance).result ≠ .error (.structural (.unknownNode "nowhere")) ∧
    (stage.answer (Session.start "inn") .step).result =
      .error (.structural (.unknownNode "nowhere")) := by
  intro stage
  have hrunaway : (stage.answer inTheInn .advance).result = .error (.runawayJumps "nowhere" 2) := by
    decide +kernel
  refine ⟨by decide +kernel, rfl, by decide, comesToJump_of_inn, hrunaway, ?_, by decide +kernel⟩
  rw [hrunaway]
  decide

end Stage

end Storyline
