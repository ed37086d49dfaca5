-- SUMMARY: A step ends: how far it goes on, how many nodes it enters and how much it plays.
import Mathlib.Data.List.Chain
import Storyline.Proofs.Playback.Unlimited
import Storyline.Proofs.SortedMap

/-!
# The course of a step

A step takes turn after turn until it halts. Its *course* is where it stands before each of its turns and where
it halts in the end. From one standing to the next it goes on in the list of a node, or it enters a node at the
beginning; it never goes back, and it enters no more nodes than the graph has. So what is left to play goes
down with every turn: the rest of the current list, and a whole list for each jump that is still allowed.

This needs nothing of the script or of the session. The markers need not be balanced, and a session that was
stored may stand anywhere, also behind the end of a list.
-/

namespace Storyline

open Playback

/-! ## The longest list -/

namespace Script

/-- The length of the longest list of a script. -/
def longest (script : Script) : Nat :=
  (script.entries.map (·.2.length)).max?.getD 0

theorem length_listOf_le (script : Script) (node : NodeId) :
    (script.listOf node).length ≤ script.longest := by
  unfold listOf
  cases hlist : script.get? node with
  | none => exact Nat.zero_le _
  | some list =>
    have hmem : list.length ∈ script.entries.map (·.2.length) :=
      List.mem_map_of_mem (SortedMap.mem_of_get? hlist)
    exact List.le_max?_getD_of_mem hmem

end Script

namespace Stage

variable {stage : Stage} {session next last : Session} {made made' : Nat} {events fired : List Event}
  {outcome : Outcome}

/-! ## Runs by turns -/

theorem Halt.run_eq (halt : Halt stage made session outcome) : stage.run made session = outcome := by
  unfold run
  cases halt with
  | unscripted script => simp only [script]; rfl
  | atEnd script front =>
    simp only [script, front, playNode]
    rfl
  | stop script front performed => simp only [script, front, playNode, performed]
  | runaway script front exceeded => simp only [script, front, playNode, perform, if_pos exceeded]
  | unknownTarget script front allowed unknown =>
    simp only [script, front, playNode, perform, if_neg (Nat.not_lt.2 allowed), unknown,
      Bool.false_eq_true, if_false]

theorem Turn.run_eq (turn : Turn stage made session events made' next) :
    stage.run made session = (stage.run made' next).after events := by
  cases turn with
  | @proceed list _ _ next _ _ script front performed =>
    have hscript : stage.script.get? next.node = some list := by
      rw [perform_proceed_frame performed]
      exact script
    rw [run, run]
    simp only [script, hscript, front, playNode, performed, ← List.drop_drop, behind_of_front front]
    generalize playNode stage.level _ _ = played
    cases played.jump with
    | none => rfl
    | some target =>
      dsimp only
      split
      · rfl
      · split
        · simp only [Outcome.after, List.append_assoc]
        · rfl
  | jump script front allowed known =>
    rw [run]
    simp only [script, front, playNode, perform, if_neg (Nat.not_lt.2 allowed), known, if_true]
    rfl

theorem Passage.run_eq (passage : Passage stage made session fired made' last) :
    stage.run made session = (stage.run made' last).after fired := by
  induction passage with
  | here => rfl
  | turn turn _ ih => rw [turn.run_eq, ih, Outcome.after_after]

/-! ## Courses -/

/-- Where a call stands: the jumps that it has made so far, and the session. -/
structure Standing where
  made : Nat
  session : Session

/-- Is there an instruction to perform? Behind the end of the list, and without one, there is none. -/
def Standing.performs (script : Script) (here : Standing) : Bool :=
  here.session.position < (script.listOf here.session.node).length

/-- Where a run stands from its beginning to the halt, one standing for each turn and one for the halt, and how
it ends. -/
inductive Course (stage : Stage) : Standing → List Standing → Outcome → Prop where
  | halt {here : Standing} {outcome : Outcome} (halt : Halt stage here.made here.session outcome) :
      Course stage here [here] outcome
  | turn {here next : Standing} {events : List Event} {later : List Standing} {outcome : Outcome}
      (turn : Turn stage here.made here.session events next.made next.session)
      (rest : Course stage next later outcome) :
      Course stage here (here :: later) (outcome.after events)

/-- The course of a step. A session on which there is nothing to play has an empty one. -/
inductive StepCourse (stage : Stage) (session : Session) : List Standing → Outcome → Prop where
  | unready (unready : ¬session.Ready) : StepCourse stage session [] ⟨session, [], .ok session.state⟩
  | unknown (ready : session.Ready) (unknown : stage.graph.contains session.node = false) :
      StepCourse stage session [] ⟨session, [], .error (.structural (.unknownNode session.node))⟩
  | plays {standings : List Standing} {outcome : Outcome} (ready : session.Ready)
      (known : stage.graph.contains session.node = true)
      (course : Course stage ⟨0, session⟩ standings outcome) : StepCourse stage session standings outcome

/-- From one standing to the next, a call goes on in the list of the node or enters a node at the beginning. -/
inductive Onward (graph : Graph) (here next : Standing) : Prop where
  | further (made : next.made = here.made) (node : next.session.node = here.session.node)
      (trail : next.session.trail = here.session.trail)
      (forward : here.session.position < next.session.position)
  | entry {target : NodeId} (known : graph.contains target = true) (made : next.made = here.made + 1)
      (allowed : next.made ≤ graph.size) (entered : next.session = here.session.enter target)

variable {here there : Standing} {standings : List Standing}

theorem Turn.onward (turn : Turn stage here.made here.session events there.made there.session) :
    Onward stage.graph here there := by
  obtain ⟨made, session⟩ := there
  cases turn with
  | proceed _ _ performed =>
    rw [perform_proceed_frame performed]
    refine .further rfl rfl rfl ?_
    dsimp only
    omega
  | jump _ _ allowed known => exact .entry known rfl allowed rfl

/-- A turn performs an instruction. -/
theorem Turn.performs (turn : Turn stage here.made here.session events made' next) :
    here.performs stage.script = true := by
  have hfront {list rest : List Instruction} {instruction : Instruction}
      (script : stage.script.get? here.session.node = some list)
      (front : list.drop here.session.position = instruction :: rest) :
      here.performs stage.script = true := by
    have hlength := length_of_front front
    rw [Standing.performs, Script.listOf_of_get? script, decide_eq_true_eq]
    omega
  cases turn with
  | proceed script front => exact hfront script front
  | jump script front => exact hfront script front

namespace Course

theorem of_passage (passage : Passage stage made session fired made' last)
    (halt : Halt stage made' last outcome) :
    ∃ standings, Course stage ⟨made, session⟩ standings (outcome.after fired) := by
  induction passage with
  | here => exact ⟨_, .halt halt⟩
  | @turn made made' _ session next _ events _ turn _ ih =>
    obtain ⟨standings, hcourse⟩ := ih halt
    rw [← Outcome.after_after]
    exact ⟨⟨made, session⟩ :: standings, .turn turn hcourse⟩

theorem outcome_eq (course : Course stage here standings outcome) :
    outcome = stage.run here.made here.session := by
  induction course with
  | halt halt => exact halt.run_eq.symm
  | turn turn _ ih => rw [turn.run_eq, ih]

theorem head? (course : Course stage here standings outcome) : standings.head? = some here := by
  cases course <;> rfl

theorem isChain (course : Course stage here standings outcome) :
    standings.IsChain (Onward stage.graph) := by
  induction course with
  | halt => exact .singleton _
  | turn turn rest ih =>
    refine ih.cons ?_
    intro next hnext
    rw [rest.head?, Option.mem_some_iff] at hnext
    exact hnext ▸ turn.onward

/-- Only at the last standing can there be nothing to perform. -/
theorem length_le (course : Course stage here standings outcome) :
    standings.length ≤ standings.countP (·.performs stage.script) + 1 := by
  induction course with
  | halt => exact Nat.le_add_left _ _
  | turn turn _ ih =>
    rw [List.length_cons, List.countP_cons_of_pos turn.performs]
    exact Nat.succ_le_succ ih

theorem trail (course : Course stage here standings outcome) (h : here.made ≤ stage.graph.size) :
    ∃ entered, outcome.session.trail = entered ++ here.session.trail ∧
      here.made + entered.length ≤ stage.graph.size := by
  induction course with
  | halt halt => exact ⟨[], halt.trail, h⟩
  | turn turn _ ih =>
    cases turn.onward with
    | further made _ trail =>
      obtain ⟨entered, htrail, hlength⟩ := ih (made ▸ h)
      exact ⟨entered, trail ▸ htrail, made ▸ hlength⟩
    | @entry target _ made allowed session =>
      obtain ⟨entered, htrail, hlength⟩ := ih allowed
      rw [session, Session.enter] at htrail
      refine ⟨entered ++ [target], htrail.trans (List.append_cons _ _ _), ?_⟩
      rw [List.length_append, List.length_singleton]
      omega

end Course

/-! ## How much is played -/

/-- The most that a call can still perform: what is left of the list, and a whole list for each jump that is
allowed. -/
def Standing.budget (stage : Stage) (here : Standing) : Nat :=
  ((stage.script.listOf here.session.node).length - here.session.position) +
    (stage.graph.size - here.made) * stage.script.longest

/-- A turn uses up something of the budget. -/
theorem Turn.budget_lt (turn : Turn stage here.made here.session events there.made there.session) :
    there.budget stage < here.budget stage := by
  have hperforms := turn.performs
  rw [Standing.performs, decide_eq_true_eq] at hperforms
  unfold Standing.budget
  cases turn.onward with
  | further made node _ forward =>
    rw [made, node]
    omega
  | @entry target _ made allowed session =>
    have hlist := stage.script.length_listOf_le target
    have hjumps : stage.graph.size - here.made = stage.graph.size - there.made + 1 := by omega
    rw [session, hjumps, Nat.succ_mul, Session.enter]
    dsimp only
    omega

theorem Course.performed_le (course : Course stage here standings outcome) :
    standings.countP (·.performs stage.script) ≤ here.budget stage := by
  induction course with
  | @halt here _ halt =>
    rw [List.countP_singleton]
    split
    · rename_i hperforms
      rw [Standing.performs, decide_eq_true_eq] at hperforms
      unfold Standing.budget
      omega
    · exact Nat.zero_le _
  | turn turn _ ih =>
    rw [List.countP_cons_of_pos turn.performs]
    exact Nat.succ_le_of_lt (Nat.lt_of_le_of_lt ih turn.budget_lt)

/-- At the beginning the budget is a list for the node that the session is at and one for each jump. -/
theorem budget_le (stage : Stage) (session : Session) :
    (Standing.mk 0 session).budget stage ≤ (stage.graph.size + 1) * stage.script.longest := by
  have hlist := stage.script.length_listOf_le session.node
  unfold Standing.budget
  rw [Nat.succ_mul, Nat.sub_zero]
  dsimp only
  omega

/-- A step ends, whatever the graph, the script, the levels and the session are. It has a course, and every
course leads to its outcome; the course goes onward from each standing to the next, with at most as many entries
as there are nodes, and all but its last standing perform an instruction, at most one list for each entry and one
for the node that the session is at. -/
theorem step_ends (stage : Stage) (session : Session) :
    (∃ standings, StepCourse stage session standings (stage.step session)) ∧
    ∀ standings outcome, StepCourse stage session standings outcome →
      let performed := standings.countP (·.performs stage.script)
      outcome = stage.step session ∧ standings.IsChain (Onward stage.graph) ∧
      (∃ entered, outcome.session.trail = entered ++ session.trail ∧
        entered.length ≤ stage.graph.size) ∧
      performed ≤ (stage.graph.size + 1) * stage.script.longest ∧
      standings.length ≤ performed + 1 := by
  constructor
  · rcases step_cases stage session with ⟨hunready, houtcome⟩ | ⟨hready, hunknown, houtcome⟩ |
      ⟨hready, hknown, fired, made, last, ended, hpassage, hhalt, houtcome⟩
    · rw [houtcome]
      exact ⟨[], .unready hunready⟩
    · rw [houtcome]
      exact ⟨[], .unknown hready hunknown⟩
    · obtain ⟨standings, hcourse⟩ := Course.of_passage hpassage hhalt
      rw [houtcome]
      exact ⟨standings, .plays hready hknown hcourse⟩
  · rintro standings outcome hcourse performed
    cases hcourse with
    | unready unready =>
      exact ⟨(step_of_unready stage unready).symm, .nil, ⟨[], rfl, Nat.zero_le _⟩, Nat.zero_le _,
        Nat.zero_le _⟩
    | unknown ready unknown =>
      exact ⟨(step_of_unknown stage ready unknown).symm, .nil, ⟨[], rfl, Nat.zero_le _⟩, Nat.zero_le _,
        Nat.zero_le _⟩
    | plays ready known course =>
      obtain ⟨entered, htrail, hlength⟩ := course.trail (Nat.zero_le _)
      refine ⟨?_, course.isChain, ⟨entered, htrail, ?_⟩, ?_, course.length_le⟩
      · rw [course.outcome_eq, step_eq_run stage ready known]
      · rwa [Nat.zero_add] at hlength
      · exact Nat.le_trans course.performed_le (budget_le stage session)

end Stage

end Storyline
