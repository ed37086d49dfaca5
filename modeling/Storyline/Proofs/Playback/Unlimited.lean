-- SUMMARY: The limit on jumps stops a call exactly if playing on would never end.
import Storyline.Proofs.Graph.Order
import Storyline.Proofs.Playback.Calls

/-!
# Playing without a limit

A call is stopped when it has jumped more often than there are nodes. `Stage.unlimited` is the same play
without that limit, cut into rounds of one instruction each; it gives nothing as long as it has not come to
an end.

The way that playing takes depends on the current node and the position in it and on nothing else of the
session. So a node that is entered twice without anything being shown in between is entered again and again.
A play that ends enters every node once at most, and the limit does not touch it.
-/

namespace Storyline

open Playback

namespace Playback

/-! ## The way that playing takes -/

/-- Where an instruction leads. -/
inductive Way where
  /-- On in the same node, so many instructions further than the next one. -/
  | further (skipped : Nat)
  | stop
  | jump (target : NodeId)

/-- The way of an effect, whatever it does to the session. -/
def Effect.way : Effect → Way
  | proceed _ skipped _ => .further skipped
  | stop _ _ => .stop
  | jump target => .jump target

theorem way_checkLevel (level : LevelLookup) (session other : Session) (role : String)
    (threshold : Int) (rest : List Instruction) :
    (checkLevel level session role threshold rest).way =
      (checkLevel level other role threshold rest).way := by
  obtain ⟨_, _, -, hsession⟩ := checkLevel_eq level session role threshold rest
  obtain ⟨_, _, -, hother⟩ := checkLevel_eq level other role threshold rest
  rw [hsession, hother]
  by_cases hhigh : threshold ≤ (level role).getD 0
  · simp only [if_pos hhigh, Effect.way]
  · simp only [if_neg hhigh]
    cases landing? 0 rest with
    | none => rfl
    | some landing => cases landing <;> rfl

/-- Where an instruction leads does not depend on the session. -/
theorem way_perform (level : LevelLookup) (session other : Session) (rest : List Instruction)
    (instruction : Instruction) :
    (perform level session rest instruction).way = (perform level other rest instruction).way := by
  cases instruction with
  | scene | portrait | clearPortrait | narration | dialogue | endIf | jump => rfl
  | ifLevel role threshold => exact way_checkLevel level session other role threshold rest
  | otherwise =>
    simp only [perform, leaveThenPart]
    cases endIf? 0 rest <;> rfl
  | openMenu =>
    simp only [perform, showMenu]
    cases offers rest <;> rfl
  | offer => rfl

end Playback

/-- The outcome with what was fired before it. -/
def Outcome.after (fired : List Event) (outcome : Outcome) : Outcome :=
  { outcome with events := fired ++ outcome.events }

theorem Outcome.after_after (fired later : List Event) (outcome : Outcome) :
    (outcome.after later).after fired = outcome.after (fired ++ later) := by
  simp [after]

namespace Stage

/-! ## Rounds -/

/-- What one round of playing leads to. -/
inductive Round where
  | more (next : Session) (events : List Event)
  | stop (outcome : Outcome)

/-- One round: the instruction at the current position. Playing is over where the player has to do
something, where the node is at its end and where a jump leads nowhere. -/
def round (stage : Stage) (session : Session) : Round :=
  match stage.script.get? session.node with
  | none =>
    let (finished, events) := finish session
    .stop ⟨finished, .anomaly (.emptyNode session.node) :: events, .ok finished.state⟩
  | some list =>
    match list.drop session.position with
    | [] =>
      let (finished, events) := finish session
      .stop ⟨finished, events, .ok finished.state⟩
    | instruction :: rest =>
      match perform stage.level session rest instruction with
      | .proceed next skipped events =>
        .more { next with position := session.position + 1 + skipped } events
      | .stop next events => .stop ⟨next, events, .ok next.state⟩
      | .jump target =>
        if stage.graph.contains target then .more (session.enter target) []
        else .stop ⟨session, [], .error (.structural (.unknownNode target))⟩

/-- Plays at most so many rounds, with no limit on jumps. There is no outcome if they are not enough. -/
def unlimited (stage : Stage) : (rounds : Nat) → Session → Option Outcome
  | 0, _ => none
  | rounds + 1, session =>
    match stage.round session with
    | .more next events => (unlimited stage rounds next).map (·.after events)
    | .stop outcome => some outcome

variable {stage : Stage} {session next last other : Session} {made made' rounds : Nat}
  {events fired : List Event} {outcome : Outcome}

/-- Where the current instruction is a jump to a node, playing goes on there. -/
theorem round_jump {list rest : List Instruction} {target : NodeId}
    (script : stage.script.get? session.node = some list)
    (front : list.drop session.position = .jump target :: rest)
    (known : stage.graph.contains target = true) :
    stage.round session = .more (session.enter target) [] := by
  simp only [round, script, front, perform, known, if_true]

/-- A jump that leads nowhere ends a play without a limit. -/
theorem round_lost {list rest : List Instruction} {target : NodeId}
    (script : stage.script.get? session.node = some list)
    (front : list.drop session.position = .jump target :: rest)
    (unknown : stage.graph.contains target = false) :
    stage.round session = .stop ⟨session, [], .error (.structural (.unknownNode target))⟩ := by
  simp only [round, script, front, perform, unknown, Bool.false_eq_true, if_false]

theorem Turn.round_eq (turn : Turn stage made session events made' next) :
    stage.round session = .more next events := by
  cases turn with
  | proceed script front performed => simp only [round, script, front, performed]
  | jump script front allowed known => exact round_jump script front known

/-- Where a call halts playing is over, unless the call has jumped too often. -/
theorem Halt.round_eq (halt : Halt stage made session outcome) :
    stage.round session = .stop outcome ∨
      ∃ list rest target, stage.script.get? session.node = some list ∧
        list.drop session.position = .jump target :: rest ∧ stage.graph.size < made + 1 ∧
        outcome = ⟨session, [], .error (.runawayJumps target (made + 1))⟩ := by
  cases halt with
  | unscripted script =>
    left
    simp only [round, script]
    rfl
  | atEnd script front =>
    left
    simp only [round, script, front]
    rfl
  | stop script front performed =>
    left
    simp only [round, script, front, performed]
  | runaway script front exceeded => exact .inr ⟨_, _, _, script, front, exceeded, rfl⟩
  | unknownTarget script front allowed unknown => exact .inl (round_lost script front unknown)

/-- Two sessions that stand at the same place go the same way. -/
theorem round_same_place (stage : Stage) (hnode : other.node = session.node)
    (hposition : other.position = session.position) :
    (∃ outcome outcome', stage.round session = .stop outcome ∧
      stage.round other = .stop outcome') ∨
    ∃ next events next' events', stage.round session = .more next events ∧
      stage.round other = .more next' events' ∧ next'.node = next.node ∧
      next'.position = next.position := by
  unfold round
  rw [hnode, hposition]
  cases hscript : stage.script.get? session.node with
  | none => exact .inl ⟨_, _, rfl, rfl⟩
  | some list =>
    cases hfront : list.drop session.position with
    | nil => exact .inl ⟨_, _, by simp only [hfront]; rfl, by simp only [hfront]; rfl⟩
    | cons instruction rest =>
      simp only [hfront]
      have hway := way_perform stage.level session other rest instruction
      cases hsession : perform stage.level session rest instruction with
      | proceed next skipped events =>
        cases hother : perform stage.level other rest instruction with
        | proceed next' skipped' events' =>
          rw [hsession, hother] at hway
          cases hway
          have hsame : next'.node = next.node := by
            rw [perform_proceed_frame hsession, perform_proceed_frame hother]
            exact hnode
          exact .inr ⟨_, _, _, _, rfl, rfl, hsame, by simp only⟩
        | stop | jump =>
          rw [hsession, hother] at hway
          cases hway
      | stop next events =>
        cases hother : perform stage.level other rest instruction with
        | stop => exact .inl ⟨_, _, rfl, rfl⟩
        | proceed | jump =>
          rw [hsession, hother] at hway
          cases hway
      | jump target =>
        cases hother : perform stage.level other rest instruction with
        | jump target' =>
          rw [hsession, hother] at hway
          cases hway
          dsimp only
          by_cases hknown : stage.graph.contains target = true
          · rw [if_pos hknown, if_pos hknown]
            exact .inr ⟨_, _, _, _, rfl, rfl, rfl, rfl⟩
          · rw [if_neg hknown, if_neg hknown]
            exact .inl ⟨_, _, rfl, rfl⟩
        | proceed | stop =>
          rw [hsession, hother] at hway
          cases hway

/-! ## How many rounds it takes -/

/-- Playing on from a session is over after exactly so many rounds, with this outcome. -/
inductive Takes (stage : Stage) : (rounds : Nat) → Session → Outcome → Prop where
  | stop {session : Session} {outcome : Outcome} (round : stage.round session = .stop outcome) :
      Takes stage 0 session outcome
  | more {rounds : Nat} {session next : Session} {events : List Event} {outcome : Outcome}
      (round : stage.round session = .more next events) (later : Takes stage rounds next outcome) :
      Takes stage (rounds + 1) session (outcome.after events)

theorem takes_of_unlimited (h : stage.unlimited rounds session = some outcome) :
    ∃ taken, stage.Takes taken session outcome := by
  induction rounds generalizing session outcome with
  | zero => cases h
  | succ rounds ih =>
    rw [unlimited] at h
    cases hround : stage.round session with
    | more next events =>
      simp only [hround, Option.map_eq_some_iff] at h
      obtain ⟨later, hlater, rfl⟩ := h
      obtain ⟨taken, htaken⟩ := ih hlater
      exact ⟨taken + 1, .more hround htaken⟩
    | stop ended =>
      simp only [hround, Option.some.injEq] at h
      subst h
      exact ⟨0, .stop hround⟩

theorem Takes.unlimited_eq (h : stage.Takes rounds session outcome) :
    stage.unlimited (rounds + 1) session = some outcome := by
  induction h with
  | stop round => simp only [unlimited, round]
  | more round _ ih =>
    rw [unlimited]
    simp only [round, ih, Option.map_some]

theorem Takes.unique (h : stage.Takes rounds session outcome) {rounds' : Nat} {outcome' : Outcome}
    (h' : stage.Takes rounds' session outcome') : rounds' = rounds ∧ outcome' = outcome := by
  induction h generalizing rounds' outcome' with
  | stop round =>
    cases h' with
    | stop round' =>
      cases round.symm.trans round'
      exact ⟨rfl, rfl⟩
    | more round' => cases round.symm.trans round'
  | more round _ ih =>
    cases h' with
    | stop round' => cases round.symm.trans round'
    | more round' later' =>
      cases round.symm.trans round'
      obtain ⟨rfl, rfl⟩ := ih later'
      exact ⟨rfl, rfl⟩

/-- From the same place it takes the same number of rounds. -/
theorem Takes.same_place (h : stage.Takes rounds session outcome) (hnode : other.node = session.node)
    (hposition : other.position = session.position) :
    ∃ outcome', stage.Takes rounds other outcome' := by
  induction h generalizing other with
  | stop round =>
    rcases round_same_place stage hnode hposition with
      ⟨_, _, _, hother⟩ | ⟨_, _, _, _, hmore, _⟩
    · exact ⟨_, .stop hother⟩
    · cases round.symm.trans hmore
  | more round _ ih =>
    rcases round_same_place stage hnode hposition with
      ⟨_, _, hstop, _⟩ | ⟨_, _, _, _, hmore, hother, hnode', hposition'⟩
    · cases round.symm.trans hstop
    · cases round.symm.trans hmore
      obtain ⟨outcome', hlater⟩ := ih hnode' hposition'
      exact ⟨_, .more hother hlater⟩

/-- A passage is the beginning of the play. -/
theorem Passage.takes (passage : Passage stage made session fired made' last)
    (h : stage.Takes rounds last outcome) :
    ∃ taken, stage.Takes taken session (outcome.after fired) := by
  induction passage with
  | here => exact ⟨rounds, h⟩
  | turn turn _ ih =>
    obtain ⟨taken, htaken⟩ := ih h
    rw [← Outcome.after_after]
    exact ⟨taken + 1, .more turn.round_eq htaken⟩

/-! ## Entered nodes -/

/-- The nodes that a call has entered before playing is over in so many rounds: they are all different,
because from their beginnings it takes longer. -/
structure Entered (stage : Stage) (rounds : Nat) (entered : List NodeId) : Prop where
  nodup : entered.Nodup
  known : ∀ id ∈ entered, stage.graph.contains id = true
  longer : ∀ id ∈ entered, ∃ taken, rounds ≤ taken ∧
    ∀ session : Session, session.node = id → session.position = 0 →
      ∃ outcome, stage.Takes taken session outcome

theorem Entered.nil (stage : Stage) (rounds : Nat) : stage.Entered rounds [] :=
  ⟨List.nodup_nil, List.forall_mem_nil _, List.forall_mem_nil _⟩

theorem Entered.mono {entered : List NodeId} (h : stage.Entered (rounds + 1) entered) :
    stage.Entered rounds entered :=
  { h with
    longer := by
      intro id hid
      obtain ⟨taken, hle, htaken⟩ := h.longer id hid
      exact ⟨taken, Nat.le_of_succ_le hle, htaken⟩ }

/-- A node from which it takes fewer rounds is another one than those that were entered. -/
theorem Entered.cons {entered : List NodeId} {target : NodeId}
    (h : stage.Entered (rounds + 1) entered) (hknown : stage.graph.contains target = true)
    (htakes : stage.Takes rounds (session.enter target) outcome) :
    stage.Entered rounds (target :: entered) where
  nodup := by
    refine List.nodup_cons.2 ⟨?_, h.nodup⟩
    intro hmem
    obtain ⟨taken, hle, htaken⟩ := h.longer target hmem
    obtain ⟨_, hother⟩ := htaken (session.enter target) rfl rfl
    have hsame := (htakes.unique hother).1
    omega
  known := List.forall_mem_cons.2 ⟨hknown, h.known⟩
  longer := by
    refine List.forall_mem_cons.2 ⟨⟨rounds, Nat.le_refl _, ?_⟩, h.mono.longer⟩
    intro other hnode hposition
    exact htakes.same_place hnode hposition

/-- On a passage of a play that ends, all nodes that are entered are different, and different from those that
were entered before. -/
theorem Passage.entered (passage : Passage stage made session fired made' last)
    (htakes : stage.Takes rounds session outcome) {before : List NodeId}
    (hbefore : stage.Entered rounds before) :
    ∃ entered rounds' outcome', last.trail = entered ++ session.trail ∧
      stage.Entered rounds' (entered ++ before) ∧ stage.Takes rounds' last outcome' ∧
      outcome = outcome'.after fired := by
  induction passage generalizing rounds outcome before with
  | here => exact ⟨[], rounds, outcome, rfl, hbefore, htakes, rfl⟩
  | turn turn _ ih =>
    have hround := turn.round_eq
    cases htakes with
    | stop round => cases hround.symm.trans round
    | more round later =>
      cases hround.symm.trans round
      cases turn with
      | proceed _ _ performed =>
        obtain ⟨entered, rounds', outcome', htrail, hentered, hlast, rfl⟩ := ih later hbefore.mono
        rw [perform_proceed_frame performed] at htrail
        exact ⟨entered, rounds', outcome', htrail, hentered, hlast, Outcome.after_after _ _ _⟩
      | @jump _ _ target _ _ _ known =>
        obtain ⟨entered, rounds', outcome', htrail, hentered, hlast, rfl⟩ :=
          ih later (hbefore.cons known later)
        rw [List.append_cons] at hentered
        exact ⟨entered ++ [target], rounds', outcome', htrail.trans (List.append_cons _ _ _), hentered,
          hlast, Outcome.after_after _ _ _⟩

/-! ## The limit -/

/-- Where playing without a limit ends in something to see, a call does not jump too often. -/
theorem Takes.not_runaway (htakes : stage.Takes rounds session outcome)
    {state : PlayState} (hok : outcome.result = .ok state)
    (passage : Passage stage 0 session fired made last) {list rest : List Instruction}
    {target : NodeId} (hscript : stage.script.get? last.node = some list)
    (hfront : list.drop last.position = .jump target :: rest) : made + 1 ≤ stage.graph.size := by
  obtain ⟨entered, rounds', outcome', htrail, hentered, hlast, rfl⟩ :=
    passage.entered htakes (Entered.nil stage rounds)
  cases hknown : stage.graph.contains target with
  | true =>
    have hjump := round_jump hscript hfront hknown
    cases hlast with
    | stop round => cases hjump.symm.trans round
    | more round later =>
      cases hjump.symm.trans round
      have hmore := hentered.cons hknown later
      have hsize := Graph.length_le_size hmore.nodup hmore.known
      have hmade := passage.trail_length
      rw [htrail, List.length_append] at hmade
      rw [List.length_cons, List.append_nil] at hsize
      omega
  | false =>
    have hlost := round_lost hscript hfront hknown
    cases hlast with
    | stop round =>
      cases hlost.symm.trans round
      cases hok
    | more round => cases hlost.symm.trans round

/-- A call ends as playing without a limit ends, or it has jumped too often: once more than there are
nodes. -/
theorem step_takes (hready : session.Ready) (hknown : stage.graph.contains session.node = true) :
    (∃ rounds, stage.Takes rounds session (stage.step session)) ∨
      ((∃ node, (stage.step session).result =
          .error (.runawayJumps node (stage.graph.size + 1))) ∧
        ∀ rounds outcome state, stage.Takes rounds session outcome →
          outcome.result ≠ .ok state) := by
  obtain ⟨fired, made, last, ended, hpassage, hhalt, houtcome⟩ :=
    step_eq_passage stage hready hknown
  rcases hhalt.round_eq with hstop | ⟨list, rest, target, hscript, hfront, hexceeded, rfl⟩
  · left
    rw [houtcome]
    exact hpassage.takes (.stop hstop)
  · right
    have hmade : made = stage.graph.size := by
      have hle := hpassage.made_allowed (Nat.zero_le _)
      omega
    constructor
    · exact ⟨target, by rw [houtcome, hmade]⟩
    · intro rounds outcome state htakes hok
      have hallowed := htakes.not_runaway hok hpassage hscript hfront
      omega

theorem Takes.step_eq (htakes : stage.Takes rounds session outcome) (hready : session.Ready)
    (hknown : stage.graph.contains session.node = true) {state : PlayState}
    (hok : outcome.result = .ok state) : stage.step session = outcome := by
  rcases step_takes hready hknown with ⟨_, hstep⟩ | ⟨_, hfails⟩
  · exact (htakes.unique hstep).2
  · exact absurd hok (hfails rounds outcome state htakes)

theorem takes_of_step_eq_ok (hready : session.Ready)
    (hknown : stage.graph.contains session.node = true) {state : PlayState}
    (hok : (stage.step session).result = .ok state) :
    ∃ rounds, stage.Takes rounds session (stage.step session) := by
  rcases step_takes hready hknown with htakes | ⟨⟨_, hrunaway⟩, _⟩
  · exact htakes
  · cases hok.symm.trans hrunaway

/-- Where playing without a limit comes to a line, to a menu or to the end of a node, a call gives the same
outcome. Where it never comes to an end, the call fails because it has jumped too often. Where it comes to a
jump that leads nowhere, the call fails for one of these reasons. -/
theorem step_eq_unlimited (hready : session.Ready)
    (hknown : stage.graph.contains session.node = true) :
    let Runaway : Prop := ∃ node,
      (stage.step session).result = .error (.runawayJumps node (stage.graph.size + 1))
    (∀ rounds outcome state, stage.unlimited rounds session = some outcome →
      outcome.result = .ok state → stage.step session = outcome) ∧
    (∀ rounds outcome error, stage.unlimited rounds session = some outcome →
      outcome.result = .error error → stage.step session = outcome ∨ Runaway) ∧
    ((∀ rounds, stage.unlimited rounds session = none) → Runaway) := by
  intro Runaway
  rcases step_takes hready hknown with ⟨rounds, htakes⟩ | ⟨hrunaway, hfails⟩
  · have hsame : ∀ rounds outcome, stage.unlimited rounds session = some outcome →
        stage.step session = outcome := by
      intro rounds' outcome houtcome
      obtain ⟨taken, htaken⟩ := takes_of_unlimited houtcome
      exact (htaken.unique htakes).2
    refine ⟨fun rounds outcome _ houtcome _ => hsame rounds outcome houtcome,
      fun rounds outcome _ houtcome _ => .inl (hsame rounds outcome houtcome), ?_⟩
    intro hforever
    cases (hforever (rounds + 1)).symm.trans htakes.unlimited_eq
  · refine ⟨?_, fun _ _ _ _ _ => .inr hrunaway, fun _ => hrunaway⟩
    intro rounds outcome state houtcome hok
    obtain ⟨taken, htaken⟩ := takes_of_unlimited houtcome
    exact absurd hok (hfails taken outcome state htaken)

/-- Two nodes that lead to each other, and a session behind the line of one of them: it comes back to the line
with as many jumps as there are nodes. -/
theorem step_eq_unlimited_of_return :
    let stage : Stage :=
      { graph := (Graph.addNode {} ⟨"inn", "", .normal⟩).addNode ⟨"road", "", .normal⟩
        script := .ofList [("inn", [.jump "road"]), ("road", [.narration "Rain.", .jump "inn"])]
        level := fun _ => none }
    let session : Session := { Session.start "road" with position := 1 }
    let Runaway : Prop := ∃ node,
      (stage.step session).result = .error (.runawayJumps node (stage.graph.size + 1))
    session.Ready ∧ stage.graph.contains session.node = true ∧
    (∀ rounds outcome state, stage.unlimited rounds session = some outcome →
      outcome.result = .ok state → stage.step session = outcome) ∧
    (∀ rounds outcome error, stage.unlimited rounds session = some outcome →
      outcome.result = .error error → stage.step session = outcome ∨ Runaway) ∧
    ((∀ rounds, stage.unlimited rounds session = none) → Runaway) :=
  ⟨⟨rfl, rfl⟩, by decide, step_eq_unlimited ⟨rfl, rfl⟩ (by decide)⟩

end Stage

end Storyline
