-- SUMMARY: Reading a node to its end tells what the tree of its list tells.
import Storyline.Proofs.Graph.Order
import Storyline.Proofs.Playback.Telling

/-!
# Readings

A reader steps, then goes on behind every line and picks any option that stays in the node, for as long as no
jump was made. Every call brings the reader further along the list, and what was shown so far, followed by
what is told from the place that the reader has come to, is always the whole telling of the node.
-/

namespace Storyline

open Script Playback

namespace Playback

/-! ## Single instructions -/

variable {level : LevelLookup} {session next : Session} {rest : List Instruction}
  {instruction : Instruction} {skipped : Nat} {events : List Event}

/-- What a marker fires are anomalies, which a reader does not see. -/
theorem Proceeds.seen_eq_nil (h : Proceeds level session rest instruction next skipped events)
    (hmarker : instruction.isMarker = true) : seen events = [] := by
  unfold seen
  rw [List.filter_eq_nil_iff]
  intro event hevent
  cases h with
  | scene | portrait | clearPortrait | noOffers => cases hmarker
  | holds _ reported | fails _ _ reported =>
    rw [reported event hevent]
    exact Bool.false_ne_true
  | unended _ _ reported =>
    rcases reported event hevent with hreport | hreport
    all_goals
      rw [hreport]
      exact Bool.false_ne_true
  | leaveThenPart _ reported | leaveCondition _ reported =>
    obtain ⟨cause, hreport⟩ := reported event hevent
    rw [hreport]
    exact Bool.false_ne_true

/-- An instruction that does not stop shows the front of what is told from it on. -/
theorem onward_of_proceed
    (h : perform level session rest instruction = .proceed next skipped events) :
    onward level (instruction :: rest) =
      (Telling.of (seen events)).andThen (onward level (rest.drop skipped)) := by
  have hproceeds := perform_proceeds h
  have hunseen := hproceeds.seen_eq_nil
  cases hproceeds with
  | scene | portrait | clearPortrait | noOffers =>
    simp only [onward]
    rfl
  | holds high =>
    rw [onward, if_pos high, hunseen rfl, Telling.of_nil_andThen, List.drop_zero]
  | fails low found =>
    rw [onward, if_neg low, hunseen rfl, Telling.of_nil_andThen, failedDistance, found]
    rfl
  | unended low lost =>
    rw [onward, if_neg low, hunseen rfl, Telling.of_nil_andThen, failedDistance, lost]
    rfl
  | leaveThenPart => rw [onward, hunseen rfl, Telling.of_nil_andThen]
  | leaveCondition => rw [onward_endIf, hunseen rfl, Telling.of_nil_andThen, List.drop_zero]

/-- Before a line, the line is told and then what is told behind it. -/
theorem onward_of_line {speaker : Option String} {text : String}
    (h : instruction.spoken? = some (speaker, text)) :
    onward level (instruction :: rest) =
      (Telling.of [.line speaker text]).andThen (onward level rest) := by
  cases instruction with
  | narration | dialogue =>
    cases h
    simp only [onward]
    rfl
  | _ => cases h

theorem onward_of_offers {list : List Instruction} (h : offers list ≠ []) :
    onward level list =
      (Telling.menu (offers list)).andThen (onward level (list.drop (offers list).length)) := by
  match list with
  | .offer index text target :: rest =>
    rw [onward]
    rfl
  | [] => exact absurd rfl h
  | .scene _ :: _ | .portrait _ _ :: _ | .clearPortrait :: _ | .narration _ :: _
  | .dialogue _ _ :: _ | .ifLevel _ _ :: _ | .otherwise :: _ | .endIf :: _ | .jump _ :: _
  | .openMenu :: _ => exact absurd rfl h

/-- Before a menu, the menu is told and then what is told behind it. -/
theorem onward_of_menu (level : LevelLookup) {list : List Instruction} {position : Nat}
    (hfront : list.drop position = instruction :: rest)
    (hoptions : (menuFrom position (instruction :: rest)).options ≠ []) :
    let menu := menuFrom position (instruction :: rest)
    onward level (instruction :: rest) =
      (Telling.menu menu.options).andThen (onward level (list.drop menu.resumeAt)) := by
  cases instruction with
  | openMenu =>
    rw [menuFrom_openMenu] at hoptions ⊢
    dsimp only at hoptions ⊢
    rw [← List.drop_drop, behind_of_front hfront, ← onward_of_offers hoptions]
    simp only [onward]
    rfl
  | offer index text target =>
    rw [menuFrom_offer] at hoptions ⊢
    dsimp only at hoptions ⊢
    rw [Nat.add_zero, ← List.drop_drop, hfront]
    exact onward_of_offers hoptions
  | _ => exact absurd (by simp [menuFrom, Instruction.isOffer]) hoptions

end Playback

namespace Stage

/-! ## Passages inside a node -/

/-- A passage without a jump stays in the node, goes forward in its list and shows the front of what is told
from where it begins. -/
theorem Passage.shows {stage : Stage} {made made' : Nat} {session last : Session}
    {fired : List Event} {list : List Instruction}
    (passage : Passage stage made session fired made' last) (hmade : made' = made)
    (hscript : stage.script.get? session.node = some list) :
    last.node = session.node ∧ last.trail = session.trail ∧ session.position ≤ last.position ∧
      onward stage.level (list.drop session.position) =
        (Telling.of (seen fired)).andThen (onward stage.level (list.drop last.position)) := by
  induction passage with
  | here => exact ⟨rfl, rfl, Nat.le_refl _, rfl⟩
  | @turn _ _ _ session next _ _ _ turn passage ih =>
    cases turn with
    | @proceed _ rest instruction next skipped events script front performed =>
      obtain rfl := Option.some.inj (hscript.symm.trans script)
      have hframe := perform_proceed_frame performed
      have hnode : next.node = session.node := by rw [hframe]
      have htrail : next.trail = session.trail := by rw [hframe]
      obtain ⟨hlast, htrailed, hforward, htold⟩ := ih hmade (hnode ▸ hscript)
      dsimp only at hlast htrailed hforward htold
      refine ⟨hlast.trans hnode, htrailed.trans htrail, by omega, ?_⟩
      rw [seen_append, Telling.of_append_andThen, ← htold, ← List.drop_drop, ← List.drop_drop, front,
        List.drop_one, List.tail_cons, onward_of_proceed performed]
    | jump =>
      have hle := passage.made_le
      omega

/-! ## How a call of a reader ends -/

/-- A session that a reader can go on with in its node, and the place from which. -/
inductive GoesOn (session : Session) : Nat → Prop where
  | line (state : session.state = .running) (waiting : session.awaitingAdvance = true) :
      GoesOn session (session.position + 1)
  | menu {menu : Menu} (state : session.state = .awaitingChoice)
      (shown : session.menu = some menu) (stays : ∃ option ∈ menu.options, option.target = none) :
      GoesOn session menu.resumeAt

/-- How a call goes on that makes its first jump. -/
def leave (stage : Stage) (session : Session) (target : NodeId) : Outcome :=
  if stage.graph.contains target then stage.run 1 (session.enter target)
  else ⟨session, [], .error (.structural (.unknownNode target))⟩

/-- How a first call goes on that has come to the end of its node. -/
def conclude (stage : Stage) (played : NodeOutcome) : Outcome :=
  match played.jump with
  | none => ⟨played.session, played.events, .ok played.session.state⟩
  | some target =>
    let outcome := stage.leave played.session target
    { outcome with events := played.events ++ outcome.events }

theorem step_eq_conclude {stage : Stage} {session : Session} {list : List Instruction}
    (hready : session.Ready) (hknown : stage.graph.contains session.node = true)
    (hscript : stage.script.get? session.node = some list) :
    stage.step session =
      stage.conclude (playNode stage.level session (list.drop session.position)) := by
  rw [step, if_neg (fun hidle => Session.not_ready_iff.2 hidle hready), if_pos hknown, run, hscript,
    conclude]
  dsimp only
  cases (playNode stage.level session (list.drop session.position)).jump with
  | none => rfl
  | some target =>
    have hsize : ¬stage.graph.size < 0 + 1 := Nat.not_lt.2 (Graph.size_pos hknown)
    dsimp only
    rw [if_neg hsize, leave]
    split
    · rfl
    · rw [List.append_nil]

/-- Everything of a telling was fired, and the outcome is the one that fits its ending. What was fired
behind a jump belongs to other nodes. -/
inductive Ended (stage : Stage) (start : Session) (telling : Telling) (fired : List Event)
    (outcome : Outcome) : Prop where
  | finished (told : telling = ⟨seen fired, .through⟩) (node : outcome.session.node = start.node)
      (finished : outcome.result = .ok .finished)
  | closedMenu {menu : Menu} (told : telling = ⟨seen fired, .closedMenu⟩)
      (waits : outcome.result = .ok .awaitingChoice) (shown : outcome.session.menu = some menu)
      (leads : ∀ option ∈ menu.options, option.target ≠ none)
  | jump {before : List Event} {last : Session} {target : NodeId}
      (told : telling = ⟨seen before, .jump target⟩)
      (node : last.node = start.node) (trail : last.trail = start.trail)
      (behind : fired = before ++ (stage.leave last target).events)
      (session : outcome.session = (stage.leave last target).session)
      (result : outcome.result = (stage.leave last target).result)

/-- What was fired before counts for the telling, too. -/
theorem Ended.behind {stage : Stage} {start session : Session} {telling : Telling}
    {before fired : List Event} {outcome : Outcome} (h : Ended stage session telling fired outcome)
    (hnode : session.node = start.node) (htrail : session.trail = start.trail) :
    Ended stage start ((Telling.of (seen before)).andThen telling) (before ++ fired) outcome := by
  cases h with
  | finished told node finished =>
    exact .finished (by rw [told, seen_append]; rfl) (node.trans hnode) finished
  | closedMenu told waits shown leads =>
    exact .closedMenu (by rw [told, seen_append]; rfl) waits shown leads
  | @jump inside _ target told node trail behind session result =>
    have htold : (Telling.of (seen before)).andThen telling =
        ⟨seen (before ++ inside), .jump target⟩ := by
      rw [told, seen_append]
      rfl
    exact .jump htold (node.trans hnode) (trail.trans htrail)
      (by rw [behind, List.append_assoc]) session result

/-- A call of a reader that has shown the front of a telling and can go on at a place. -/
structure Paused (stage : Stage) (list : List Instruction) (start : Session) (telling : Telling)
    (fired : List Event) (outcome : Outcome) (place : Nat) : Prop where
  answers : outcome.result = .ok outcome.session.state
  goesOn : GoesOn outcome.session place
  notWaiting : outcome.session.state = .awaitingChoice → outcome.session.awaitingAdvance = false
  place_le : place ≤ list.length
  node : outcome.session.node = start.node
  trail : outcome.session.trail = start.trail
  told : telling = (Telling.of (seen fired)).andThen (onward stage.level (list.drop place))

theorem Paused.behind {stage : Stage} {list : List Instruction} {start session : Session}
    {telling : Telling} {before fired : List Event} {outcome : Outcome} {place : Nat}
    (h : Paused stage list session telling fired outcome place)
    (hnode : session.node = start.node) (htrail : session.trail = start.trail) :
    Paused stage list start ((Telling.of (seen before)).andThen telling) (before ++ fired) outcome
      place :=
  { h with
    node := h.node.trans hnode
    trail := h.trail.trans htrail
    told := by rw [seen_append, Telling.of_append_andThen, ← h.told] }

section Showing

variable {stage : Stage} {last : Session} {list rest : List Instruction} {instruction : Instruction}

theorem paused_line (hready : last.Ready) (hfront : list.drop last.position = instruction :: rest)
    {speaker : Option String} {text : String} (hspoken : instruction.spoken? = some (speaker, text))
    (events : List Event) :
    let next : Session := { last with
      display := { last.display with speaker, text := some text }
      awaitingAdvance := true }
    Paused stage list last (onward stage.level (list.drop last.position)) [.line speaker text]
      ⟨next, events, .ok next.state⟩ (last.position + 1) := by
  have hlength := length_of_front hfront
  exact {
    answers := rfl
    goesOn := .line hready.running rfl
    notWaiting := by simp [hready.running]
    place_le := by omega
    node := rfl
    trail := rfl
    told := by
      rw [hfront, onward_of_line hspoken, behind_of_front hfront]
      rfl }

/-- A menu can be gone on from if one of its options stays in the node; otherwise the telling ends there. -/
theorem menu_shows (hready : last.Ready) (hfront : list.drop last.position = instruction :: rest)
    (hoptions : (menuFrom last.position (instruction :: rest)).options ≠ []) (events : List Event) :
    let menu := menuFrom last.position (instruction :: rest)
    let next : Session := { last with menu := some menu, state := .awaitingChoice }
    let telling := onward stage.level (list.drop last.position)
    Paused stage list last telling [.choices menu.texts] ⟨next, events, .ok next.state⟩
        menu.resumeAt ∨
      Ended stage last telling [.choices menu.texts] ⟨next, events, .ok next.state⟩ := by
  have hlength := length_of_front hfront
  have htold := onward_of_menu stage.level hfront hoptions
  have hle := menuFrom_resumeAt_le last.position (instruction :: rest)
  rw [List.length_cons] at hle
  generalize menuFrom last.position (instruction :: rest) = menu at *
  dsimp only at htold ⊢
  rw [hfront, htold]
  by_cases hstays : ∃ option ∈ menu.options, option.target = none
  · left
    exact {
      answers := rfl
      goesOn := .menu rfl rfl hstays
      notWaiting := fun _ => hready.notWaiting
      place_le := by omega
      node := rfl
      trail := rfl
      told := by
        rw [Telling.menu_of_stays hstays]
        rfl }
  · right
    have hleads : ∀ option ∈ menu.options, option.target ≠ none := by
      intro option hoption hnone
      exact hstays ⟨option, hoption, hnone⟩
    rw [Telling.menu_of_leads hleads]
    exact .closedMenu rfl rfl rfl hleads

/-- Where playing inside the node ends, a reader has come to another place or to the end. -/
theorem NodeEnd.shows {ended : NodeOutcome} (hend : NodeEnd stage.level list last ended)
    (hready : last.Ready) (fired : List Event) :
    let telling := onward stage.level (list.drop last.position)
    let outcome := stage.conclude { ended with events := fired ++ ended.events }
    ∃ later, outcome.events = fired ++ later ∧
      ((∃ place, last.position < place ∧ Paused stage list last telling later outcome place) ∨
        Ended stage last telling later outcome) := by
  cases hend with
  | atEnd front =>
    refine ⟨[.finished last.node], rfl, .inr (.finished ?_ rfl rfl)⟩
    rw [front, onward]
    rfl
  | stop front performed =>
    rcases perform_stop_cases performed with
      ⟨speaker, text, hspoken, rfl, rfl⟩ | ⟨menu, rfl, hoptions, rfl, rfl⟩
    · refine ⟨_, rfl, .inl ⟨last.position + 1, Nat.lt_succ_self _, ?_⟩⟩
      exact paused_line hready front hspoken _
    · refine ⟨_, rfl, ?_⟩
      rcases menu_shows hready front hoptions _ with hpaused | hended
      · exact .inl ⟨_, lt_menuFrom_resumeAt hoptions, hpaused⟩
      · exact .inr hended
  | @jump _ target front =>
    have htold : onward stage.level (list.drop last.position) = ⟨seen [], .jump target⟩ := by
      rw [front, onward]
      rfl
    exact ⟨(stage.leave last target).events, by simp [conclude],
      .inr (.jump htold rfl rfl rfl rfl rfl)⟩

end Showing

/-- One step of a reader: it shows what is told from its place on, up to another place or to the end. -/
theorem step_shows {stage : Stage} {session : Session} {list : List Instruction}
    (hready : session.Ready) (hknown : stage.graph.contains session.node = true)
    (hscript : stage.script.get? session.node = some list) :
    let telling := onward stage.level (list.drop session.position)
    let outcome := stage.step session
    (∃ place, session.position < place ∧
      Paused stage list session telling outcome.events outcome place) ∨
    Ended stage session telling outcome.events outcome := by
  obtain ⟨fired, last, ended, hpassage, hnode, hend, hplayed⟩ :=
    playNode_eq_passage stage 0 hscript rfl
  obtain ⟨-, htrail, hforward, htold⟩ := hpassage.shows rfl hscript
  obtain ⟨later, hevents, hshows⟩ := hend.shows (hpassage.ready hready) fired
  dsimp only
  rw [step_eq_conclude hready hknown hscript, hplayed, htold, hevents]
  rcases hshows with ⟨place, hlt, hpaused⟩ | hended
  · exact .inl ⟨place, Nat.lt_of_le_of_lt hforward hlt, hpaused.behind hnode htrail⟩
  · exact .inr (hended.behind hnode htrail)

/-! ## Readings -/

/-- A reading from a session on: the number of its calls, what they fired, and the outcome of the last one.
It goes on only while no node was entered. -/
inductive Reading (stage : Stage) (start : Session) : Nat → List Event → Outcome → Prop where
  | step : Reading stage start 1 (stage.step start).events (stage.step start)
  | advance {calls : Nat} {fired : List Event} {last : Outcome}
      (reading : Reading stage start calls fired last) (stays : last.session.trail = start.trail)
      (state : last.session.state = .running) (waiting : last.session.awaitingAdvance = true) :
      Reading stage start (calls + 1) (fired ++ (stage.advance last.session).events)
        (stage.advance last.session)
  | choose {calls : Nat} {fired : List Event} {last : Outcome} {menu : Menu} {index : Nat}
      {option : MenuOption}
      (reading : Reading stage start calls fired last) (stays : last.session.trail = start.trail)
      (state : last.session.state = .awaitingChoice) (shown : last.session.menu = some menu)
      (picked : menu.options[index]? = some option) (untargeted : option.target = none) :
      Reading stage start (calls + 1) (fired ++ (stage.choose last.session index).events)
        (stage.choose last.session index)

theorem advance_eq_step {stage : Stage} {session : Session} (state : session.state = .running)
    (waiting : session.awaitingAdvance = true) :
    stage.advance session = stage.step
      { session with
        awaitingAdvance := false
        position := positionAfter session.position (stage.script.listOf session.node).length } :=
  (Begins.advance state waiting).answer_eq

theorem choose_eq_step {stage : Stage} {session : Session} {menu : Menu} {index : Nat}
    {option : MenuOption} (state : session.state = .awaitingChoice)
    (shown : session.menu = some menu) (picked : menu.options[index]? = some option)
    (untargeted : option.target = none) :
    stage.choose session index = stage.step
      { record session option with menu := none, state := .running, position := menu.resumeAt } :=
  (Begins.resume state shown picked untargeted).answer_eq

theorem Reading.settled {stage : Stage} {start : Session} {calls : Nat} {fired : List Event}
    {outcome : Outcome} (reading : stage.Reading start calls fired outcome) : Settled outcome := by
  cases reading with
  | step => exact step_settled stage start
  | advance _ _ state waiting =>
    rw [advance_eq_step state waiting]
    exact step_settled stage _
  | choose _ _ state shown picked untargeted =>
    rw [choose_eq_step state shown picked untargeted]
    exact step_settled stage _

/-- Nothing is left to go on with where a telling has ended, unless in another node. -/
theorem Ended.not_goesOn {stage : Stage} {start : Session} {telling : Telling} {fired : List Event}
    {outcome : Outcome} {place : Nat} (h : Ended stage start telling fired outcome)
    (hsettled : Settled outcome) (htrail : outcome.session.trail = start.trail) :
    ¬GoesOn outcome.session place := by
  intro hgoes
  unfold Settled at hsettled
  cases h with
  | finished _ _ finished =>
    rw [finished] at hsettled
    cases hgoes with
    | line state => cases hsettled.1.trans state
    | menu state => cases hsettled.1.trans state
  | closedMenu _ waits shown leads =>
    rw [waits] at hsettled
    cases hgoes with
    | line state => cases hsettled.1.trans state
    | menu _ shown' stays =>
      obtain rfl := Option.some.inj (shown.symm.trans shown')
      obtain ⟨option, hoption, hnone⟩ := stays
      exact leads option hoption hnone
  | @jump _ last target _ _ trail _ session result =>
    unfold leave at session result
    split at session
    · obtain ⟨_, made, final, ended, hpassage, hended, hrun⟩ :=
        run_eq_passage stage 1 (last.enter target)
      have hlength := hpassage.trail_length
      have hmade := hpassage.made_le
      rw [← hended.trail, show ended.session = outcome.session by rw [session, hrun], htrail, ← trail,
        Session.enter, List.length_cons] at hlength
      omega
    · rw [if_neg ‹_›] at result
      rw [result] at hsettled
      cases hgoes with
      | line _ waiting => cases hsettled.notWaiting.symm.trans waiting
      | menu state => cases hsettled.running.symm.trans state

section Readings

variable {stage : Stage} {start : Session} {list : List Instruction}

/-- After so many calls a reader has come at least as far in the list, or has come to the end. -/
def Progress (stage : Stage) (start : Session) (list : List Instruction) (calls : Nat)
    (fired : List Event) (outcome : Outcome) : Prop :=
  (∃ place, calls ≤ place ∧
    Paused stage list start (onward stage.level list) fired outcome place) ∨
  (calls ≤ list.length + 1 ∧ Ended stage start (onward stage.level list) fired outcome)

/-- A call that goes on from the place of a paused one makes progress. -/
theorem Paused.progress (hknown : stage.graph.contains start.node = true)
    (hscript : stage.script.get? start.node = some list) {calls place : Nat} {fired : List Event}
    {last : Outcome} (h : Paused stage list start (onward stage.level list) fired last place)
    (hcalls : calls ≤ place) {session : Session} (hready : session.Ready)
    (hposition : session.position = place) (hnode : session.node = start.node)
    (htrail : session.trail = start.trail) :
    Progress stage start list (calls + 1) (fired ++ (stage.step session).events)
      (stage.step session) := by
  have hbound := h.place_le
  have hshows := step_shows hready (hnode ▸ hknown) (hnode ▸ hscript)
  rw [hposition] at hshows
  unfold Progress
  rw [h.told]
  rcases hshows with ⟨further, hlt, hpaused⟩ | hended
  · exact .inl ⟨further, by omega, hpaused.behind hnode htrail⟩
  · exact .inr ⟨by omega, hended.behind hnode htrail⟩

theorem Reading.progress (hknown : stage.graph.contains start.node = true)
    (hscript : stage.script.get? start.node = some list) (hready : start.Ready)
    (hposition : start.position = 0) {calls : Nat} {fired : List Event} {outcome : Outcome}
    (reading : stage.Reading start calls fired outcome) :
    Progress stage start list calls fired outcome := by
  induction reading with
  | step =>
    have hshows := step_shows hready hknown hscript
    rw [hposition, List.drop_zero] at hshows
    rcases hshows with ⟨place, hlt, hpaused⟩ | hended
    · exact .inl ⟨place, hlt, hpaused⟩
    · exact .inr ⟨by omega, hended⟩
  | @advance calls _ last reading stays state waiting ih =>
    rcases ih with ⟨place, hle, hpaused⟩ | ⟨-, hended⟩
    · have hplace : place = last.session.position + 1 := by
        cases hpaused.goesOn with
        | line => rfl
        | menu awaits => cases state.symm.trans awaits
      have hlist : stage.script.listOf last.session.node = list := by
        rw [hpaused.node, Script.listOf_of_get? hscript]
      have hafter : positionAfter last.session.position list.length = place := by
        have hbound := hpaused.place_le
        rw [positionAfter, if_pos (by omega), hplace]
      rw [advance_eq_step state waiting, hlist]
      exact hpaused.progress hknown hscript hle ⟨state, rfl⟩ hafter hpaused.node stays
    · exact absurd (.line state waiting) (hended.not_goesOn reading.settled stays)
  | @choose calls _ last menu index option reading stays state shown picked untargeted ih =>
    rcases ih with ⟨place, hle, hpaused⟩ | ⟨-, hended⟩
    · have hplace : menu.resumeAt = place := by
        cases hpaused.goesOn with
        | line runs => cases state.symm.trans runs
        | menu _ shown' => rw [Option.some.inj (shown.symm.trans shown')]
      rw [choose_eq_step state shown picked untargeted]
      exact hpaused.progress hknown hscript hle ⟨rfl, hpaused.notWaiting state⟩ hplace hpaused.node
        stays
    · exact absurd (.menu state shown ⟨_, List.mem_of_getElem? picked, untargeted⟩)
        (hended.not_goesOn reading.settled stays)

/-- A reader who has come to a place can go on. -/
theorem Paused.exists_further {telling : Telling} {calls place : Nat} {fired : List Event}
    {last : Outcome} (h : Paused stage list start telling fired last place)
    (reading : stage.Reading start calls fired last) :
    ∃ fired outcome, stage.Reading start (calls + 1) fired outcome := by
  cases h.goesOn with
  | line state waiting => exact ⟨_, _, reading.advance h.trail state waiting⟩
  | menu state shown stays =>
    obtain ⟨option, hoption, hnone⟩ := stays
    obtain ⟨index, hpicked⟩ := List.getElem?_of_mem hoption
    exact ⟨_, _, reading.choose h.trail state shown hpicked hnone⟩

/-- Every reading can be brought to an end. -/
theorem Reading.exists_ended (hknown : stage.graph.contains start.node = true)
    (hscript : stage.script.get? start.node = some list) (hready : start.Ready)
    (hposition : start.position = 0) {calls : Nat} {fired : List Event} {outcome : Outcome}
    (reading : stage.Reading start calls fired outcome) :
    ∃ calls fired outcome, stage.Reading start calls fired outcome ∧
      Ended stage start (onward stage.level list) fired outcome := by
  rcases reading.progress hknown hscript hready hposition with ⟨place, hle, hpaused⟩ | ⟨-, hended⟩
  · have hbound := hpaused.place_le
    obtain ⟨fired', outcome', further⟩ := hpaused.exists_further reading
    exact further.exists_ended hknown hscript hready hposition
  · exact ⟨calls, fired, outcome, reading, hended⟩
termination_by list.length + 1 - calls

/-- Reading a node from its beginning tells what the tree of its list tells: what a reader has seen after any
number of calls is the front of it, and the reader either goes on in the node or has come to the end of it.
Which options are picked makes no difference, nor does what is in the session's fields besides. -/
theorem reading_tells_tree (hknown : stage.graph.contains start.node = true)
    (hscript : stage.script.get? start.node = some list) (hnests : WellNested list)
    (hready : start.Ready) (hposition : start.position = 0) :
    (∃ tree : Tree, tree.flatten = list) ∧
    ∀ tree : Tree, tree.flatten = list →
      let telling := tree.tell stage.level false
      (∀ calls fired outcome, stage.Reading start calls fired outcome →
        calls ≤ list.length + 1 ∧
        ((outcome.session.trail = start.trail ∧ (∃ place, GoesOn outcome.session place) ∧
            ∃ more, telling = (Telling.of (seen fired)).andThen more) ∨
          Ended stage start telling fired outcome)) ∧
      ∃ calls fired outcome, stage.Reading start calls fired outcome ∧
        Ended stage start telling fired outcome := by
  refine ⟨wellNested_iff_exists_tree.1 hnests, ?_⟩
  intro tree htree
  rw [← onward_of_flatten stage.level htree]
  constructor
  · intro calls fired outcome reading
    rcases reading.progress hknown hscript hready hposition with ⟨place, hle, hpaused⟩ | hended
    · have hbound := hpaused.place_le
      exact ⟨by omega, .inl ⟨hpaused.trail, ⟨place, hpaused.goesOn⟩, _, hpaused.told⟩⟩
    · exact ⟨hended.1, .inr hended.2⟩
  · exact Reading.step.exists_ended hknown hscript hready hposition

/-- A list with a line in each part of a condition, behind which a menu is closed. -/
theorem reading_tells_tree_of_alternative :
    let list : List Instruction :=
      [.ifLevel "Mira" 1, .narration "Yes.", .otherwise, .narration "No.", .endIf,
        .offer 1 "Stay" none, .offer 2 "Go" (some "end"), .jump "end"]
    let stage : Stage :=
      { graph := Graph.addNode {} ⟨"hall", "", .normal⟩
        script := SortedMap.empty.insert "hall" list
        level := fun _ => some 1 }
    (∃ tree : Tree, tree.flatten = list) ∧
    ∀ tree : Tree, tree.flatten = list →
      let telling := tree.tell stage.level false
      (∀ calls fired outcome, stage.Reading (Session.start "hall") calls fired outcome →
        calls ≤ list.length + 1 ∧
        ((outcome.session.trail = ["hall"] ∧ (∃ place, GoesOn outcome.session place) ∧
            ∃ more, telling = (Telling.of (seen fired)).andThen more) ∨
          Ended stage (Session.start "hall") telling fired outcome)) ∧
      ∃ calls fired outcome, stage.Reading (Session.start "hall") calls fired outcome ∧
        Ended stage (Session.start "hall") telling fired outcome :=
  reading_tells_tree (by decide) (by simp [Session.start, SortedMap.get?_insert]) (by decide)
    (Session.ready_start "hall") rfl

end Readings

end Stage

end Storyline
