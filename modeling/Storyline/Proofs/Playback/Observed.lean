-- SUMMARY: Who follows the events of a playthrough knows what the session shows, reports and has finished.
import Mathlib.Data.List.Nodup
import Storyline.Proofs.Playback.Calls

/-!
# Following the events

A player is told of a playthrough by events alone, while a saved playthrough is a session. `Session.Follows`
says that the two tell the same story: the events, one after the other, lead from an empty display to the one
in the session, the menu that is up was announced last, the end of the node was announced once, and the roles
in the session are those that were reported. Every turn, every halt and every beginning of a call keeps this.
-/

namespace Storyline

open Playback

/-! ## What single events tell -/

/-- What is on display after an event. -/
def Display.after (display : Display) : Event → Display
  | .scene name => { display with background := some name }
  | .portrait portrait => { display with portrait }
  | .line speaker text => { display with speaker, text := some text }
  | .choices _ => display
  | .finished _ => display
  | .anomaly _ => display

namespace Event

/-- The texts of the menu that comes up. -/
def texts? : Event → Option (List String)
  | choices texts => some texts
  | _ => none

/-- The node whose end is announced. -/
def finished? : Event → Option NodeId
  | finished node => some node
  | _ => none

/-- The role that is reported to have no level. -/
def reportedRole? : Event → Option String
  | anomaly (.unknownRole role) => some role
  | _ => none

end Event

section Anomalies

variable {events : List Event}

/-- Anomalies are not displayed. -/
theorem foldl_after_anomalies (h : ∀ event ∈ events, ∃ anomaly, event = .anomaly anomaly)
    (display : Display) : events.foldl Display.after display = display := by
  induction events with
  | nil => rfl
  | cons event rest ih =>
    obtain ⟨⟨anomaly, rfl⟩, hrest⟩ := List.forall_mem_cons.1 h
    exact ih hrest

theorem filterMap_eq_nil_of_anomalies {α : Type} {told : Event → Option α}
    (htold : ∀ anomaly, told (.anomaly anomaly) = none)
    (h : ∀ event ∈ events, ∃ anomaly, event = .anomaly anomaly) : events.filterMap told = [] := by
  rw [List.filterMap_eq_nil_iff]
  intro event hevent
  obtain ⟨anomaly, rfl⟩ := h event hevent
  exact htold anomaly

end Anomalies

/-! ## What instructions tell -/

/-- The roles that events report are new, and they are noted. -/
inductive Notes (roles : NameSet) (events : List Event) : NameSet → Prop where
  | nothing (silent : events.filterMap Event.reportedRole? = []) : Notes roles events roles
  | role {role : String} (new : roles.contains role = false)
      (reported : events.filterMap Event.reportedRole? = [role]) : Notes roles events (roles.add role)

theorem Notes.contains_iff {roles later : NameSet} {events : List Event} (h : Notes roles events later)
    (role : String) : later.contains role = true ↔
      roles.contains role = true ∨ role ∈ events.filterMap Event.reportedRole? := by
  cases h with
  | nothing silent => rw [silent, List.mem_nil_iff, or_false]
  | role _ reported => rw [reported, List.mem_singleton, NameSet.contains_add, or_comm]

theorem Notes.nodup {roles later : NameSet} {events : List Event} (h : Notes roles events later) :
    (events.filterMap Event.reportedRole?).Nodup := by
  cases h with
  | nothing silent => exact silent ▸ List.nodup_nil
  | role _ reported => exact reported ▸ List.nodup_singleton _

theorem Notes.new {roles later : NameSet} {events : List Event} (h : Notes roles events later)
    {role : String} (hrole : role ∈ events.filterMap Event.reportedRole?) :
    roles.contains role = false := by
  cases h with
  | nothing silent =>
    rw [silent] at hrole
    cases hrole
  | role new reported =>
    rw [reported, List.mem_singleton] at hrole
    rwa [hrole]

/-- What is fired on the way from one session to another while playing goes on: it tells what comes on display
and which roles are noted, and neither a menu nor the end of a node. -/
structure Tells (session : Session) (events : List Event) (next : Session) : Prop where
  display : events.foldl Display.after session.display = next.display
  no_menu : events.filterMap Event.texts? = []
  not_finished : events.filterMap Event.finished? = []
  notes : Notes session.unknownRoles events next.unknownRoles

namespace Playback

variable {level : LevelLookup} {session next : Session} {rest : List Instruction}
  {instruction : Instruction} {skipped : Nat} {events : List Event}

theorem checkLevel_notes {role : String} {threshold : Int}
    (h : checkLevel level session role threshold rest = .proceed next skipped events) :
    Notes session.unknownRoles events next.unknownRoles := by
  unfold checkLevel at h
  by_cases hnew : ((level role).isNone && !session.unknownRoles.contains role) = true
  · have hunknown : session.unknownRoles.contains role = false := by
      rw [Bool.and_eq_true, Bool.not_eq_true'] at hnew
      exact hnew.2
    simp only [hnew, if_true] at h
    split at h
    · cases h
      exact .role hunknown rfl
    · split at h <;> cases h <;> exact .role hunknown rfl
  · simp only [hnew] at h
    split at h
    · cases h
      exact .nothing rfl
    · split at h <;> cases h <;> exact .nothing rfl

theorem notes_of_unbalanced (roles : NameSet)
    (h : ∀ event ∈ events, ∃ cause, event = unbalanced session cause) : Notes roles events roles := by
  apply Notes.nothing
  rw [List.filterMap_eq_nil_iff]
  intro event hevent
  obtain ⟨cause, rfl⟩ := h event hevent
  rfl

/-- What is not displayed tells of roles at most. -/
theorem tells_of_anomalies (h : ∀ event ∈ events, ∃ anomaly, event = .anomaly anomaly)
    (hdisplay : next.display = session.display)
    (hnotes : Notes session.unknownRoles events next.unknownRoles) : Tells session events next where
  display := by rw [foldl_after_anomalies h, hdisplay]
  no_menu := filterMap_eq_nil_of_anomalies (fun _ => rfl) h
  not_finished := filterMap_eq_nil_of_anomalies (fun _ => rfl) h
  notes := hnotes

theorem perform_tells
    (h : perform level session rest instruction = .proceed next skipped events) :
    Tells session events next := by
  cases perform_proceeds h with
  | scene | portrait | clearPortrait => exact ⟨rfl, rfl, rfl, .nothing rfl⟩
  | noOffers => exact tells_of_anomalies (by simp) rfl (.nothing rfl)
  | holds _ reported | fails _ _ reported =>
    refine tells_of_anomalies ?_ rfl (checkLevel_notes h)
    intro event hevent
    exact ⟨_, reported event hevent⟩
  | unended _ _ reported =>
    refine tells_of_anomalies ?_ rfl (checkLevel_notes h)
    intro event hevent
    rcases reported event hevent with rfl | rfl
    · exact ⟨_, rfl⟩
    · exact ⟨_, rfl⟩
  | leaveThenPart _ reported | leaveCondition _ reported =>
    refine tells_of_anomalies ?_ rfl (notes_of_unbalanced _ reported)
    intro event hevent
    obtain ⟨cause, rfl⟩ := reported event hevent
    exact ⟨_, rfl⟩

end Playback

/-! ## Following -/

namespace Session

/-- Everything that was fired since playing began tells what the session holds now. -/
structure Follows (fired : List Event) (session : Session) : Prop where
  display : fired.foldl Display.after {} = session.display
  /-- The menu that is up was announced last. -/
  menu : ∀ menu, session.menu = some menu →
    (fired.filterMap Event.texts?).getLast? = some menu.texts
  /-- One end was announced if the session is finished, that of its node, and none otherwise. -/
  finished : fired.filterMap Event.finished? = if session.isFinished then [session.node] else []
  /-- No role was reported twice. -/
  roles_nodup : (fired.filterMap Event.reportedRole?).Nodup
  mem_roles : ∀ role,
    role ∈ fired.filterMap Event.reportedRole? ↔ session.unknownRoles.contains role = true

/-- Everything that a sequence of moves fires. -/
def fired (graph : Graph) (script : Script) (session : Session) (moves : List Move) : List Event :=
  (session.outcomes graph script moves).flatMap (·.events)

theorem follows_start (node : NodeId) : Follows [] (start node) where
  display := rfl
  menu := by simp [start]
  finished := rfl
  roles_nodup := List.nodup_nil
  mem_roles role := by simp [start, SortedMap.contains]

namespace Follows

variable {stage : Stage} {session next : Session} {made made' : Nat} {past events : List Event}

/-- Events that tell the way from one session to another are followed on. -/
theorem tells (h : Follows past session) (htells : Tells session events next)
    (hmenu : ∀ menu, next.menu = some menu → session.menu = some menu)
    (hsession : session.isFinished = false) (hnext : next.isFinished = false) :
    Follows (past ++ events) next where
  display := by rw [List.foldl_append, h.display, htells.display]
  menu := by
    intro menu hshown
    rw [List.filterMap_append, htells.no_menu, List.append_nil]
    exact h.menu menu (hmenu menu hshown)
  finished := by
    rw [List.filterMap_append, htells.not_finished, h.finished, hsession, hnext]
    rfl
  roles_nodup := by
    rw [List.filterMap_append]
    refine List.nodup_append'.2 ⟨h.roles_nodup, htells.notes.nodup, ?_⟩
    intro role hpast hevents
    rw [h.mem_roles, htells.notes.new hevents] at hpast
    cases hpast
  mem_roles := by
    intro role
    rw [List.filterMap_append, List.mem_append, h.mem_roles, htells.notes.contains_iff]

/-- A session that differs from another in nothing that events tell, and is not finished either, is followed
by the same events. -/
theorem move (h : Follows past session) (hdisplay : next.display = session.display)
    (hroles : next.unknownRoles = session.unknownRoles)
    (hmenu : ∀ menu, next.menu = some menu → session.menu = some menu)
    (hsession : session.isFinished = false) (hnext : next.isFinished = false) : Follows past next := by
  have htells : Tells session [] next := ⟨hdisplay.symm, rfl, rfl, hroles ▸ .nothing rfl⟩
  have hnext := h.tells htells hmenu hsession hnext
  rwa [List.append_nil] at hnext

/-- The end of a node that is announced. -/
theorem finish (h : Follows past session) (hsession : session.isFinished = false)
    (hdisplay : events.foldl Display.after session.display = session.display)
    (hfinished : events.filterMap Event.finished? = [session.node])
    (hsilent : events.filterMap Event.reportedRole? = []) :
    Follows (past ++ events) (Playback.finish session).1 where
  display := by rw [List.foldl_append, h.display, hdisplay, Playback.finish]
  menu := by simp [Playback.finish]
  finished := by
    rw [List.filterMap_append, h.finished, hsession, hfinished]
    rfl
  roles_nodup := by
    rw [List.filterMap_append, hsilent, List.append_nil]
    exact h.roles_nodup
  mem_roles := by
    rw [List.filterMap_append, hsilent, List.append_nil]
    exact h.mem_roles

/-- A menu that is announced comes up. -/
theorem announce (h : Follows past session) (hsession : session.isFinished = false) (menu : Menu) :
    Follows (past ++ [.choices menu.texts])
      { session with menu := some menu, state := .awaitingChoice } where
  display := by
    rw [List.foldl_append]
    exact h.display
  menu := by
    rintro _ ⟨⟩
    rw [List.filterMap_append]
    exact List.getLast?_concat
  finished := by
    rw [List.filterMap_append, h.finished, hsession]
    rfl
  roles_nodup := by
    rw [List.filterMap_append]
    exact (List.append_nil _).symm ▸ h.roles_nodup
  mem_roles := by
    rw [List.filterMap_append]
    exact (List.append_nil _).symm ▸ h.mem_roles

theorem not_finished_of_ready (hready : session.Ready) : session.isFinished = false := by
  simp [isFinished, hready.running]

theorem turn (h : Follows past session) (hready : session.Ready)
    (hturn : Stage.Turn stage made session events made' next) : Follows (past ++ events) next := by
  have hsession := not_finished_of_ready hready
  have hnext := not_finished_of_ready (hturn.ready hready)
  cases hturn with
  | proceed _ _ performed =>
    have htells := perform_tells performed
    refine h.tells ⟨htells.display, htells.no_menu, htells.not_finished, htells.notes⟩ ?_ hsession hnext
    intro menu hmenu
    rwa [perform_proceed_frame performed] at hmenu
  | jump =>
    rw [List.append_nil]
    exact h.move rfl rfl (by simp [enter]) hsession hnext

theorem halt (h : Follows past session) (hready : session.Ready) {outcome : Outcome}
    (hhalt : Stage.Halt stage made session outcome) :
    Follows (past ++ outcome.events) outcome.session := by
  have hsession := not_finished_of_ready hready
  cases hhalt with
  | unscripted | atEnd => exact h.finish hsession rfl rfl rfl
  | runaway | unknownTarget => rwa [List.append_nil]
  | stop _ _ performed =>
    rcases perform_stop_cases performed with ⟨speaker, text, _, rfl, rfl⟩ | ⟨menu, _, _, rfl, rfl⟩
    · exact h.tells ⟨rfl, rfl, rfl, .nothing rfl⟩ (fun _ => id) hsession hsession
    · exact h.announce hsession menu

theorem begins (h : Follows past session) {call : Call} {start : Session}
    (hbegins : Stage.Begins stage session call start) : Follows past start := by
  cases hbegins with
  | step => exact h
  | advance state =>
    have hsession : session.isFinished = false := by simp [isFinished, state]
    exact h.move rfl rfl (fun _ => id) hsession hsession
  | enter state | resume state =>
    have hsession : session.isFinished = false := by simp [isFinished, state]
    exact h.move rfl rfl (by simp [enter]) hsession rfl

theorem outcome (h : Follows past session) (graph : Graph) (script : Script) (move : Move) :
    Follows (past ++ (move.outcome graph script session).events)
      (move.outcome graph script session).session :=
  Stage.answer_carries Follows ⟨graph, script, move.level⟩ (fun h => h.begins)
    (fun hready h hturn => h.turn hready hturn) (fun hready h hhalt => h.halt hready hhalt) h move.call

theorem after (h : Follows past session) (graph : Graph) (script : Script) (moves : List Move) :
    Follows (past ++ session.fired graph script moves) (session.after graph script moves) := by
  induction moves generalizing past session with
  | nil => rwa [fired, outcomes, List.flatMap_nil, List.append_nil]
  | cons move rest ih =>
    rw [fired, outcomes, List.flatMap_cons, ← List.append_assoc]
    exact ih (h.outcome graph script move)

end Follows

/-- Whatever calls were made, under any levels and whether they failed or not, the events that they fired tell
what the session shows, whether it is finished and which roles it has noted. -/
theorem follows_after (graph : Graph) (script : Script) (node : NodeId) (moves : List Move) :
    Follows ((start node).fired graph script moves) ((start node).after graph script moves) :=
  (follows_start node).after graph script moves

end Session

end Storyline
