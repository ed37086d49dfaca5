-- SUMMARY: After a clean report playing follows the edges of the graph and no call goes wrong.
import Storyline.Proofs.Lint.Clean
import Storyline.Proofs.Playback.Consistency

/-!
# Sound sessions

When the report on a graph and a script is clean, every jump and every choice follows an edge. So the nodes
that are visited are a path from the root, and as edges only lead forward in the order of the graph, no node is
visited twice. A call therefore never jumps too often, and there is always a list to play.
-/

namespace Storyline

open Playback

/-- Single instructions do not report a missing list. -/
theorem Playback.emptyNode_not_mem_perform {level : LevelLookup} {session next : Session}
    {rest : List Instruction} {instruction : Instruction} {skipped : Nat} {events : List Event}
    (h : perform level session rest instruction = .proceed next skipped events) (node : NodeId) :
    .anomaly (.emptyNode node) ∉ events := by
  intro hmem
  cases perform_proceeds h with
  | scene | portrait | clearPortrait | noOffers => simp at hmem
  | holds _ reported | fails _ _ reported => cases reported _ hmem
  | unended _ _ reported => rcases reported _ hmem with hreport | hreport <;> cases hreport
  | leaveThenPart _ reported | leaveCondition _ reported =>
    obtain ⟨cause, hreport⟩ := reported _ hmem
    cases hreport

variable {graph : Graph} {script : Script}

namespace Session

/-- A consistent session that has followed the edges of the graph from its root. -/
structure Sound (graph : Graph) (script : Script) (session : Session) : Prop
    extends session.Consistent graph script where
  root_first : session.visited.head? = some graph.root
  path : session.visited.IsChain graph.Leads

theorem sound_start (graph : Graph) (script : Script) : (start graph.root).Sound graph script where
  toConsistent := consistent_start graph script graph.root
  root_first := rfl
  path := .singleton _

namespace Sound

variable {session next last : Session} {level : LevelLookup} {made made' : Nat}
  {events fired : List Event}

theorem stay (h : session.Sound graph script) (hnext : next.Consistent graph script)
    (htrail : next.trail = session.trail) : next.Sound graph script where
  toConsistent := hnext
  root_first := by
    unfold visited
    rw [htrail]
    exact h.root_first
  path := by
    unfold visited
    rw [htrail]
    exact h.path

theorem enter (h : session.Sound graph script) {target : NodeId}
    (hknown : graph.contains target = true) (hleads : graph.Leads session.node target) :
    (session.enter target).Sound graph script where
  toConsistent := h.toConsistent.enter hknown
  root_first := by
    obtain ⟨later, hvisited⟩ := List.head?_eq_some_iff.1 h.root_first
    simp [visited_enter, hvisited]
  path := by
    rw [visited_enter]
    apply h.path.append (.singleton target)
    intro source hsource next hnext
    cases h.visited_last.symm.trans hsource
    cases hnext
    exact hleads

theorem halt (h : session.Sound graph script) (hready : session.Ready) {outcome : Outcome}
    (hhalt : Stage.Halt ⟨graph, script, level⟩ made session outcome) :
    outcome.session.Sound graph script :=
  h.stay (h.toConsistent.halt hready hhalt) hhalt.trail

variable (clean : Lint.Clean graph script)
include clean

/-! ## Visited nodes -/

theorem known (h : session.Sound graph script) :
    ∀ id ∈ session.visited, graph.contains id = true := by
  obtain ⟨later, hvisited⟩ := List.head?_eq_some_iff.1 h.root_first
  have hlater := h.visited_known
  rw [hvisited] at hlater ⊢
  intro id hid
  rcases List.mem_cons.1 hid with rfl | hid
  · exact clean.root_known
  · exact hlater id hid

theorem nodup (h : session.Sound graph script) : session.visited.Nodup := by
  obtain ⟨order, horder⟩ := clean.ordered
  exact Graph.nodup_of_isChain horder (h.known clean) h.path

theorem node_known (h : session.Sound graph script) : graph.contains session.node = true :=
  h.known clean session.node (List.mem_of_getLast? h.visited_last)

theorem length_trail_le (h : session.Sound graph script) : session.trail.length ≤ graph.size := by
  have hlength := Graph.length_le_size (h.nodup clean) (h.known clean)
  simpa [visited] using hlength

/-- A node that an edge leads to from the current one was not visited. -/
theorem not_mem_trail (h : session.Sound graph script) {target : NodeId}
    (hknown : graph.contains target = true) (hleads : graph.Leads session.node target) :
    target ∉ session.trail := by
  intro hmem
  have hnodup := (h.enter hknown hleads).nodup clean
  have hvisited : target ∈ session.visited := List.mem_reverse.2 hmem
  rw [visited_enter] at hnodup
  exact (List.nodup_append.1 hnodup).2.2 target hvisited target (List.mem_singleton.2 rfl) rfl

/-! ## What playing keeps -/

/-- An option of the menu that is up leads along an edge. -/
theorem option_leads (h : session.Sound graph script) {menu : Menu} {option : MenuOption}
    {index : Nat} {target : NodeId} (hmenu : session.menu = some menu)
    (hoption : menu.options[index]? = some option) (htarget : option.target = some target) :
    graph.contains target = true ∧ graph.Leads session.node target := by
  obtain ⟨number, hoffer⟩ := h.option_offered hmenu hoption
  obtain ⟨list, hlist, hmem⟩ := Script.get?_of_mem_listOf hoffer
  exact clean.leads hlist hmem htarget

theorem turn (h : session.Sound graph script) (hready : session.Ready)
    (hturn : Stage.Turn ⟨graph, script, level⟩ made session events made' next) :
    next.Sound graph script := by
  have hnext := h.toConsistent.turn hready hturn
  cases hturn with
  | proceed _ _ performed =>
    apply h.stay hnext
    rw [perform_proceed_frame performed]
  | jump hscript hfront _ hknown =>
    exact h.enter hknown (clean.leads hscript (mem_of_front hfront) rfl).2

theorem begins (h : session.Sound graph script) {call : Call} {start : Session}
    (hbegins : Stage.Begins ⟨graph, script, level⟩ session call start) :
    start.Sound graph script := by
  have hstart := h.toConsistent.begins hbegins
  cases hbegins with
  | step => exact h
  | advance => exact h.stay hstart rfl
  | enter _ hmenu hoption htarget hknown =>
    have hrecord : (Stage.record session _).Sound graph script :=
      h.stay (h.toConsistent.record hmenu hoption) rfl
    exact hrecord.enter hknown (h.option_leads clean hmenu hoption htarget).2
  | resume => exact h.stay hstart rfl

theorem passage (h : session.Sound graph script) (hready : session.Ready)
    (hpassage : Stage.Passage ⟨graph, script, level⟩ made session fired made' last) :
    last.Sound graph script := by
  induction hpassage with
  | here => exact h
  | turn hturn _ ih => exact ih (h.turn clean hready hturn) (hturn.ready hready)

/-- Every call keeps a session sound. As every node has a list, it reports no missing one. -/
theorem answer (h : session.Sound graph script) (level : LevelLookup) (call : Call) :
    let outcome := Stage.answer ⟨graph, script, level⟩ session call
    outcome.session.Sound graph script ∧
      ∀ event ∈ outcome.events, ∀ node, event ≠ .anomaly (.emptyNode node) := by
  apply Stage.answer_preserves ⟨graph, script, level⟩ _ _ _ h call
  · intro session call start h hbegins
    exact h.begins clean hbegins
  · intro made session events made' next hready h hturn
    refine ⟨h.turn clean hready hturn, ?_⟩
    rintro event hevent node rfl
    cases hturn with
    | proceed _ _ performed => exact emptyNode_not_mem_perform performed node hevent
    | jump => cases hevent
  · intro made session outcome hready h hhalt
    refine ⟨h.halt hready hhalt, ?_⟩
    rintro event hevent node rfl
    cases hhalt with
    | unscripted hunscripted =>
      obtain ⟨list, hlist⟩ := clean.scripted (h.node_known clean)
      cases hunscripted.symm.trans hlist
    | atEnd => simp at hevent
    | runaway | unknownTarget => cases hevent
    | stop _ _ performed =>
      rcases perform_stop_cases performed with ⟨_, _, _, _, rfl⟩ | ⟨_, _, _, _, rfl⟩ <;>
        simp at hevent

/-! ## How calls end -/

/-- There is room for one more jump: the nodes that were entered are all different. -/
theorem jump_allowed (h : session.Sound graph script) (hready : session.Ready)
    (hpassage : Stage.Passage ⟨graph, script, level⟩ 0 session fired made last)
    {list rest : List Instruction} {target : NodeId} (hscript : script.get? last.node = some list)
    (hfront : list.drop last.position = .jump target :: rest) :
    graph.contains target = true ∧ made + 1 ≤ graph.size := by
  have hlast := h.passage clean hready hpassage
  obtain ⟨hknown, hleads⟩ := clean.leads hscript (mem_of_front hfront) rfl
  have hentered := (hlast.enter hknown hleads).length_trail_le clean
  have hlength := hpassage.trail_length
  rw [Session.enter, List.length_cons] at hentered
  exact ⟨hknown, by omega⟩

theorem step_eq_ok (h : session.Sound graph script) (level : LevelLookup) :
    ∃ state, (Stage.step ⟨graph, script, level⟩ session).result = .ok state := by
  by_cases hready : session.Ready
  · obtain ⟨fired, made, last, ended, hpassage, hhalt, houtcome⟩ :=
      Stage.step_eq_passage ⟨graph, script, level⟩ hready (h.node_known clean)
    rw [houtcome]
    cases hhalt with
    | unscripted | atEnd | stop => exact ⟨_, rfl⟩
    | runaway hscript hfront hexceeded =>
      have hallowed := (h.jump_allowed clean hready hpassage hscript hfront).2
      exact absurd hexceeded (Nat.not_lt.2 hallowed)
    | unknownTarget hscript hfront _ hunknown =>
      have hknown := (h.jump_allowed clean hready hpassage hscript hfront).1
      cases hunknown.symm.trans hknown
  · rw [Stage.step_of_unready _ hready]
    exact ⟨_, rfl⟩

/-- A call fails only if there is nothing to choose from or the choice is not on offer. -/
theorem answer_error (h : session.Sound graph script) {call : Call} {error : PlayError}
    (herror : (Stage.answer ⟨graph, script, level⟩ session call).result = .error error) :
    (∃ state, error = .notAwaitingChoice state) ∨
      ∃ index available, error = .choiceOutOfRange index available := by
  rcases Stage.answer_cases ⟨graph, script, level⟩ session call with
    ⟨result, hidle, houtcome⟩ | ⟨start, hbegins⟩
  · rw [houtcome] at herror
    cases hidle with
    | step | advance => cases herror
    | notAwaiting =>
      cases herror
      exact .inl ⟨_, rfl⟩
    | outOfRange =>
      cases herror
      exact .inr ⟨_, _, rfl⟩
    | unknownTarget _ hmenu hoption htarget hunknown =>
      have hknown := (h.option_leads clean hmenu hoption htarget).1
      cases hunknown.symm.trans hknown
  · obtain ⟨state, hok⟩ := (h.begins clean hbegins).step_eq_ok clean level
    rw [hbegins.answer_eq, hok] at herror
    cases herror

end Sound

end Session

end Storyline
