-- SUMMARY: The plays of a skeleton are the paths of its graph.
import Storyline.Proofs.Playback.Scaffold

/-!
# Playing skeletons

A play of a scaffold is a path of the graph to a node without children, as far as it goes. Such a path is played
node by node: the player advances the text of the narrator, is led on to an only child, and picks the next node
of the path from a menu. What is left to play gets less with every call, so the induction is on that.
-/

namespace Storyline

open Playback Script

variable {graph : Graph} {script : Script} {level : LevelLookup} {session : Session}

namespace Session

/-! ## Plays are paths -/

theorem Sound.visited_path (h : session.Sound graph script) :
    graph.Path graph.root session.node session.visited :=
  ⟨h.path, h.root_first, h.visited_last⟩

theorem Guided.leaf_of_finished (h : session.Guided graph script) (hstate : session.state = .finished) :
    graph.children session.node = [] := by
  have hahead := h.ahead
  have hend := h.at_end hstate
  rw [← navigationOf_eq_nil, ← List.length_eq_zero_iff]
  unfold navigation at hahead
  omega

theorem Guided.answer (scaffold : Scaffold graph script) (hvalid : graph.Valid)
    (h : session.Guided graph script) (hsound : session.Sound graph script) (level : LevelLookup)
    (call : Call) : (Stage.answer ⟨graph, script, level⟩ session call).session.Guided graph script := by
  rcases Stage.answer_cases ⟨graph, script, level⟩ session call with
    ⟨result, _, houtcome⟩ | ⟨start, hbegins⟩
  · rw [houtcome]
    exact h
  · have hstart := hsound.begins (scaffold.clean hvalid) hbegins
    rw [hbegins.answer_eq]
    exact (h.begins scaffold hsound.toConsistent hbegins).step scaffold hvalid hstart level

theorem Guided.after (scaffold : Scaffold graph script) (hvalid : graph.Valid)
    (h : session.Guided graph script) (hsound : session.Sound graph script) (moves : List Move) :
    (session.after graph script moves).Guided graph script := by
  induction moves generalizing session with
  | nil => exact h
  | cons move rest ih =>
    have hnext := (hsound.answer (scaffold.clean hvalid) move.level move.call).1
    exact ih (h.answer scaffold hvalid hsound move.level move.call) hnext

/-! ## Paths can be played -/

/-- A session that is ready to play what is left of a path to a node without children. -/
structure Underway (graph : Graph) (script : Script) (session : Session) (rest : List NodeId) :
    Prop where
  sound : session.Sound graph script
  guided : session.Guided graph script
  ready : session.Ready
  path : ∃ ending, graph.Path session.node ending (session.node :: rest) ∧ graph.children ending = []

namespace Underway

variable {rest : List NodeId}

/-- The path is at its end, or it goes on to a child. -/
theorem path_cases (h : session.Underway graph script rest) :
    (rest = [] ∧ graph.children session.node = []) ∨
      ∃ next later, rest = next :: later ∧ graph.Leads session.node next ∧
        ∃ ending, graph.Path next ending (next :: later) ∧ graph.children ending = [] := by
  obtain ⟨ending, hpath, hleaf⟩ := h.path
  rcases hpath.cases_first with ⟨hrest, rfl⟩ | ⟨next, later, hrest, hleads, hlater⟩
  · exact .inl ⟨hrest, hleaf⟩
  · exact .inr ⟨next, later, hrest, hleads, ending, hlater, hleaf⟩

theorem rest_eq_nil (h : session.Underway graph script rest)
    (hleaf : graph.children session.node = []) : rest = [] := by
  rcases h.path_cases with ⟨hrest, -⟩ | ⟨next, later, -, hleads, -⟩
  · exact hrest
  · rw [← Graph.mem_childIds, Graph.childIds, hleaf] at hleads
    cases hleads

theorem exists_next (h : session.Underway graph script rest)
    (hchildren : graph.children session.node ≠ []) :
    ∃ next later, rest = next :: later ∧ graph.Leads session.node next ∧
      ∃ ending, graph.Path next ending (next :: later) ∧ graph.children ending = [] :=
  h.path_cases.resolve_left fun ⟨_, hleaf⟩ => hchildren hleaf

variable (scaffold : Scaffold graph script) (hvalid : graph.Valid)
include scaffold hvalid

/-- The call behind a step brings the session on its way. -/
theorem begins (h : session.Underway graph script rest) {call : Call} {waiting start : Session}
    (hwaiting : (Stage.step ⟨graph, script, level⟩ session).session = waiting)
    (hbegins : Stage.Begins ⟨graph, script, level⟩ waiting call start)
    (hready : start.Ready) {later : List NodeId}
    (hpath : ∃ ending, graph.Path start.node ending (start.node :: later) ∧
      graph.children ending = []) :
    start.Underway graph script later ∧ start.remaining script < session.remaining script := by
  have clean := scaffold.clean hvalid
  subst hwaiting
  have hrests := h.sound.rests_step clean level
  have hguided := h.guided.step scaffold hvalid h.sound level
  have hlt := hrests.sound.remaining_begins clean hbegins
  have hle := h.sound.remaining_step clean level
  rw [toGo_of_not_ready hrests.unready] at hlt
  exact ⟨⟨hrests.sound.begins clean hbegins, hguided.begins scaffold hrests.sound.toConsistent hbegins,
    hready, hpath⟩, Nat.lt_of_lt_of_le hlt hle⟩

/-- So does a jump to the next node. -/
theorem enter {next : NodeId} {later : List NodeId} (h : session.Underway graph script (next :: later))
    (only : graph.children session.node = [⟨next, none⟩]) :
    (session.enter next).Underway graph script later ∧
      (session.enter next).remaining script < session.remaining script := by
  have clean := scaffold.clean hvalid
  obtain ⟨_, _, hrest, hleads, hpath⟩ := h.exists_next (by simp [only])
  cases hrest
  have hknown := hvalid.target_known hleads
  have hsound := h.sound.enter hknown hleads
  obtain ⟨list, hlist⟩ := scaffold.scripted hknown
  have hahead := h.guided.ahead
  have hposition : session.position < (script.listOf session.node).length := by
    rw [navigation, only] at hahead
    exact hahead
  exact ⟨⟨hsound, guided_enter scaffold session hknown, session.ready_enter next, hpath⟩,
    remaining_enter_lt hlist (h.sound.not_mem_trail clean hknown hleads) hposition⟩

end Underway

/-- Can playing on from the session, with these levels, come to an end where just these nodes are visited? -/
def PlaysTo (graph : Graph) (script : Script) (level : LevelLookup) (session : Session)
    (visited : List NodeId) : Prop :=
  ∃ calls : List Call,
    let moves := calls.map (Move.mk level)
    session.IsPlay graph script moves ∧
      (session.after graph script moves).state = .finished ∧
      (session.after graph script moves).visited = visited

theorem PlaysTo.of_begins {visited : List NodeId} {call : Call} {start : Session}
    (hbegins : Stage.Begins ⟨graph, script, level⟩ session call start)
    (h : (Stage.step ⟨graph, script, level⟩ start).session.PlaysTo graph script level visited) :
    session.PlaysTo graph script level visited := by
  obtain ⟨calls, hplay, hstate, hvisited⟩ := h
  rw [← hbegins.answer_eq] at hplay hstate hvisited
  exact ⟨call :: calls, ⟨hbegins.asks, hplay⟩, hstate, hvisited⟩

/-- The rest of the path is played by one call after the other. -/
theorem Underway.playsTo (scaffold : Scaffold graph script) (hvalid : graph.Valid)
    (level : LevelLookup) {rest : List NodeId} (h : session.Underway graph script rest) :
    (Stage.step ⟨graph, script, level⟩ session).session.PlaysTo graph script level
      (session.visited ++ rest) := by
  induction hleft : session.remaining script using Nat.strong_induction_on
    generalizing session rest with
  | h left ih =>
  subst hleft
  have hwalks := h.guided.walks scaffold hvalid level
  cases hround : Stage.round ⟨graph, script, level⟩ session with
  | more next events =>
    rw [hround] at hwalks
    cases hwalks with
    | @jumps child only =>
      obtain ⟨next, later, rfl, hleads, -⟩ := h.exists_next (by simp [only])
      obtain rfl : next = child := by
        rw [← Graph.mem_childIds, Graph.childIds, only] at hleads
        exact List.mem_singleton.1 hleads
      obtain ⟨hnext, hlt⟩ := h.enter scaffold hvalid only
      obtain ⟨state, hok⟩ := hnext.sound.step_eq_ok (scaffold.clean hvalid) level
      obtain ⟨rounds, htakes⟩ := Stage.takes_of_step_eq_ok hnext.ready hnext.guided.known hok
      have hsame := (htakes.more hround).step_eq h.ready h.guided.known hok
      have hplays := ih _ hlt hnext rfl
      rw [visited_enter, List.append_assoc] at hplays
      rw [hsame]
      exact hplays
  | stop outcome =>
    rw [hround] at hwalks
    have hstop : Stage.Takes ⟨graph, script, level⟩ 0 session outcome := .stop hround
    cases hwalks with
    | @tells text ahead =>
      have hsame := hstop.step_eq h.ready h.guided.known rfl
      have hbegins : Stage.Begins ⟨graph, script, level⟩ (session.told text) .advance _ :=
        .advance h.ready.running rfl
      have hnext := h.begins scaffold hvalid (congrArg _ hsame) hbegins ⟨h.ready.running, rfl⟩ h.path
      rw [hsame]
      exact .of_begins hbegins (ih _ hnext.2 hnext.1 rfl)
    | ends leaf =>
      have hsame := hstop.step_eq h.ready h.guided.known rfl
      obtain rfl := h.rest_eq_nil leaf
      rw [hsame, List.append_nil]
      exact ⟨[], trivial, rfl, rfl⟩
    | @asks menu some_children options =>
      have hsame := hstop.step_eq h.ready h.guided.known rfl
      obtain ⟨next, later, rfl, hleads, hpath⟩ := h.exists_next some_children
      obtain ⟨link, hlink, rfl⟩ := List.mem_map.1 (Graph.mem_childIds.2 hleads)
      obtain ⟨index, hindex⟩ := List.mem_iff_getElem?.1 hlink
      have hpicked : menu.options[index]? = some link.option := by
        rw [options, List.getElem?_map, hindex, Option.map_some]
      have hbegins : Stage.Begins ⟨graph, script, level⟩ (session.asked menu) (.choose index) _ :=
        .enter rfl rfl hpicked rfl (hvalid.target_known hleads)
      have hnext := h.begins scaffold hvalid (congrArg _ hsame) hbegins (ready_enter _ _) hpath
      have hplays := ih _ hnext.2 hnext.1 rfl
      rw [visited_enter, List.append_assoc] at hplays
      rw [hsame]
      exact .of_begins hbegins hplays

end Session

/-! ## Plays of scaffolds from the root -/

namespace Scaffold

variable (scaffold : Scaffold graph script) (hvalid : graph.Valid)
include scaffold hvalid

theorem playsTo_of_path {ending : NodeId} {path : List NodeId}
    (hpath : graph.Path graph.root ending path) (hleaf : graph.children ending = [])
    (level : LevelLookup) : (Session.start graph.root).PlaysTo graph script level path := by
  obtain ⟨rest, rfl⟩ := List.head?_eq_some_iff.1 hpath.first
  have hunderway : (Session.start graph.root).Underway graph script rest :=
    ⟨Session.sound_start graph script, Session.guided_start scaffold hvalid.root_known,
      Session.ready_start graph.root, ending, hpath, hleaf⟩
  exact .of_begins (.step hunderway.ready) (hunderway.playsTo scaffold hvalid level)

/-- What is visited in a play that is finished is a path to a node without children. -/
theorem path_of_finished {moves : List Move}
    (hstate : ((Session.start graph.root).after graph script moves).state = .finished) :
    let session := (Session.start graph.root).after graph script moves
    graph.Path graph.root session.node session.visited ∧ graph.children session.node = [] := by
  have hsound := Session.sound_start graph script
  have hguided := Session.guided_start scaffold hvalid.root_known
  exact ⟨(hsound.after (scaffold.clean hvalid) moves).visited_path,
    (hguided.after scaffold hvalid hsound moves).leaf_of_finished hstate⟩

theorem mem_reachableEndings_iff (id : NodeId) :
    id ∈ graph.reachableEndings graph.root ↔
      ∃ moves, (Session.start graph.root).IsPlay graph script moves ∧
        ((Session.start graph.root).after graph script moves).state = .finished ∧
        ((Session.start graph.root).after graph script moves).node = id := by
  rw [Graph.mem_reachableEndings hvalid.root_known]
  constructor
  · rintro ⟨⟨path, hpath⟩, hleaf⟩
    obtain ⟨calls, hplay, hstate, hvisited⟩ :=
      scaffold.playsTo_of_path hvalid hpath hleaf fun _ => none
    have hlast := (scaffold.path_of_finished hvalid hstate).1.last
    rw [hvisited, hpath.last] at hlast
    exact ⟨_, hplay, hstate, (Option.some.inj hlast).symm⟩
  · rintro ⟨moves, -, hstate, rfl⟩
    obtain ⟨hpath, hleaf⟩ := scaffold.path_of_finished hvalid hstate
    exact ⟨⟨_, hpath⟩, hleaf⟩

end Scaffold

/-! ## Skeletons -/

section Skeletons

variable {config : ScriptConfig} {narrator : String}

/-- Children are nodes, so they are words if the nodes are. -/
theorem tellable_of_valid (hvalid : graph.Valid)
    (hids : ∀ node ∈ graph.nodes, IsWord node.id.toList ∧
      Text.occurs ['=', '=', '='] node.id.toList = false)
    (hchoices : ∀ edge ∈ graph.edges, ∀ text, edge.choice = some text → IsLabel text.toList)
    (hsummaries : ∀ node ∈ graph.nodes, node.summary ≠ "" → IsLabel node.summary.toList)
    {node : Node} (hnode : node ∈ graph.nodes) : Tellable graph node where
  heading := (hids node hnode).1.isHeading (hids node hnode).2
  summary := hsummaries node hnode
  writable := by
    intro link hlink
    obtain ⟨edge, hedge, rfl⟩ := List.mem_map.1 hlink
    have hknown : graph.contains edge.target = true :=
      hvalid.target_known ⟨edge, (List.mem_filter.1 hedge).1, rfl, rfl⟩
    obtain ⟨child, hchild, hid⟩ := List.mem_map.1 (Graph.mem_ids.2 hknown)
    refine ⟨?_, hchoices edge (List.mem_filter.1 hedge).1⟩
    rw [Edge.link, ← hid]
    exact (hids child hchild).1

theorem scaffold_of_skeleton (hnarrator : NamesNarrator config narrator)
    (h : ∀ node ∈ graph.nodes, Tellable graph node)
    (hfits : graph.edges.length < Text.wordCount) :
    Scaffold graph (parse config (Compose.skeleton graph narrator)).1 where
  scripted := by
    intro id hknown
    obtain ⟨node, hnode, rfl⟩ := List.mem_map.1 (Graph.mem_ids.2 hknown)
    exact ⟨_, get?_parse_skeleton hnarrator h hfits hnode⟩
  leads_on := by
    intro id list hlist
    have hknown : graph.contains id = true := by
      rw [← contains_parse_skeleton hnarrator h hfits, SortedMap.contains, hlist]
      rfl
    obtain ⟨node, hnode, rfl⟩ := List.mem_map.1 (Graph.mem_ids.2 hknown)
    cases hlist.symm.trans (get?_parse_skeleton hnarrator h hfits hnode)
    refine ⟨narrationOf node.summary, rfl, ?_⟩
    unfold narrationOf
    split
    · exact List.forall_mem_nil _
    · exact List.forall_mem_singleton.2 ⟨_, rfl⟩

/-- A skeleton of a valid graph plays just that graph. Plays are short, nothing that is asked for in them fails,
and they can be gone on with until the session is finished. Then the visited nodes are a path from the root to a
node without children. Each such path is visited by some play, whatever the levels are. So the endings that
can be played are the endings that can be reached. -/
theorem skeleton_plays_graph (hvalid : graph.validate = .ok ())
    (hids : ∀ node ∈ graph.nodes, IsWord node.id.toList ∧
      Text.occurs ['=', '=', '='] node.id.toList = false)
    (hchoices : ∀ edge ∈ graph.edges, ∀ text, edge.choice = some text → IsLabel text.toList)
    (hsummaries : ∀ node ∈ graph.nodes, node.summary ≠ "" → IsLabel node.summary.toList)
    (hnarrator : NamesNarrator config narrator) (hfits : graph.edges.length < Text.wordCount) :
    let script := (parse config (Compose.skeleton graph narrator)).1
    let start := Session.start graph.root
    (∀ moves, start.IsPlay graph script moves →
      let session := start.after graph script moves
      moves.length ≤ 1 + script.length ∧
      (∀ level call, session.Asks call →
        ∃ state, (Stage.answer ⟨graph, script, level⟩ session call).result = .ok state) ∧
      ((∃ call, session.Asks call) ↔ session.state ≠ .finished) ∧
      (session.state = .finished →
        ∃ ending, graph.Path graph.root ending session.visited ∧ graph.children ending = [])) ∧
    (∀ ending path, graph.Path graph.root ending path → graph.children ending = [] →
      ∀ level, start.PlaysTo graph script level path) ∧
    ∀ id, id ∈ graph.reachableEndings graph.root ↔
      ∃ moves, start.IsPlay graph script moves ∧ (start.after graph script moves).state = .finished ∧
        (start.after graph script moves).node = id := by
  intro script start
  have hgraph := Graph.valid_of_validate hvalid
  have scaffold : Scaffold graph script := scaffold_of_skeleton hnarrator
    (fun _ => tellable_of_valid hgraph hids hchoices hsummaries) hfits
  have clean := scaffold.clean hgraph
  have hsound : start.Sound graph script := Session.sound_start graph script
  refine ⟨?_, fun _ _ => scaffold.playsTo_of_path hgraph, scaffold.mem_reachableEndings_iff hgraph⟩
  intro moves hplay session
  have hlength := hsound.length_play_le clean hplay
  rw [Session.toGo_start clean] at hlength
  have hsession : session.Sound graph script := hsound.after clean moves
  exact ⟨Nat.le_of_add_right_le hlength, fun level _ hasks => hsession.asked_eq_ok clean hasks level,
    hsession.exists_asks_iff, fun hstate => ⟨_, scaffold.path_of_finished hgraph hstate⟩⟩

/-- At the fork both ways can be played, and they come to the same ending. -/
theorem skeleton_plays_graph_of_fork :
    let script := (parse {} (Compose.skeleton forkGraph " Narrator")).1
    forkGraph.reachableEndings "root" = ["right"] ∧
    (∀ level, (Session.start "root").PlaysTo forkGraph script level ["root", "left", "right"]) ∧
    (∀ level, (Session.start "root").PlaysTo forkGraph script level ["root", "right"]) ∧
    ∀ moves, (Session.start "root").IsPlay forkGraph script moves →
      ((Session.start "root").after forkGraph script moves).state = .finished →
        ((Session.start "root").after forkGraph script moves).node = "right" := by
  obtain ⟨-, hpaths, hendings⟩ := @skeleton_plays_graph forkGraph {} " Narrator" (by decide +kernel)
    (by decide +kernel) (by decide +kernel) (by decide +kernel) (by decide +kernel) (by decide)
  have hreached : forkGraph.reachableEndings "root" = ["right"] := by decide +kernel
  refine ⟨hreached, hpaths "right" _ (by decide) (by decide), hpaths "right" _ (by decide) (by decide), ?_⟩
  intro moves hplay hstate
  have hmem := (hendings _).2 ⟨moves, hplay, hstate, rfl⟩
  exact List.mem_singleton.1 (hreached ▸ hmem)

end Skeletons

end Storyline
