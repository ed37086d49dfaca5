-- SUMMARY: Playing a script of narration and navigation is walking the graph.
import Storyline.Proofs.Graph.Reach
import Storyline.Proofs.Playback.Asked
import Storyline.Proofs.Playback.Unlimited
import Storyline.Proofs.Script.Composed

/-!
# Scaffolds

In a *scaffold* the list of every node is some text of the narrator and behind it the navigation of the node.
Playing it keeps the navigation of the current node ahead until it is taken, so there are only four ways in
which a round can go: `Session.Walks`. Both directions follow from these. Every play is a path of the graph,
because the navigation leads along edges and a node where playing ends has none; and every path to an ending
can be played, by picking its next node wherever there is a menu.
-/

namespace Storyline

open Playback Script

/-- The list of every node is told by the narrator and then leads on as the graph does. -/
structure Scaffold (graph : Graph) (script : Script) : Prop where
  scripted {id : NodeId} : graph.contains id = true → ∃ list, script.get? id = some list
  leads_on {id : NodeId} {list : List Instruction} : script.get? id = some list →
    ∃ lead, list = lead ++ navigation graph id ∧
      ∀ instruction ∈ lead, ∃ text, instruction = .narration text

variable {graph : Graph} {script : Script} {level : LevelLookup} {session : Session}

/-! ## Lists of scaffolds -/

/-- The option of a menu that an edge becomes. -/
def Link.option (link : Link) : MenuOption :=
  ⟨(link.choice.map Text.trimString).getD link.child, some link.child⟩

theorem offers_offersFrom (number : Nat) (links : List Link) :
    offers (offersFrom number links) = links.map Link.option := by
  induction links generalizing number with
  | nil => rfl
  | cons link rest ih => rw [offersFrom, offers, ih, List.map_cons, Link.option]

theorem leads_of_only {id child : NodeId} (only : graph.children id = [⟨child, none⟩]) :
    graph.Leads id child := by
  rw [← Graph.mem_childIds, Graph.childIds, only]
  exact List.mem_cons_self

theorem ne_nil_of_opensMenu {links : List Link} (h : opensMenu links = true) : links ≠ [] := by
  rintro rfl
  cases h

/-- The session with a text of the narrator on display. -/
def Session.told (session : Session) (text : String) : Session :=
  { session with
    display := { session.display with speaker := none, text := some text }
    awaitingAdvance := true }

/-- The session with a menu up. -/
def Session.asked (session : Session) (menu : Menu) : Session :=
  { session with menu := some menu, state := .awaitingChoice }

/-- The offers of a menu stand behind its marker, so it is shown. -/
theorem perform_openMenu {links : List Link} (h : links ≠ []) (level : LevelLookup)
    (session : Session) :
    ∃ menu : Menu, menu.options = links.map Link.option ∧
      perform level session (offersFrom 1 links) .openMenu =
        .stop (session.asked menu) [.choices menu.texts] := by
  refine ⟨⟨links.map Link.option, session.position + 1 + (links.map Link.option).length⟩, rfl, ?_⟩
  rw [perform, showMenu, offers_offersFrom]
  cases links with
  | nil => exact absurd rfl h
  | cons => rfl

namespace Scaffold

variable (scaffold : Scaffold graph script)
include scaffold

theorem navigation_target {id target : NodeId} {list : List Instruction} {instruction : Instruction}
    (hlist : script.get? id = some list) (hmem : instruction ∈ list)
    (htarget : instruction.navigationTarget = some target) : graph.Leads id target := by
  obtain ⟨lead, rfl, hlead⟩ := scaffold.leads_on hlist
  rcases List.mem_append.1 hmem with hmem | hmem
  · obtain ⟨text, rfl⟩ := hlead _ hmem
    cases htarget
  · rcases mem_navigationOf hmem with rfl | ⟨link, hlink, hchild⟩
    · cases htarget
    · cases hchild.symm.trans htarget
      exact Graph.mem_childIds.1 (List.mem_map_of_mem hlink)

theorem clean (hvalid : graph.Valid) : Lint.Clean graph script where
  ordered := hvalid.ordered
  root_known := hvalid.root_known
  scripted := scaffold.scripted
  leads hlist hmem htarget :=
    have hleads := scaffold.navigation_target hlist hmem htarget
    ⟨hvalid.target_known hleads, hleads⟩

/-- While the navigation is ahead, next is a text of the narrator or the navigation itself. -/
theorem front {id : NodeId} {list : List Instruction} (hlist : script.get? id = some list)
    {position : Nat} (hahead : position + (navigation graph id).length ≤ list.length) :
    (∃ text rest, list.drop position = .narration text :: rest ∧
      position + 1 + (navigation graph id).length ≤ list.length) ∨
    list.drop position = navigation graph id := by
  obtain ⟨lead, rfl, hlead⟩ := scaffold.leads_on hlist
  rw [List.length_append] at hahead ⊢
  rcases Nat.lt_or_ge position lead.length with hlt | hge
  · left
    obtain ⟨text, htext⟩ := hlead _ (List.getElem_mem hlt)
    refine ⟨text, lead.drop (position + 1) ++ navigation graph id, ?_, by omega⟩
    rw [List.drop_append_of_le_length (Nat.le_of_lt hlt), List.drop_eq_getElem_cons hlt, htext,
      List.cons_append]
  · right
    have hposition : position = lead.length := by omega
    rw [hposition, List.drop_left]

end Scaffold

/-! ## Rounds on scaffolds -/

namespace Session

/-- The navigation of the current node is ahead, and a session that is over has come to the end of its
list. -/
structure Guided (graph : Graph) (script : Script) (session : Session) : Prop where
  known : graph.contains session.node = true
  ahead : session.position + (navigation graph session.node).length ≤
    (script.listOf session.node).length
  at_end : session.state = .finished → (script.listOf session.node).length ≤ session.position

/-- How a round goes on a scaffold: the narrator tells something, or playing ends where there are no
children, or it goes on to the only child, or the player is asked which child it shall be. -/
inductive Walks (graph : Graph) (script : Script) (session : Session) : Stage.Round → Prop where
  | tells {text : String}
      (ahead : session.position + 1 + (navigation graph session.node).length ≤
        (script.listOf session.node).length) :
      Walks graph script session (.stop ⟨session.told text, [.line none text], .ok session.state⟩)
  | ends (leaf : graph.children session.node = [])
      (at_end : (script.listOf session.node).length ≤ session.position) :
      Walks graph script session (.stop ⟨(finish session).1, [.finished session.node], .ok .finished⟩)
  | jumps {child : NodeId} (only : graph.children session.node = [⟨child, none⟩]) :
      Walks graph script session (.more (session.enter child) [])
  | asks {menu : Menu} (some_children : graph.children session.node ≠ [])
      (options : menu.options = (graph.children session.node).map Link.option) :
      Walks graph script session (.stop
        ⟨session.asked menu, [.choices menu.texts], .ok .awaitingChoice⟩)

theorem guided_start (scaffold : Scaffold graph script) {id : NodeId}
    (hknown : graph.contains id = true) : (start id).Guided graph script where
  known := hknown
  ahead := by
    obtain ⟨list, hlist⟩ := scaffold.scripted hknown
    obtain ⟨lead, rfl, -⟩ := scaffold.leads_on hlist
    simp [start, Script.listOf_of_get? hlist]
  at_end := nofun

theorem guided_enter (scaffold : Scaffold graph script) (session : Session) {id : NodeId}
    (hknown : graph.contains id = true) : (session.enter id).Guided graph script where
  known := hknown
  ahead := (guided_start scaffold hknown).ahead
  at_end := nofun

namespace Guided

/-- There are no other rounds. -/
theorem walks (scaffold : Scaffold graph script) (hvalid : graph.Valid)
    (h : session.Guided graph script) (level : LevelLookup) :
    session.Walks graph script (Stage.round ⟨graph, script, level⟩ session) := by
  obtain ⟨list, hlist⟩ := scaffold.scripted h.known
  have hlistOf := Script.listOf_of_get? hlist
  have hahead := h.ahead
  rw [hlistOf] at hahead
  rcases scaffold.front hlist hahead with ⟨text, rest, hfront, hfurther⟩ | hfront
  · have hround : Stage.round ⟨graph, script, level⟩ session = .stop
        ⟨{ session with
            display := { session.display with speaker := none, text := some text }
            awaitingAdvance := true },
          [.line none text], .ok session.state⟩ := by
      simp only [Stage.round, hlist, hfront, perform, showLine]
    rw [hround]
    exact .tells (by rwa [hlistOf])
  · cases hlinks : graph.children session.node using linksCases with
    | ending =>
      rw [navigation, hlinks] at hfront
      have hnil : list.drop session.position = [] := hfront
      have hround : Stage.round ⟨graph, script, level⟩ session = .stop
          ⟨(finish session).1, [.finished session.node], .ok .finished⟩ := by
        simp only [Stage.round, hlist, hnil]
        rfl
      rw [hround]
      exact .ends hlinks (by rwa [hlistOf, ← List.drop_eq_nil_iff])
    | jump child =>
      rw [navigation, hlinks] at hfront
      have hjump : list.drop session.position = [.jump child] := hfront
      have hknown := hvalid.target_known (leads_of_only hlinks)
      have hround : Stage.round ⟨graph, script, level⟩ session = .more (session.enter child) [] := by
        simp only [Stage.round, hlist, hjump, perform, hknown, if_true]
      rw [hround]
      exact .jumps hlinks
    | menu links hmenu =>
      obtain ⟨menu, hoptions, hperform⟩ := perform_openMenu (ne_nil_of_opensMenu hmenu) level session
      rw [navigation, hlinks, navigationOf_menu hmenu] at hfront
      have hround : Stage.round ⟨graph, script, level⟩ session = .stop
          ⟨session.asked menu, [.choices menu.texts], .ok .awaitingChoice⟩ := by
        simp only [Stage.round, hlist, hfront, hperform]
        rfl
      rw [hround]
      exact .asks (by rw [hlinks]; exact ne_nil_of_opensMenu hmenu) (by rw [hlinks, hoptions])

/-! ## What playing a scaffold keeps -/

theorem takes (scaffold : Scaffold graph script) (hvalid : graph.Valid)
    (h : session.Guided graph script) {rounds : Nat} {outcome : Outcome}
    (htakes : Stage.Takes ⟨graph, script, level⟩ rounds session outcome) :
    outcome.session.Guided graph script := by
  induction htakes with
  | stop round =>
    have hwalks := h.walks scaffold hvalid level
    rw [round] at hwalks
    cases hwalks with
    | tells => exact ⟨h.known, h.ahead, h.at_end⟩
    | ends _ at_end => exact ⟨h.known, h.ahead, fun _ => at_end⟩
    | asks => exact ⟨h.known, h.ahead, nofun⟩
  | more round _ ih =>
    have hwalks := h.walks scaffold hvalid level
    rw [round] at hwalks
    cases hwalks with
    | jumps only => exact ih (guided_enter scaffold _ (hvalid.target_known (leads_of_only only)))

theorem step (scaffold : Scaffold graph script) (hvalid : graph.Valid)
    (h : session.Guided graph script) (hsound : session.Sound graph script) (level : LevelLookup) :
    (Stage.step ⟨graph, script, level⟩ session).session.Guided graph script := by
  by_cases hready : session.Ready
  · obtain ⟨state, hok⟩ := hsound.step_eq_ok (scaffold.clean hvalid) level
    obtain ⟨rounds, htakes⟩ := Stage.takes_of_step_eq_ok hready h.known hok
    exact h.takes scaffold hvalid htakes
  · rw [Stage.step_of_unready _ hready]
    exact h

/-- A line that waits is a text of the narrator: the navigation is still ahead behind it. -/
theorem ahead_of_waiting (scaffold : Scaffold graph script) (h : session.Guided graph script)
    (hconsistent : session.Consistent graph script) (hwaiting : session.awaitingAdvance = true) :
    session.position + 1 + (navigation graph session.node).length ≤
      (script.listOf session.node).length := by
  obtain ⟨list, hlist⟩ := scaffold.scripted h.known
  have hahead := h.ahead
  obtain ⟨-, instruction, speaker, text, hline, hspoken, -⟩ := hconsistent.line_shown hwaiting
  rw [Script.listOf_of_get? hlist] at hahead hline ⊢
  rcases scaffold.front hlist hahead with ⟨_, _, _, hfurther⟩ | hfront
  · exact hfurther
  · rw [← List.head?_drop, hfront] at hline
    rcases mem_navigationOf (List.mem_of_head? hline) with rfl | ⟨link, -, htarget⟩
    · cases hspoken
    · cases instruction with
      | narration | dialogue => cases htarget
      | _ => cases hspoken

/-- Every option leads on to a child. -/
theorem option_ne_none (scaffold : Scaffold graph script)
    (hconsistent : session.Consistent graph script) {menu : Menu} {option : MenuOption} {index : Nat}
    (hmenu : session.menu = some menu) (hoption : menu.options[index]? = some option) :
    option.target ≠ none := by
  intro hnone
  obtain ⟨number, hoffer⟩ := hconsistent.option_offered hmenu hoption
  obtain ⟨list, hlist, hmem⟩ := Script.get?_of_mem_listOf hoffer
  obtain ⟨lead, rfl, hlead⟩ := scaffold.leads_on hlist
  rcases List.mem_append.1 hmem with hmem | hmem
  · obtain ⟨text, htext⟩ := hlead _ hmem
    cases htext
  · rcases mem_navigationOf hmem with hopen | ⟨link, -, htarget⟩
    · cases hopen
    · cases hnone.symm.trans htarget

theorem begins (scaffold : Scaffold graph script) (h : session.Guided graph script)
    (hconsistent : session.Consistent graph script) {call : Call} {start : Session}
    (hbegins : Stage.Begins ⟨graph, script, level⟩ session call start) :
    start.Guided graph script := by
  cases hbegins with
  | step => exact h
  | advance state waiting =>
    have hahead := h.ahead_of_waiting scaffold hconsistent waiting
    have hposition : Stage.positionAfter session.position (script.listOf session.node).length =
        session.position + 1 := if_pos (by omega)
    refine ⟨h.known, ?_, ?_⟩
    · rw [hposition]
      exact hahead
    · intro hfinished
      cases hfinished.symm.trans state
  | enter _ _ _ _ known => exact guided_enter scaffold _ known
  | resume _ shown picked stays => exact absurd stays (option_ne_none scaffold hconsistent shown picked)

end Guided

end Session

end Storyline
