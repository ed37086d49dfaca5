-- SUMMARY: A composed document is read as the bodies of its nodes and the navigation of the graph.
import Storyline.Proofs.Graph.Order
import Storyline.Proofs.Script.Footer
import Storyline.Proofs.Script.Reading

/-!
# Composed documents

A composed document has a section for each node, and in the section the body and the lines of the footer. A
body is read as it is alone, and the footer behind it as the navigation of the node, because the conditions of
the body are closed at its end. In a skeleton the bodies are lines of the narrator.
-/

namespace Storyline

open Text

namespace Script

variable {config : ScriptConfig} {graph : Graph} {id : NodeId} {body : String}

/-! ## Sections of composed documents -/

/-- Can the section of a node be read back? The body must not open a section itself nor reach with its
conditions behind its end. -/
structure Readable (config : ScriptConfig) (graph : Graph) (id : NodeId) (body : String) : Prop where
  heading : IsHeading id
  headerFree : HeaderFree body
  balanced : ∀ cause, .unbalanced id cause ∉ (parseBody config id body).2
  writable : ∀ link ∈ graph.children id, Writable link

theorem Readable.linkable (h : Readable config graph id body) :
    ∀ link ∈ graph.children id, Linkable link :=
  fun link hlink => (h.writable link hlink).linkable

/-- A body is written without the blanks at its end, and with no line at all if nothing is left. -/
theorem fullLines_writtenBody (body : String) (s : List Char) :
    fullLines ((if (String.ofList (trimRight body.toList)).isEmpty then ""
      else String.ofList (trimRight body.toList) ++ "\n").toList ++ s) =
        fullLines body.toList ++ fullLines s := by
  rw [← fullLines_trimRight body.toList]
  split
  · rename_i hempty
    have hnil : trimRight body.toList = [] := by simpa using hempty
    rw [hnil]
    rfl
  · rw [String.toList_append, String.toList_ofList, List.append_assoc]
    exact fullLines_append_feed _ _

theorem fullLines_nodeSection (hid : IsHeading id) (hlinks : ∀ link ∈ graph.children id, Linkable link)
    (body : String) (rest : List Char) :
    fullLines ((Compose.nodeSection graph id body).toList ++ rest) =
      (Compose.header id).toList ::
        (fullLines body.toList ++ footerTexts (graph.children id)) ++ fullLines rest := by
  have hend : "\n".toList = ['\n'] := rfl
  have hfeed : fullLines ('\n' :: rest) = fullLines rest := fullLines_append_feed [] rest
  simp only [Compose.nodeSection, String.toList_append, hend, List.append_assoc, List.cons_append,
    List.nil_append]
  rw [fullLines_append_feed, fullLines_line (isLine_header hid), fullLines_writtenBody, toList_footer,
    fullLines_unlines_append (isLine_footerTexts hlinks), hfeed]
  rfl

theorem filter_inBody_plain (texts : List (List Char)) :
    (plain texts).filter inBody = plain (texts.filter (lineKind · = .body)) := by
  rw [plain, List.filter_map]
  rfl

/-- The lines of one section stay together. -/
theorem sections_section (h : Readable config graph id body) :
    sections (plain ((Compose.header id).toList ::
        (fullLines body.toList ++ footerTexts (graph.children id)))) =
      ([], [⟨id, plain (bodyTexts body.toList ++ footerTexts (graph.children id))⟩]) := by
  have hfooter : (footerTexts (graph.children id)).filter (lineKind · = .body) =
      footerTexts (graph.children id) := by
    simpa using lineKind_footerTexts (graph.children id)
  have hnone : ∀ line ∈ plain (fullLines body.toList ++ footerTexts (graph.children id)),
      ∀ id, lineKind line.text ≠ .header id := by
    intro line hline other
    obtain ⟨text, htext, rfl⟩ := List.mem_map.1 hline
    rcases List.mem_append.1 htext with htext | htext
    · exact h.headerFree text htext other
    · rw [lineKind_footerTexts _ text htext]
      exact nofun
  rw [plain_cons, sections_header (lineKind_header h.heading), sections_of_no_header hnone,
    filter_inBody_plain, List.filter_append, hfooter]
  rfl

theorem sections_document {nodes : List (NodeId × String)}
    (h : ∀ entry ∈ nodes, Readable config graph entry.1 entry.2) :
    sections (plain (fullLines (Compose.document graph nodes).toList)) =
      ([], nodes.map fun entry =>
        ⟨entry.1, plain (bodyTexts entry.2.toList ++ footerTexts (graph.children entry.1))⟩) := by
  induction nodes with
  | nil => rfl
  | cons entry rest ih =>
    obtain ⟨hentry, hrest⟩ := List.forall_mem_cons.1 h
    have hdocument : (Compose.document graph (entry :: rest)).toList =
        (Compose.nodeSection graph entry.1 entry.2).toList ++ (Compose.document graph rest).toList := by
      rw [Compose.document, Compose.document, String.toList_join, String.toList_join]
      rfl
    have hlater : (sections (plain (fullLines (Compose.document graph rest).toList))).1 = [] := by
      rw [ih hrest]
    rw [hdocument, fullLines_nodeSection hentry.heading hentry.linkable, plain_append,
      sections_append hlater, sections_section hentry, ih hrest]
    rfl

theorem readable_of_lines (hid : IsHeading id)
    (hlines : ∀ line ∈ fullLines body.toList, lineKind line = .body)
    (hfaults : (parseBody config id body).2 = []) (hlinks : ∀ link ∈ graph.children id, Writable link) :
    Readable config graph id body := by
  refine ⟨hid, ?_, by simp [hfaults], hlinks⟩
  intro line hline id
  rw [hlines line hline]
  exact nofun

/-- A body without headers is mended where its lines are. -/
theorem unbalanced_iff (h : HeaderFree body) :
    (∃ cause, .unbalanced id cause ∈ (parseBody config id body).2) ↔
      (balance (readLines config 0 false (plain (bodyTexts body.toList))).1).2 ≠ [] := by
  rw [bodyTexts_eq, readLines_plain, parseBody_eq h]
  constructor
  · rintro ⟨cause, hcause⟩
    rcases List.mem_append.1 hcause with hlost | hfault
    · obtain ⟨line, -, hline⟩ := List.mem_map.1 hlost
      cases hline
    · obtain ⟨fault, hmem, -⟩ := List.mem_map.1 hfault
      exact List.ne_nil_of_mem hmem
  · intro hne
    obtain ⟨fault, hfault⟩ := List.exists_mem_of_ne_nil _ hne
    exact ⟨fault, List.mem_append_right _ (List.mem_map_of_mem hfault)⟩

/-- A section is read as its body and the navigation of its node. -/
theorem listOfLines_section (h : Readable config graph id body)
    (hfits : graph.edges.length < wordCount) :
    listOfLines config (bodyTexts body.toList ++ footerTexts (graph.children id)) =
      (parseBody config id body).1 ++ navigation graph id := by
  have hlength := Nat.lt_of_le_of_lt (graph.length_children_le id) hfits
  have hlines := readFrom_append config .start (plain (bodyTexts body.toList))
    (plain (footerTexts (graph.children id)))
  simp only [readFrom, Cursor.start, readLines_footerTexts _ _ hlength h.linkable] at hlines
  have hbalanced : (balance (readLines config 0 false (plain (bodyTexts body.toList))).1).2 = [] :=
    by_contra fun hfaults => not_exists.2 h.balanced ((unbalanced_iff h.headerFree).2 hfaults)
  have hread : footerRead (graph.children id) = navigation graph id :=
    footerRead_writable fun _ => h.writable
  rw [parseBody_fst h.headerFree, listOfLines, listOfLines, plain_append, hlines, ← hread]
  exact balanceFrom_append [] hbalanced (isMarker_footerRead _)

/-! ## Scripts of composed documents -/

variable {nodes : List (NodeId × String)}

theorem parse_document (h : ∀ entry ∈ nodes, Readable config graph entry.1 entry.2)
    (hfits : graph.edges.length < wordCount) :
    (parse config (Compose.document graph nodes)).1 =
      .ofList (nodes.map fun entry =>
        (entry.1, (parseBody config entry.1 entry.2).1 ++ navigation graph entry.1)) := by
  rw [parse, ofDocument_eq, sections_document h, List.map_map]
  refine congrArg _ (List.map_congr_left fun entry hentry => ?_)
  rw [← listOfLines_section (h entry hentry) hfits]
  simp only [Function.comp_apply, map_text_plain]

theorem contains_parse_document (h : ∀ entry ∈ nodes, Readable config graph entry.1 entry.2)
    (hfits : graph.edges.length < wordCount) (id : NodeId) :
    (parse config (Compose.document graph nodes)).1.contains id = true ↔ id ∈ nodes.map (·.1) := by
  rw [parse_document h hfits, SortedMap.contains, SortedMap.get?_ofList, List.lookup_isSome_iff]
  simp

/-- Of several sections of a node the last one counts. -/
theorem get?_parse_document {front behind : List (NodeId × String)}
    (h : ∀ entry ∈ front ++ (id, body) :: behind, Readable config graph entry.1 entry.2)
    (hfits : graph.edges.length < wordCount) (hlast : id ∉ behind.map (·.1)) :
    (parse config (Compose.document graph (front ++ (id, body) :: behind))).1.get? id =
      some ((parseBody config id body).1 ++ navigation graph id) := by
  have hlater : id ∉ (behind.map fun entry =>
      (entry.1, (parseBody config entry.1 entry.2).1 ++ navigation graph entry.1)).map (·.1) := by
    simpa using hlast
  rw [parse_document h hfits, List.map_append, List.map_cons, SortedMap.get?_ofList_append hlater]

/-! ## Skeletons -/

/-- Does a text name the narrator, and can it be written into a tag? -/
structure NamesNarrator (config : ScriptConfig) (narrator : String) : Prop where
  label : IsLabel narrator.toList
  noQuote : '"' ∉ narrator.toList
  known : config.isNarrator (trimString narrator) = true

instance (config : ScriptConfig) (narrator : String) : Decidable (NamesNarrator config narrator) :=
  decidable_of_iff (IsLabel narrator.toList ∧ '"' ∉ narrator.toList ∧
      config.isNarrator (trimString narrator) = true)
    ⟨fun ⟨hlabel, hquote, hknown⟩ => ⟨hlabel, hquote, hknown⟩, fun h => ⟨h.label, h.noQuote, h.known⟩⟩

/-- The list that tells a summary. -/
def narrationOf (summary : String) : List Instruction :=
  if summary.isEmpty then [] else [.narration (trimString summary)]

/-- Can a node of a graph be told in a skeleton? -/
structure Tellable (graph : Graph) (node : Node) : Prop where
  heading : IsHeading node.id
  summary : node.summary ≠ "" → IsLabel node.summary.toList
  writable : ∀ link ∈ graph.children node.id, Writable link

instance (graph : Graph) (node : Node) : Decidable (Tellable graph node) :=
  decidable_of_iff (IsHeading node.id ∧ (node.summary ≠ "" → IsLabel node.summary.toList) ∧
      ∀ link ∈ graph.children node.id, Writable link)
    ⟨fun ⟨hid, hsummary, hlinks⟩ => ⟨hid, hsummary, hlinks⟩, fun h => ⟨h.heading, h.summary, h.writable⟩⟩

theorem toList_narratedBody {narrator summary : String} (h : summary ≠ "") :
    (Compose.narratedBody narrator summary).toList =
      narratedText narrator.toList summary.toList := by
  have hempty : summary.isEmpty = false := by simpa using h
  have hquote : "\">".toList = ['"', '>'] := rfl
  unfold narratedText
  simp only [Compose.narratedBody, hempty, Bool.false_eq_true, if_false, String.toList_append, hquote,
    List.append_assoc, List.cons_append, List.nil_append]

theorem isLine_narratedText {narrator text : List Char} (hnarrator : '\n' ∉ narrator)
    (htext : '\n' ∉ text) : IsLine (narratedText narrator text) := by
  have hclose : '\n' ∉ "</content>".toList := by decide
  have hlast : ("</content>".toList).getLast? = some '>' := rfl
  have hbehind : '\n' ∉ narrator ++ '"' :: '>' :: (text ++ "</content>".toList) := by
    simp only [List.mem_append, List.mem_cons, hnarrator, htext, hclose, or_false, false_or]
    decide
  refine isLine_append ⟨'<', rfl, rfl⟩ ⟨'>', ?_, rfl⟩ (by decide) hbehind
  have hassoc : narrator ++ '"' :: '>' :: (text ++ "</content>".toList) =
      (narrator ++ '"' :: '>' :: text) ++ "</content>".toList := by simp
  rw [hassoc, List.getLast?_append, hlast, Option.some_or]

theorem fullLines_narratedBody {narrator summary : String} (hnarrator : '\n' ∉ narrator.toList)
    (hsummary : summary ≠ "" → IsLabel summary.toList) :
    fullLines (Compose.narratedBody narrator summary).toList =
      if summary = "" then [] else [narratedText narrator.toList summary.toList] := by
  split
  · rename_i hempty
    subst hempty
    rfl
  · rename_i hne
    rw [toList_narratedBody hne]
    exact fullLines_line (isLine_narratedText hnarrator (hsummary hne).oneLine)

theorem lineKind_narratedText (narrator text : List Char) :
    lineKind (narratedText narrator text) = .body := rfl

theorem headerFree_narratedBody {narrator summary : String} (hnarrator : '\n' ∉ narrator.toList)
    (hsummary : summary ≠ "" → IsLabel summary.toList) :
    HeaderFree (Compose.narratedBody narrator summary) := by
  intro line hline id
  rw [fullLines_narratedBody hnarrator hsummary] at hline
  split at hline
  · cases hline
  · rw [List.mem_singleton.1 hline, lineKind_narratedText]
    exact nofun

theorem readLines_narratedBody {narrator summary : String} (hnarrator : NamesNarrator config narrator)
    (hsummary : summary ≠ "" → IsLabel summary.toList) :
    (readLines config 0 false (plain (bodyTexts (Compose.narratedBody narrator summary).toList))).1 =
      narrationOf summary := by
  rw [bodyTexts, fullLines_narratedBody hnarrator.label.oneLine hsummary, narrationOf]
  split
  · rename_i hempty
    subst hempty
    rfl
  · rename_i hne
    have hread := readLine?_narratedText 1 hnarrator.label hnarrator.noQuote
      hnarrator.known (hsummary hne)
    have hempty : summary.isEmpty = false := by simpa using hne
    rw [List.filter_cons_of_pos (by rw [lineKind_narratedText]; rfl), List.filter_nil, hempty]
    generalize narratedText narrator.toList summary.toList = line at hread
    simp only [plain, List.map_cons, List.map_nil, readLines, Bool.false_eq_true, if_false, hread]
    rfl

theorem isMarker_narrationOf (summary : String) :
    ∀ instruction ∈ narrationOf summary, instruction.isMarker = false := by
  unfold narrationOf
  split
  · nofun
  · exact List.forall_mem_singleton.2 rfl

theorem parseBody_narratedBody {narrator summary : String} (hnarrator : NamesNarrator config narrator)
    (hsummary : summary ≠ "" → IsLabel summary.toList) (id : NodeId) :
    (parseBody config id (Compose.narratedBody narrator summary)).1 = narrationOf summary := by
  rw [parseBody_fst (headerFree_narratedBody hnarrator.label.oneLine hsummary), listOfLines,
    readLines_narratedBody hnarrator hsummary, balance, balanceFrom_of_no_marker (isMarker_narrationOf _)]

theorem Tellable.readable {node : Node} {narrator : String} (h : Tellable graph node)
    (hnarrator : NamesNarrator config narrator) :
    Readable config graph node.id (Compose.narratedBody narrator node.summary) where
  heading := h.heading
  headerFree := headerFree_narratedBody hnarrator.label.oneLine h.summary
  balanced := by
    rw [← not_exists, unbalanced_iff (headerFree_narratedBody hnarrator.label.oneLine h.summary),
      readLines_narratedBody hnarrator h.summary, balance,
      balanceFrom_of_no_marker (isMarker_narrationOf _), not_not]
  writable := h.writable

theorem perm_skeletonOrder (graph : Graph) : (Compose.skeletonOrder graph).Perm graph.ids := by
  unfold Compose.skeletonOrder
  split
  · rename_i order horder
    exact Graph.perm_of_topologicalOrder horder
  · exact List.Perm.refl _

/-- The nodes of a skeleton with their bodies. -/
def skeletonNodes (graph : Graph) (narrator : String) : List (NodeId × String) :=
  (Compose.skeletonOrder graph).map fun id =>
    (id, Compose.narratedBody narrator (((graph.node? id).map (·.summary)).getD ""))

theorem map_fst_skeletonNodes (graph : Graph) (narrator : String) :
    (skeletonNodes graph narrator).map (·.1) = Compose.skeletonOrder graph := by
  simp [skeletonNodes, Function.comp_def]

theorem readable_skeletonNodes {narrator : String} (hnarrator : NamesNarrator config narrator)
    (h : ∀ node ∈ graph.nodes, Tellable graph node) :
    ∀ entry ∈ skeletonNodes graph narrator, Readable config graph entry.1 entry.2 := by
  intro entry hentry
  obtain ⟨id, hid, rfl⟩ := List.mem_map.1 hentry
  obtain ⟨node, hnode, rfl⟩ := List.mem_map.1 ((perm_skeletonOrder graph).mem_iff.1 hid)
  rw [Graph.node?_of_mem hnode]
  exact (h node hnode).readable hnarrator

theorem contains_parse_skeleton {narrator : String} (hnarrator : NamesNarrator config narrator)
    (h : ∀ node ∈ graph.nodes, Tellable graph node) (hfits : graph.edges.length < wordCount)
    (id : NodeId) :
    (parse config (Compose.skeleton graph narrator)).1.contains id = graph.contains id := by
  have hcontains := contains_parse_document (readable_skeletonNodes hnarrator h) hfits id
  rw [map_fst_skeletonNodes, (perm_skeletonOrder graph).mem_iff, Graph.mem_ids] at hcontains
  exact Bool.eq_iff_iff.2 hcontains

theorem get?_parse_skeleton {narrator : String} (hnarrator : NamesNarrator config narrator)
    (h : ∀ node ∈ graph.nodes, Tellable graph node) (hfits : graph.edges.length < wordCount)
    {node : Node} (hnode : node ∈ graph.nodes) :
    (parse config (Compose.skeleton graph narrator)).1.get? node.id =
      some (narrationOf node.summary ++ navigation graph node.id) := by
  have hid : node.id ∈ Compose.skeletonOrder graph :=
    (perm_skeletonOrder graph).mem_iff.2 (List.mem_map_of_mem hnode)
  have hnodup := (perm_skeletonOrder graph).nodup_iff.2 graph.ids_nodup
  obtain ⟨front, behind, hsplit⟩ := List.append_of_mem hid
  rw [hsplit] at hnodup
  have hlast : node.id ∉ behind := (List.nodup_cons.1 hnodup.of_append_right).1
  have hnodes := readable_skeletonNodes hnarrator h
  have hskeleton : Compose.skeleton graph narrator =
      Compose.document graph (skeletonNodes graph narrator) := rfl
  rw [hskeleton]
  rw [skeletonNodes, hsplit, List.map_append, List.map_cons, Graph.node?_of_mem hnode] at hnodes ⊢
  rw [get?_parse_document hnodes hfits (by simpa using hlast)]
  rw [Option.map_some, Option.getD_some, parseBody_narratedBody hnarrator (h node hnode).summary]

/-- A composed document is read as what it was composed of: the nodes are those with a section, and each
has the list of its last body and behind it the instructions that lead to its children. A skeleton has the
nodes of its graph, each with its summary told by the narrator. The bound says that offers have numbers that
fit into a machine word, as the numbers of edges in memory do. -/
theorem parse_composed (config : ScriptConfig) (graph : Graph) (hfits : graph.edges.length < wordCount) :
    (∀ nodes : List (NodeId × String),
      (∀ entry ∈ nodes, Readable config graph entry.1 entry.2) →
      (∀ id, (parse config (Compose.document graph nodes)).1.contains id = true ↔
        id ∈ nodes.map (·.1)) ∧
      ∀ front id body behind, nodes = front ++ (id, body) :: behind → id ∉ behind.map (·.1) →
        (parse config (Compose.document graph nodes)).1.get? id =
          some ((parseBody config id body).1 ++ navigation graph id)) ∧
    ∀ narrator, NamesNarrator config narrator → (∀ node ∈ graph.nodes, Tellable graph node) →
      (∀ id, (parse config (Compose.skeleton graph narrator)).1.contains id = graph.contains id) ∧
      ∀ node ∈ graph.nodes, (parse config (Compose.skeleton graph narrator)).1.get? node.id =
        some (narrationOf node.summary ++ navigation graph node.id) := by
  constructor
  · intro nodes hnodes
    refine ⟨contains_parse_document hnodes hfits, ?_⟩
    rintro front id body behind rfl hlast
    exact get?_parse_document hnodes hfits hlast
  · intro narrator hnarrator hnodes
    refine ⟨contains_parse_skeleton hnarrator hnodes hfits, ?_⟩
    intro node hnode
    exact get?_parse_skeleton hnarrator hnodes hfits hnode

/-- A fork in the road. The text of one way looks like an offer itself. -/
def forkGraph : Graph where
  nodes := [⟨"root", "Two roads.", .normal⟩, ⟨"left", "", .normal⟩, ⟨"right", "The sea.", .normal⟩]
  edges := [⟨"root", "left", some " 2. [go] -> home at last "⟩, ⟨"root", "right", none⟩,
    ⟨"left", "right", none⟩]
  ids_nodup := by decide

/-- The section of the root is written twice, the second time with a menu that is still open at its end. -/
theorem parse_composed_of_fork :
    let nodes := [("root", ""), ("left", "Mio: On."), ("root", "Mio: Where to?\n[CHOICE]\n1. Stay")]
    (parse {} (Compose.document forkGraph nodes)).1.get? "root" =
        some [.dialogue "Mio" "Where to?", .openMenu, .offer 1 "Stay" none, .openMenu,
          .offer 1 "2. [go] -> home at last" (some "left"), .offer 2 "right" (some "right")] ∧
      (parse {} (Compose.document forkGraph nodes)).1.contains "right" = false ∧
      (parse {} (Compose.skeleton forkGraph " Narrator")).1.get? "left" = some [.jump "right"] := by
  have hfits : forkGraph.edges.length < wordCount := by decide
  intro nodes
  have hnodes : ∀ entry ∈ nodes, Readable {} forkGraph entry.1 entry.2 := by
    refine List.forall_mem_cons.2 ⟨?_, List.forall_mem_cons.2 ⟨?_, List.forall_mem_singleton.2 ?_⟩⟩
    all_goals apply readable_of_lines
    all_goals decide +kernel
  obtain ⟨hdocument, hskeleton⟩ := parse_composed {} forkGraph hfits
  obtain ⟨hcontains, hlist⟩ := hdocument nodes hnodes
  obtain ⟨-, hlists⟩ := hskeleton " Narrator" (by decide +kernel) (by decide +kernel)
  refine ⟨?_, ?_, ?_⟩
  · rw [hlist [("root", ""), ("left", "Mio: On.")] "root" _ [] rfl (by simp)]
    decide +kernel
  · rw [Bool.eq_false_iff, Ne, hcontains]
    decide
  · rw [hlists ⟨"left", "", .normal⟩ (by decide)]
    decide +kernel

end Script

end Storyline
