-- SUMMARY: Where a footer leads that is read as a body of its own.
import Storyline.Proofs.Graph.Order
import Storyline.Proofs.Script.Footer

/-!
# Destinations of footers

The footer of a node is read without a report, and each of its lines as a jump or as an offer. A jump leads to
the child that it was written for, whatever the child is named. An offer does so only if the name is one word.
Where the name has blanks in it, the arrow and the name are taken for a part of the text, or the offer leads to
the word at the end of the name.
-/

namespace Storyline

open Text

namespace Script

variable {config : ScriptConfig} {graph : Graph} {id : NodeId}

/-! ## Footers as bodies -/

theorem fullLines_footer (h : ∀ link ∈ graph.children id, Linkable link) :
    fullLines (Compose.footer graph id).toList = footerTexts (graph.children id) := by
  have hlines := fullLines_unlines_append (isLine_footerTexts h) []
  rw [List.append_nil, ← toList_footer] at hlines
  exact hlines.trans (List.append_nil _)

theorem headerFree_footer (h : ∀ link ∈ graph.children id, Linkable link) :
    HeaderFree (Compose.footer graph id) := by
  intro line hline other
  rw [fullLines_footer h] at hline
  rw [lineKind_footerTexts _ line hline]
  exact nofun

theorem bodyTexts_footer (h : ∀ link ∈ graph.children id, Linkable link) :
    bodyTexts (Compose.footer graph id).toList = footerTexts (graph.children id) := by
  rw [bodyTexts, fullLines_footer h]
  simpa using lineKind_footerTexts (graph.children id)

/-- A footer is read line by line, with nothing to report. -/
theorem parseBody_footer (config : ScriptConfig) (hfits : graph.edges.length < wordCount)
    (h : ∀ link ∈ graph.children id, Linkable link) :
    parseBody config id (Compose.footer graph id) = (footerRead (graph.children id), []) := by
  have hlength := Nat.lt_of_le_of_lt (graph.length_children_le id) hfits
  have hlines : readLines config 0 false (plain (footerTexts (graph.children id))) =
      (footerRead (graph.children id), []) := readLines_footerTexts 0 false hlength h
  rw [← bodyTexts_footer h, bodyTexts_eq, plain_map_text,
    readLines_map (f := fun line => ⟨0, line.text⟩) fun _ => rfl] at hlines
  obtain ⟨hread, hlost⟩ := Prod.mk.inj hlines
  rw [parseBody_eq (headerFree_footer h), readBody]
  simp only [hread, List.map_eq_nil_iff.1 hlost, balance,
    balanceFrom_of_no_marker (isMarker_footerRead _), List.map_nil, List.append_nil]

/-! ## Where they lead -/

/-- Where the jumps and the offers of a footer lead, in order. An offer may lead nowhere. -/
def destinations (list : List Instruction) : List (Option NodeId) :=
  (list.filter (· ≠ .openMenu)).map (·.navigationTarget)

/-- An offer leads to its child exactly if the child is named by one word. -/
theorem destinations_offersRead (number : Nat) {links : List Link} (h : ∀ link ∈ links, Linkable link) :
    List.Forall₂ (fun link target => target = some link.child ↔ IsWord link.child.toList) links
      (destinations (offersRead number links)) := by
  induction links generalizing number with
  | nil => exact .nil
  | cons link rest ih =>
    obtain ⟨hlink, hrest⟩ := List.forall_mem_cons.1 h
    have hleads := offerRead_leads_iff number hlink.label link.child.toList
    rw [String.ofList_toList] at hleads
    exact .cons hleads (ih (number + 1) hrest)

theorem destinations_footerRead {links : List Link} (h : ∀ link ∈ links, Linkable link) :
    List.Forall₂ (fun link target =>
        target = some link.child ↔ (opensMenu links = true → IsWord link.child.toList))
      links (destinations (footerRead links)) := by
  cases links using linksCases with
  | ending => exact .nil
  | jump child => exact .cons (iff_of_true rfl nofun) .nil
  | menu links hmenu =>
    have hmarker : destinations (footerRead links) = destinations (offersRead 1 links) := by
      rw [footerRead_menu hmenu, destinations, List.filter_cons_of_neg (by simp), destinations]
    rw [hmarker]
    refine (destinations_offersRead 1 h).imp ?_
    intro link target hleads
    rw [hleads]
    exact ⟨fun hword _ => hword, fun hword => hword hmenu⟩

/-- A footer that is parsed as a body has nothing to report. It leads to the children of its node, in order, but
for those offers whose child is not named by one word; and if there are none of these, it is the navigation of
the node. -/
theorem parseBody_footer_leads (config : ScriptConfig) (graph : Graph) (id : NodeId)
    (hfits : graph.edges.length < wordCount) (h : ∀ link ∈ graph.children id, Linkable link) :
    let links := graph.children id
    let list := (parseBody config id (Compose.footer graph id)).1
    (parseBody config id (Compose.footer graph id)).2 = [] ∧
    List.Forall₂ (fun link target =>
        target = some link.child ↔ (opensMenu links = true → IsWord link.child.toList))
      links (destinations list) ∧
    ((opensMenu links = true → ∀ link ∈ links, IsWord link.child.toList) →
      list = navigation graph id) := by
  intro links list
  have hparsed := parseBody_footer config hfits h
  have hlist : list = footerRead links := congrArg Prod.fst hparsed
  refine ⟨congrArg Prod.snd hparsed, ?_, ?_⟩
  · rw [hlist]
    exact destinations_footerRead h
  · intro hwords
    rw [hlist]
    exact footerRead_writable fun hmenu link hlink => ⟨hwords hmenu link hlink, (h link hlink).choice⟩

/-- An inn with ways to the market and to an old mill. -/
def crossing : Graph :=
  { root := "inn", edges := [⟨"inn", "market", none⟩, ⟨"inn", "old mill", some "Walk -> on"⟩] }

theorem parseBody_footer_leads_of_crossing :
    let links := crossing.children "inn"
    let list := (parseBody {} "inn" (Compose.footer crossing "inn")).1
    crossing.edges.length < wordCount ∧ (∀ link ∈ links, Linkable link) ∧
    (parseBody {} "inn" (Compose.footer crossing "inn")).2 = [] ∧
    List.Forall₂ (fun link target =>
        target = some link.child ↔ (opensMenu links = true → IsWord link.child.toList))
      links (destinations list) ∧
    ((opensMenu links = true → ∀ link ∈ links, IsWord link.child.toList) →
      list = navigation crossing "inn") := by
  intro links list
  have hfits : crossing.edges.length < wordCount := by decide
  have hlinks : ∀ link ∈ links, Linkable link := by decide +kernel
  exact ⟨hfits, hlinks, parseBody_footer_leads {} crossing "inn" hfits hlinks⟩

/-- The old mill cannot be chosen: the arrow to it is read as a part of the text. -/
theorem parseBody_footer_loses_old_mill :
    (∀ link ∈ crossing.children "inn", Linkable link) ∧
    parseBody {} "inn" (Compose.footer crossing "inn") =
      ([.openMenu, .offer 1 "market" (some "market"), .offer 2 "Walk -> on -> old mill" none], []) ∧
    ¬List.Forall₂ (fun link target => target = some link.child) (crossing.children "inn")
      (destinations (parseBody {} "inn" (Compose.footer crossing "inn")).1) := by
  have hread : parseBody {} "inn" (Compose.footer crossing "inn") =
      ([.openMenu, .offer 1 "market" (some "market"), .offer 2 "Walk -> on -> old mill" none], []) := by
    decide +kernel
  refine ⟨by decide +kernel, hread, ?_⟩
  rw [hread]
  decide +kernel

end Script

end Storyline
