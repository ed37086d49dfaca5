-- SUMMARY: The navigation of a node, written as a footer and read again.
import Storyline.Proofs.Script.Document
import Storyline.Proofs.Script.Written

/-!
# Footers

A footer has a line for each instruction by which a node leads to its children, and wherever it stands each of
these lines is read by itself: a jump and the marker of a menu cannot be taken for an offer of the body in front
of them, and the offers behind the marker are read with their numbers. If the children are named by one word,
each line is read as the instruction that it was written for.
-/

namespace Storyline

open Text

namespace Script

variable {config : ScriptConfig} {graph : Graph} {id : NodeId}

/-! ## Navigation -/

/-- The offers of links, numbered from `number` on. An offer has the text of its link or is named after the
child. -/
def offersFrom (number : Nat) : List Link → List Instruction
  | [] => []
  | link :: rest =>
    .offer number ((link.choice.map trimString).getD link.child) (some link.child) ::
      offersFrom (number + 1) rest

/-- The instructions by which links are taken. -/
def navigationOf : List Link → List Instruction
  | [] => []
  | [⟨child, none⟩] => [.jump child]
  | links => .openMenu :: offersFrom 1 links

/-- The instructions by which a node leads to its children. -/
def navigation (graph : Graph) (id : NodeId) : List Instruction :=
  navigationOf (graph.children id)

/-- Do the links ask the player for a choice? -/
def opensMenu : List Link → Bool
  | [] => false
  | [⟨_, none⟩] => false
  | _ => true

/-- A node is an ending, or leads on by itself, or has a menu. -/
@[elab_as_elim]
theorem linksCases {motive : List Link → Prop} (ending : motive [])
    (jump : ∀ child, motive [⟨child, none⟩]) (menu : ∀ links, opensMenu links = true → motive links)
    (links : List Link) : motive links := by
  match links with
  | [] => exact ending
  | [⟨child, none⟩] => exact jump child
  | ⟨_, none⟩ :: _ :: _ => exact menu _ rfl
  | ⟨_, some _⟩ :: _ => exact menu _ rfl

theorem navigationOf_menu {links : List Link} (h : opensMenu links = true) :
    navigationOf links = .openMenu :: offersFrom 1 links := by
  match links with
  | [] => cases h
  | [⟨_, none⟩] => cases h
  | ⟨_, none⟩ :: _ :: _ => rfl
  | ⟨_, some _⟩ :: _ => rfl

theorem navigationOf_eq_nil {links : List Link} : navigationOf links = [] ↔ links = [] := by
  cases links using linksCases with
  | ending => exact iff_of_true rfl rfl
  | jump child => exact iff_of_false nofun nofun
  | menu links h =>
    rw [navigationOf_menu h]
    refine iff_of_false nofun ?_
    rintro rfl
    cases h

theorem mem_offersFrom {number : Nat} {links : List Link} {instruction : Instruction}
    (h : instruction ∈ offersFrom number links) :
    ∃ link ∈ links, instruction.navigationTarget = some link.child := by
  induction links generalizing number with
  | nil => cases h
  | cons link rest ih =>
    rcases List.mem_cons.1 h with rfl | h
    · exact ⟨link, List.mem_cons_self, rfl⟩
    · obtain ⟨other, hother, htarget⟩ := ih h
      exact ⟨other, List.mem_cons_of_mem _ hother, htarget⟩

/-- All that navigation does is to open a menu and to lead to children. -/
theorem mem_navigationOf {links : List Link} {instruction : Instruction}
    (h : instruction ∈ navigationOf links) :
    instruction = .openMenu ∨ ∃ link ∈ links, instruction.navigationTarget = some link.child := by
  cases links using linksCases with
  | ending => cases h
  | jump child =>
    obtain rfl := List.mem_singleton.1 h
    exact .inr ⟨_, List.mem_cons_self, rfl⟩
  | menu links hmenu =>
    rw [navigationOf_menu hmenu] at h
    rcases List.mem_cons.1 h with rfl | h
    · exact .inl rfl
    · exact .inr (mem_offersFrom h)

/-! ## Footers -/

/-- Can a link be written in one line? -/
structure Linkable (link : Link) : Prop where
  child : IsLine link.child.toList
  choice : ∀ text, link.choice = some text → IsLabel text.toList

instance (link : Link) : Decidable (Linkable link) :=
  decidable_of_iff (IsLine link.child.toList ∧ ∀ text ∈ link.choice, IsLabel text.toList)
    ⟨fun ⟨hchild, hchoice⟩ => ⟨hchild, hchoice⟩, fun h => ⟨h.child, h.choice⟩⟩

/-- Can a link be written in one line and read back, also as an offer? -/
structure Writable (link : Link) : Prop where
  child : IsWord link.child.toList
  choice : ∀ text, link.choice = some text → IsLabel text.toList

instance (link : Link) : Decidable (Writable link) :=
  decidable_of_iff (IsWord link.child.toList ∧ ∀ text ∈ link.choice, IsLabel text.toList)
    ⟨fun ⟨hchild, hchoice⟩ => ⟨hchild, hchoice⟩, fun h => ⟨h.child, h.choice⟩⟩

theorem Writable.linkable {link : Link} (h : Writable link) : Linkable link :=
  ⟨h.child.isLine, h.choice⟩

/-- What an offer is written with. -/
def labelOf (link : Link) : List Char :=
  (link.choice.getD link.child).toList

theorem Linkable.label {link : Link} (h : Linkable link) : IsLabel (labelOf link) := by
  unfold labelOf
  cases hchoice : link.choice with
  | none => exact .of_isLine h.child
  | some text => exact h.choice text hchoice

theorem Linkable.trim_label {link : Link} (h : Linkable link) :
    String.ofList (trim (labelOf link)) = (link.choice.map trimString).getD link.child := by
  unfold labelOf
  cases hchoice : link.choice with
  | none =>
    rw [Option.getD_none, trim_of_trimmed h.child.trimmed]
    exact String.ofList_toList
  | some text => rfl

/-- The lines of offers, numbered from `number` on. -/
def offerTexts (number : Nat) : List Link → List (List Char)
  | [] => []
  | link :: rest => offerText number (labelOf link) link.child.toList :: offerTexts (number + 1) rest

/-- The lines of a footer for links. -/
def footerTexts : List Link → List (List Char)
  | [] => []
  | [⟨child, none⟩] => [jumpText child.toList]
  | links => "[CHOICE]".toList :: offerTexts 1 links

theorem footerTexts_menu {links : List Link} (h : opensMenu links = true) :
    footerTexts links = "[CHOICE]".toList :: offerTexts 1 links := by
  match links with
  | [] => cases h
  | [⟨_, none⟩] => cases h
  | ⟨_, none⟩ :: _ :: _ => rfl
  | ⟨_, some _⟩ :: _ => rfl

theorem footer_menu (h : opensMenu (graph.children id) = true) :
    Compose.footer graph id = "[CHOICE]\n" ++ Compose.offerLines 1 (graph.children id) := by
  unfold Compose.footer
  split
  · rename_i hchildren
    rw [hchildren] at h
    cases h
  · rename_i hchildren
    rw [hchildren] at h
    cases h
  · rfl

theorem toList_offerLine (number : Nat) (link : Link) :
    (Compose.offerLine number link).toList =
      offerText number (labelOf link) link.child.toList ++ ['\n'] := by
  have hnumber : (toString number).toList = Nat.toDigits 10 number := Nat.toList_repr
  have hpoint : ". ".toList = ['.', ' '] := rfl
  have harrow : " -> ".toList = [' ', '-', '>', ' '] := rfl
  have hend : "\n".toList = ['\n'] := rfl
  simp only [Compose.offerLine, String.toList_append, hnumber, hpoint, harrow, hend, offerText, arrowTo,
    labelOf, List.append_assoc, List.cons_append, List.nil_append]

theorem toList_offerLines (number : Nat) (links : List Link) :
    (Compose.offerLines number links).toList = unlines (offerTexts number links) := by
  induction links generalizing number with
  | nil => rfl
  | cons link rest ih =>
    rw [Compose.offerLines, String.toList_append, toList_offerLine, ih]
    rfl

theorem toList_footer (graph : Graph) (id : NodeId) :
    (Compose.footer graph id).toList = unlines (footerTexts (graph.children id)) := by
  cases hchildren : graph.children id using linksCases with
  | ending =>
    rw [Compose.footer, hchildren]
    rfl
  | jump child =>
    have hline : Compose.footer graph id = "[JUMP: " ++ child ++ "]\n" := by
      rw [Compose.footer, hchildren]
    have hend : "]\n".toList = [']', '\n'] := rfl
    have htext : unlines (footerTexts [⟨child, none⟩]) =
        "[JUMP: ".toList ++ (child.toList ++ [']', '\n']) := by
      have hline : unlines (footerTexts [⟨child, none⟩]) =
          ("[JUMP: ".toList ++ (child.toList ++ [']'])) ++ ['\n'] := List.append_nil _
      rw [hline, List.append_assoc, List.append_assoc]
      rfl
    rw [hline, htext, String.toList_append, String.toList_append, hend, List.append_assoc]
  | menu links h =>
    rw [footer_menu (hchildren ▸ h), hchildren, String.toList_append, toList_offerLines,
      footerTexts_menu h]
    rfl

theorem isLine_openMenu : IsLine "[CHOICE]".toList := by
  have hline : IsLine ("[CHOICE".toList ++ [']']) :=
    isLine_append ⟨'[', rfl, rfl⟩ ⟨']', rfl, rfl⟩ (by decide) (by decide)
  exact hline

theorem isLine_jumpText {target : List Char} (h : IsLine target) : IsLine (jumpText target) := by
  have hbehind : '\n' ∉ target ++ [']'] := by simp [h.oneLine]
  exact isLine_append ⟨'[', rfl, rfl⟩ ⟨']', List.getLast?_concat, rfl⟩ (by decide) hbehind

theorem isLine_offerText {number : Nat} {label target : List Char} (hlabel : IsLabel label)
    (htarget : IsLine target) : IsLine (offerText number label target) := by
  have hdigits : ∀ c ∈ Nat.toDigits 10 number, isBlank c = false := by
    intro c hc
    exact isBlank_of_isDigit (Nat.isDigit_of_mem_toDigits (by decide) (Nat.le_refl 10) hc)
  have hfirst : ∃ c, (Nat.toDigits 10 number).head? = some c ∧ isBlank c = false := by
    obtain ⟨c, rest, hcons⟩ :=
      List.exists_cons_of_ne_nil (Nat.toDigits_ne_nil (n := number) (b := 10))
    exact ⟨c, by rw [hcons, List.head?_cons], hdigits c (by simp [hcons])⟩
  have hlast : ∃ c, ('.' :: ' ' :: (label ++ arrowTo target)).getLast? = some c ∧
      isBlank c = false := by
    have hend := List.getLast?_eq_some_getLast htarget.nonempty
    have harrow : '.' :: ' ' :: (label ++ arrowTo target) =
        '.' :: ' ' :: (label ++ [' ', '-', '>', ' ']) ++ target := by simp [arrowTo]
    refine ⟨target.getLast htarget.nonempty, ?_, htarget.trimmed.2 _ hend⟩
    rw [harrow, List.getLast?_append, hend, Option.some_or]
  refine isLine_append hfirst hlast ?_ ?_
  · intro hmem
    cases hdigits _ hmem
  · simp [arrowTo, hlabel.oneLine, htarget.oneLine]

/-! ## Reading footers -/

theorem isLine_offerTexts {number : Nat} {links : List Link} (h : ∀ link ∈ links, Linkable link) :
    ∀ line ∈ offerTexts number links, IsLine line := by
  induction links generalizing number with
  | nil => nofun
  | cons link rest ih =>
    obtain ⟨hlink, hrest⟩ := List.forall_mem_cons.1 h
    exact List.forall_mem_cons.2 ⟨isLine_offerText hlink.label hlink.child, ih hrest⟩

theorem isLine_footerTexts {links : List Link} (h : ∀ link ∈ links, Linkable link) :
    ∀ line ∈ footerTexts links, IsLine line := by
  cases links using linksCases with
  | ending => nofun
  | jump child =>
    exact List.forall_mem_singleton.2 (isLine_jumpText (h _ List.mem_cons_self).child)
  | menu links hmenu =>
    rw [footerTexts_menu hmenu]
    exact List.forall_mem_cons.2 ⟨isLine_openMenu, isLine_offerTexts h⟩

theorem lineKind_offerTexts (number : Nat) (links : List Link) :
    ∀ line ∈ offerTexts number links, lineKind line = .body := by
  induction links generalizing number with
  | nil => nofun
  | cons link rest ih => exact List.forall_mem_cons.2 ⟨lineKind_offerText _ _ _, ih (number + 1)⟩

theorem lineKind_footerTexts (links : List Link) :
    ∀ line ∈ footerTexts links, lineKind line = .body := by
  cases links using linksCases with
  | ending => nofun
  | jump child => exact List.forall_mem_singleton.2 (lineKind_jumpText child.toList)
  | menu links hmenu =>
    rw [footerTexts_menu hmenu]
    exact List.forall_mem_cons.2 ⟨rfl, lineKind_offerTexts 1 links⟩

/-- What the lines of offers are read as. -/
def offersRead (number : Nat) : List Link → List Instruction
  | [] => []
  | link :: rest =>
    offerRead number (labelOf link) link.child.toList :: offersRead (number + 1) rest

/-- What the lines of a footer are read as. Only in a menu this may be something else than the navigation. -/
def footerRead (links : List Link) : List Instruction :=
  if opensMenu links then .openMenu :: offersRead 1 links else navigationOf links

theorem footerRead_menu {links : List Link} (h : opensMenu links = true) :
    footerRead links = .openMenu :: offersRead 1 links :=
  if_pos h

theorem isMarker_offersRead (number : Nat) (links : List Link) :
    ∀ instruction ∈ offersRead number links, instruction.isMarker = false := by
  induction links generalizing number with
  | nil => nofun
  | cons link rest ih => exact List.forall_mem_cons.2 ⟨rfl, ih (number + 1)⟩

theorem isMarker_footerRead (links : List Link) :
    ∀ instruction ∈ footerRead links, instruction.isMarker = false := by
  cases links using linksCases with
  | ending => nofun
  | jump child => exact List.forall_mem_cons.2 ⟨rfl, nofun⟩
  | menu links h =>
    rw [footerRead_menu h]
    exact List.forall_mem_cons.2 ⟨rfl, isMarker_offersRead 1 links⟩

theorem offersRead_writable (number : Nat) {links : List Link} (h : ∀ link ∈ links, Writable link) :
    offersRead number links = offersFrom number links := by
  induction links generalizing number with
  | nil => rfl
  | cons link rest ih =>
    obtain ⟨hlink, hrest⟩ := List.forall_mem_cons.1 h
    rw [offersRead, offersFrom, ih _ hrest, offerRead_word number hlink.linkable.label hlink.child,
      hlink.linkable.trim_label, String.ofList_toList]

/-- A footer is read as the navigation, unless there is a menu with a child that is named by several words. -/
theorem footerRead_writable {links : List Link}
    (h : opensMenu links = true → ∀ link ∈ links, Writable link) :
    footerRead links = navigationOf links := by
  cases links using linksCases with
  | ending => rfl
  | jump child => rfl
  | menu links hmenu =>
    rw [footerRead_menu hmenu, navigationOf_menu hmenu, offersRead_writable 1 (h hmenu)]

/-- In a menu the lines of offers are read as offers. -/
theorem readLines_offerTexts (config : ScriptConfig) (count number : Nat) {links : List Link}
    (hfits : number + links.length ≤ wordCount) (h : ∀ link ∈ links, Linkable link) :
    readLines config count true (plain (offerTexts number links)) = (offersRead number links, []) := by
  induction links generalizing count number with
  | nil => rfl
  | cons link rest ih =>
    obtain ⟨hlink, hrest⟩ := List.forall_mem_cons.1 h
    rw [List.length_cons] at hfits
    have hnumber : fitsWord number = true := by
      rw [fitsWord, decide_eq_true_eq]
      omega
    have hoffer := numberedOffer?_offerText hnumber hlink.label link.child.toList
    have hlater := ih (count + 1) (number + 1) (by omega) hrest
    simp only [offerTexts, plain, List.map_cons, readLines, if_true, hoffer, Option.some_or,
      offersRead] at hlater ⊢
    rw [hlater]

/-- Wherever a footer stands, each of its lines is read by itself, and none is lost. -/
theorem readLines_footerTexts (count : Nat) (inMenu : Bool) {links : List Link}
    (hfits : links.length < wordCount) (h : ∀ link ∈ links, Linkable link) :
    readLines config count inMenu (plain (footerTexts links)) = (footerRead links, []) := by
  cases links using linksCases with
  | ending => rfl
  | jump child =>
    have hjump := readLine?_jumpText config (count + 1) (h _ List.mem_cons_self).child
    rw [String.ofList_toList] at hjump
    have hoffer : (if inMenu then (numberedOffer? (jumpText child.toList)).or
        (taggedOffer? (count + 1) (jumpText child.toList)) else none) = none := by
      cases inMenu <;> rfl
    have hlines : plain (footerTexts [⟨child, none⟩]) = [⟨0, jumpText child.toList⟩] := rfl
    rw [hlines]
    simp only [readLines, hoffer, hjump]
    rfl
  | menu links hmenu =>
    have hopen := readLine?_openMenu config (count + 1)
    have hoffer : (if inMenu then (numberedOffer? "[CHOICE]".toList).or
        (taggedOffer? (count + 1) "[CHOICE]".toList) else none) = none := by
      cases inMenu <;> rfl
    have hoffers := readLines_offerTexts config 0 1 (by omega) h
    rw [footerTexts_menu hmenu, footerRead_menu hmenu]
    generalize "[CHOICE]".toList = line at hopen hoffer
    simp only [plain, List.map_cons, readLines, hoffer, hopen] at hoffers ⊢
    rw [hoffers]

end Script

end Storyline
