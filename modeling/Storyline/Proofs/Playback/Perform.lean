-- SUMMARY: What single instructions do, where looking ahead leads, and what a menu shows.
import Storyline.Playback

/-!
# Single instructions

An instruction proceeds, stops or jumps. `Proceeds` says in one place what an instruction does that proceeds,
so that nothing else has to look into its definition; `perform_stop_cases` says what one does that stops.
-/

namespace Storyline

/-- The list that is played at a node; a node without a script has none. -/
def Script.listOf (script : Script) (node : NodeId) : List Instruction :=
  (script.get? node).getD []

theorem Script.listOf_of_get? {script : Script} {node : NodeId} {list : List Instruction}
    (h : script.get? node = some list) : script.listOf node = list := by
  simp [listOf, h]

theorem Script.get?_of_mem_listOf {script : Script} {node : NodeId} {instruction : Instruction}
    (h : instruction ∈ script.listOf node) :
    ∃ list, script.get? node = some list ∧ instruction ∈ list := by
  unfold listOf at h
  cases hlist : script.get? node with
  | none => simp [hlist] at h
  | some list => exact ⟨list, rfl, by simpa [hlist] using h⟩

/-- The speaker and the text of a line. -/
def Instruction.spoken? : Instruction → Option (Option String × String)
  | narration text => some (none, text)
  | dialogue speaker text => some (some speaker, text)
  | _ => none

/-- The entry that an offer makes in a menu. -/
def Instruction.entry? : Instruction → Option MenuOption
  | offer _ text target => some ⟨text, target⟩
  | _ => none

/-! ## Positions -/

section Fronts

variable {list rest : List Instruction} {instruction : Instruction} {position : Nat}

theorem getElem?_of_front (h : list.drop position = instruction :: rest) :
    list[position]? = some instruction := by
  rw [← List.head?_drop, h, List.head?_cons]

theorem front_of_getElem? (h : list[position]? = some instruction) :
    list.drop position = instruction :: list.drop (position + 1) := by
  obtain ⟨hlt, rfl⟩ := List.getElem?_eq_some_iff.1 h
  exact List.drop_eq_getElem_cons hlt

theorem behind_of_front (h : list.drop position = instruction :: rest) :
    list.drop (position + 1) = rest := by
  rw [← List.drop_drop, h, List.drop_one, List.tail_cons]

theorem length_of_front (h : list.drop position = instruction :: rest) :
    list.length = position + 1 + rest.length := by
  have hlength := congrArg List.length h
  rw [List.length_drop, List.length_cons] at hlength
  omega

theorem mem_of_front (h : list.drop position = instruction :: rest) : instruction ∈ list :=
  List.mem_of_getElem? (getElem?_of_front h)

end Fronts

namespace Playback

/-! ## Looking ahead -/

/-- How far behind the condition the landing is. -/
def Landing.distance : Landing → Nat
  | otherwise distance => distance
  | endIf distance => distance

@[simp] theorem Landing.distance_succ (landing : Landing) :
    landing.succ.distance = landing.distance + 1 := by
  cases landing <;> rfl

theorem landing?_distance_le {depth : Nat} {list : List Instruction} {landing : Landing}
    (h : landing? depth list = some landing) : landing.distance ≤ list.length := by
  fun_induction landing? depth list generalizing landing with
  | case1 => cases h
  | case2 _ _ _ _ ih | case5 _ _ ih | case6 _ _ _ _ _ _ _ ih =>
    obtain ⟨nearer, hnearer, rfl⟩ := Option.map_eq_some_iff.1 h
    simpa using ih hnearer
  | case3 | case4 =>
    cases h
    simp [Landing.distance]

theorem endIf?_le {depth : Nat} {list : List Instruction} {distance : Nat}
    (h : endIf? depth list = some distance) : distance ≤ list.length := by
  fun_induction endIf? depth list generalizing distance with
  | case1 => cases h
  | case2 _ _ _ _ ih | case4 _ _ ih | case5 _ _ _ _ _ _ ih =>
    obtain ⟨nearer, hnearer, rfl⟩ := Option.map_eq_some_iff.1 h
    simpa using ih hnearer
  | case3 =>
    cases h
    simp

/-- How many instructions a failed condition passes over. -/
def failedDistance (rest : List Instruction) : Nat :=
  ((landing? 0 rest).map Landing.distance).getD rest.length

/-- How many instructions are passed over at the end of a part that was played. -/
def playedDistance (rest : List Instruction) : Nat :=
  (endIf? 0 rest).getD rest.length

theorem playedDistance_le (rest : List Instruction) : playedDistance rest ≤ rest.length := by
  unfold playedDistance
  cases hend : endIf? 0 rest with
  | none => simp
  | some distance => simpa using endIf?_le hend

/-- The conditions that are open where a failed condition goes on. -/
def Landing.opened (condition : OpenCondition) (outer : List OpenCondition) :
    Landing → List OpenCondition
  | otherwise _ => { condition with branch := .elsePart } :: outer
  | endIf _ => outer

@[simp] theorem Landing.opened_succ (condition : OpenCondition) (outer : List OpenCondition)
    (landing : Landing) : landing.succ.opened condition outer = landing.opened condition outer := by
  cases landing <;> rfl

/-! ## Menus -/

/-- The menu at the front of what is left of a list at a position: the run of offers there, or behind the
marker that stands there. -/
def menuFrom (position : Nat) (list : List Instruction) : Menu :=
  let before := if list.head? = some .openMenu then 1 else 0
  let run := (list.drop before).takeWhile Instruction.isOffer
  ⟨run.filterMap Instruction.entry?, position + before + run.length⟩

theorem offers_eq_entries (list : List Instruction) :
    offers list = (list.takeWhile Instruction.isOffer).filterMap Instruction.entry? := by
  induction list with
  | nil => rfl
  | cons instruction rest ih =>
    cases instruction with
    | offer index text target =>
      simp [offers, List.takeWhile_cons, Instruction.isOffer, Instruction.entry?, ih]
    | _ => rfl

theorem length_offers (list : List Instruction) :
    (offers list).length = (list.takeWhile Instruction.isOffer).length := by
  induction list with
  | nil => rfl
  | cons instruction rest ih =>
    cases instruction with
    | offer index text target => simp [offers, List.takeWhile_cons, Instruction.isOffer, ih]
    | _ => rfl

theorem menuFrom_openMenu (position : Nat) (rest : List Instruction) :
    menuFrom position (.openMenu :: rest) =
      ⟨offers rest, position + 1 + (offers rest).length⟩ := by
  simp [menuFrom, offers_eq_entries, ← length_offers]

theorem menuFrom_offer (position index : Nat) (text : String) (target : Option NodeId)
    (rest : List Instruction) :
    let list := .offer index text target :: rest
    menuFrom position list = ⟨offers list, position + 0 + (offers list).length⟩ := by
  simp [menuFrom, offers_eq_entries, ← length_offers]

theorem menuFrom_resumeAt_le (position : Nat) (list : List Instruction) :
    (menuFrom position list).resumeAt ≤ position + list.length := by
  simp only [menuFrom]
  split
  · rename_i hhead
    obtain ⟨rest, rfl⟩ := List.head?_eq_some_iff.1 hhead
    have hrun := (List.takeWhile_prefix Instruction.isOffer (l := rest)).length_le
    simp only [List.drop_one, List.tail_cons, List.length_cons]
    omega
  · have hrun := (List.takeWhile_prefix Instruction.isOffer (l := list)).length_le
    simpa using hrun

theorem lt_menuFrom_resumeAt {position : Nat} {list : List Instruction}
    (h : (menuFrom position list).options ≠ []) :
    position < (menuFrom position list).resumeAt := by
  simp only [menuFrom] at h ⊢
  generalize (list.drop _).takeWhile Instruction.isOffer = run at h ⊢
  cases run with
  | nil => exact absurd rfl h
  | cons offer others =>
    rw [List.length_cons]
    omega

theorem offer_mem_of_menuFrom {position : Nat} {list : List Instruction} {option : MenuOption}
    (h : option ∈ (menuFrom position list).options) :
    ∃ index, .offer index option.text option.target ∈ list := by
  obtain ⟨instruction, hrun, hentry⟩ := List.mem_filterMap.1 h
  have hmem : instruction ∈ list :=
    List.mem_of_mem_drop ((List.takeWhile_prefix _).subset hrun)
  cases instruction with
  | offer index text target =>
    cases hentry
    exact ⟨index, hmem⟩
  | _ => cases hentry

theorem showMenu_eq_stop {session next : Session} {before : Nat} {list : List Instruction}
    {events : List Event} (h : showMenu session before list = .stop next events) :
    let menu : Menu := ⟨offers list, session.position + before + (offers list).length⟩
    menu.options ≠ [] ∧
      next = { session with menu := some menu, state := .awaitingChoice } ∧
      events = [.choices menu.texts] := by
  unfold showMenu at h
  split at h
  · cases h
  · rename_i hoffers
    cases h
    exact ⟨hoffers, rfl, rfl⟩

/-! ## Single instructions -/

variable {level : LevelLookup} {session next : Session} {rest : List Instruction}
  {instruction : Instruction} {skipped : Nat} {events : List Event}

/-- What an instruction does that does not stop: the session with which playing goes on, how many
instructions it passes over, and what it fires. -/
inductive Proceeds (level : LevelLookup) (session : Session) (rest : List Instruction) :
    Instruction → Session → Nat → List Event → Prop where
  | scene (name : String) :
      Proceeds level session rest (.scene name)
        { session with display := { session.display with background := some name } } 0 [.scene name]
  | portrait (speaker expression : String) :
      Proceeds level session rest (.portrait speaker expression)
        { session with display := { session.display with portrait := some ⟨speaker, expression⟩ } } 0
        [.portrait (some ⟨speaker, expression⟩)]
  | clearPortrait :
      Proceeds level session rest .clearPortrait
        { session with display := { session.display with portrait := none } } 0 [.portrait none]
  | noOffers (none : offers rest = []) :
      Proceeds level session rest .openMenu session 0
        [.anomaly (.emptyMenu session.node session.position)]
  | holds {role : String} {threshold : Int} {roles : NameSet} {events : List Event}
      (high : threshold ≤ (level role).getD 0)
      (reported : ∀ event ∈ events, event = .anomaly (.unknownRole role)) :
      Proceeds level session rest (.ifLevel role threshold)
        { session with
          unknownRoles := roles
          conditions := ⟨session.position, .thenPart⟩ :: session.conditions } 0 events
  | fails {role : String} {threshold : Int} {roles : NameSet} {events : List Event}
      {landing : Landing} (low : ¬threshold ≤ (level role).getD 0)
      (found : landing? 0 rest = some landing)
      (reported : ∀ event ∈ events, event = .anomaly (.unknownRole role)) :
      Proceeds level session rest (.ifLevel role threshold)
        { session with
          unknownRoles := roles
          conditions := landing.opened ⟨session.position, .thenPart⟩ session.conditions }
        landing.distance events
  | unended {role : String} {threshold : Int} {roles : NameSet} {events : List Event}
      (low : ¬threshold ≤ (level role).getD 0) (lost : landing? 0 rest = none)
      (reported : ∀ event ∈ events, event = .anomaly (.unknownRole role) ∨
        event = unbalanced session .ifWithoutEnd) :
      Proceeds level session rest (.ifLevel role threshold) { session with unknownRoles := roles }
        rest.length events
  | leaveThenPart {events : List Event}
      (quiet : endIf? 0 rest ≠ none → session.conditions ≠ [] → events = [])
      (reported : ∀ event ∈ events, ∃ cause, event = unbalanced session cause) :
      Proceeds level session rest .otherwise
        { session with conditions := session.conditions.tail } (playedDistance rest) events
  | leaveCondition {events : List Event} (quiet : session.conditions ≠ [] → events = [])
      (reported : ∀ event ∈ events, ∃ cause, event = unbalanced session cause) :
      Proceeds level session rest .endIf
        { session with conditions := session.conditions.tail } 0 events

/-- A condition may note a role without a level; its conditions and its way on do not depend on that. -/
theorem checkLevel_eq (level : LevelLookup) (session : Session) (role : String) (threshold : Int)
    (rest : List Instruction) :
    ∃ roles reports, (∀ event ∈ reports, event = .anomaly (.unknownRole role)) ∧
      let noted : Session := { session with unknownRoles := roles }
      let inside (branch : Branch) : Session :=
        { noted with conditions := ⟨session.position, branch⟩ :: session.conditions }
      checkLevel level session role threshold rest =
        if threshold ≤ (level role).getD 0 then .proceed (inside .thenPart) 0 reports
        else
          match landing? 0 rest with
          | some (.otherwise distance) => .proceed (inside .elsePart) distance reports
          | some (.endIf distance) => .proceed noted distance reports
          | none => .proceed noted rest.length (reports ++ [unbalanced session .ifWithoutEnd]) := by
  unfold checkLevel
  by_cases hnew : ((level role).isNone && !session.unknownRoles.contains role) = true
  · exact ⟨session.unknownRoles.add role, [.anomaly (.unknownRole role)], by simp, by
      simp only [hnew, if_true]; rfl⟩
  · exact ⟨session.unknownRoles, [], List.forall_mem_nil _, by simp only [hnew]; rfl⟩

theorem checkLevel_proceeds {role : String} {threshold : Int}
    (h : checkLevel level session role threshold rest = .proceed next skipped events) :
    Proceeds level session rest (.ifLevel role threshold) next skipped events := by
  obtain ⟨roles, reports, hreports, hcheck⟩ := checkLevel_eq level session role threshold rest
  rw [hcheck] at h
  split at h
  · rename_i hhigh
    cases h
    exact .holds hhigh hreports
  · rename_i hlow
    split at h
    all_goals
      rename_i hfound
      cases h
    · exact .fails hlow hfound hreports
    · exact .fails hlow hfound hreports
    · apply Proceeds.unended hlow hfound
      intro event hevent
      rcases List.mem_append.1 hevent with hreport | hlost
      · exact .inl (hreports event hreport)
      · exact .inr (List.mem_singleton.1 hlost)

theorem leaveThenPart_proceeds
    (h : leaveThenPart session rest = .proceed next skipped events) :
    Proceeds level session rest .otherwise next skipped events := by
  unfold leaveThenPart at h
  have houtside : ∀ event ∈ (if session.conditions.isEmpty then
      [unbalanced session .elseReachedOutside] else []), ∃ cause, event = unbalanced session cause := by
    intro event hevent
    split at hevent
    · exact ⟨_, List.mem_singleton.1 hevent⟩
    · cases hevent
  cases hend : endIf? 0 rest with
  | none =>
    have hdistance : playedDistance rest = rest.length := by simp [playedDistance, hend]
    simp only [hend] at h
    cases h
    rw [← hdistance]
    apply Proceeds.leaveThenPart
    · intro hfound
      exact absurd hend hfound
    · intro event hevent
      rcases List.mem_cons.1 hevent with rfl | hevent
      · exact ⟨_, rfl⟩
      · exact houtside event hevent
  | some distance =>
    have hdistance : playedDistance rest = distance := by simp [playedDistance, hend]
    simp only [hend] at h
    cases h
    rw [← hdistance]
    apply Proceeds.leaveThenPart
    · intro _ hopen
      simp [hopen]
    · exact houtside

theorem leaveCondition_proceeds
    (h : leaveCondition session = .proceed next skipped events) :
    Proceeds level session rest .endIf next skipped events := by
  unfold leaveCondition at h
  cases h
  apply Proceeds.leaveCondition
  · intro hopen
    simp [hopen]
  · intro event hevent
    split at hevent
    · exact ⟨_, List.mem_singleton.1 hevent⟩
    · cases hevent

/-- An instruction that does not stop does one of these things. -/
theorem perform_proceeds
    (h : perform level session rest instruction = .proceed next skipped events) :
    Proceeds level session rest instruction next skipped events := by
  cases instruction with
  | scene name =>
    cases h
    exact .scene name
  | portrait speaker expression =>
    cases h
    exact .portrait speaker expression
  | clearPortrait =>
    cases h
    exact .clearPortrait
  | narration | dialogue | jump => cases h
  | ifLevel => exact checkLevel_proceeds h
  | otherwise => exact leaveThenPart_proceeds h
  | endIf => exact leaveCondition_proceeds h
  | openMenu =>
    simp only [perform, showMenu] at h
    split at h
    · rename_i hnone
      cases h
      exact .noOffers hnone
    · cases h
  | offer =>
    simp only [perform, showMenu] at h
    split at h
    · rename_i hnone
      cases hnone
    · cases h

/-- An instruction that does not stop changes what is on display, the open conditions and the reported
roles, and nothing else. -/
theorem perform_proceed_frame
    (h : perform level session rest instruction = .proceed next skipped events) :
    next = { session with
      display := next.display
      conditions := next.conditions
      unknownRoles := next.unknownRoles } := by
  cases perform_proceeds h <;> rfl

theorem perform_skipped_le
    (h : perform level session rest instruction = .proceed next skipped events) :
    skipped ≤ rest.length := by
  cases perform_proceeds h with
  | scene | portrait | clearPortrait | noOffers | holds | leaveCondition => exact Nat.zero_le _
  | fails _ found => exact landing?_distance_le found
  | unended => exact Nat.le_refl _
  | leaveThenPart => exact playedDistance_le rest

/-- Playing stops at an instruction for a line or for a menu. -/
theorem perform_stop_cases
    (h : perform level session rest instruction = .stop next events) :
    (∃ speaker text, instruction.spoken? = some (speaker, text) ∧
      next = { session with
        display := { session.display with speaker, text := some text }
        awaitingAdvance := true } ∧
      events = [.line speaker text]) ∨
    (∃ menu, menu = menuFrom session.position (instruction :: rest) ∧ menu.options ≠ [] ∧
      next = { session with menu := some menu, state := .awaitingChoice } ∧
      events = [.choices menu.texts]) := by
  cases instruction with
  | scene | portrait | clearPortrait | endIf | otherwise | jump => cases h
  | narration text =>
    cases h
    exact .inl ⟨none, text, rfl, rfl, rfl⟩
  | dialogue speaker text =>
    cases h
    exact .inl ⟨some speaker, text, rfl, rfl, rfl⟩
  | openMenu => exact .inr ⟨_, (menuFrom_openMenu _ _).symm, showMenu_eq_stop h⟩
  | offer => exact .inr ⟨_, (menuFrom_offer _ _ _ _ _).symm, showMenu_eq_stop h⟩
  | ifLevel =>
    simp only [perform, checkLevel] at h
    split at h
    · cases h
    · split at h <;> cases h

theorem perform_jump {target : NodeId}
    (h : perform level session rest instruction = .jump target) : instruction = .jump target := by
  cases instruction with
  | scene | portrait | clearPortrait | endIf | otherwise | narration | dialogue => cases h
  | jump => cases h; rfl
  | openMenu | offer =>
    simp only [perform, showMenu] at h
    split at h <;> cases h
  | ifLevel =>
    simp only [perform, checkLevel] at h
    split at h
    · cases h
    · split at h <;> cases h

end Playback

end Storyline
