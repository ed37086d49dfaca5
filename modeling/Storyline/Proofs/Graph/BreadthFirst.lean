-- SUMMARY: Searches level by level end, and what they meet upwards mirrors what they meet downwards.
import Mathlib.Logic.Function.Iterate
import Storyline.Proofs.Graph.Reach
import Storyline.Proofs.NameSet

/-!
# Breadth-first search

A search keeps a queue of nodes. In each round the node that has waited for longest is met, unless it was met
before, and the ends of its arrows join the queue. Every arrow puts its end into the queue once at most, so
the rounds are counted in advance: `Search.pending_eq_nil`. A round keeps that what is known can be reached and
that the arrows of what was met lead to what is known (`Search.Explores`). So when the queue is empty, just those
nodes were met that can be reached.

A walk meets the same nodes in another order. So it does not matter for the ancestors of a node, and for the
nodes that are unreachable from another one, in which order they are searched. The two questions have answers that
mirror each other on every graph, whatever cycles it has and whatever unknown ids its edges touch.

Main statement: `reachability_agrees`.
-/

namespace Storyline.Graph

open Relation

variable {graph : Graph} {arrows : List (NodeId × NodeId)} {start : List NodeId} {id source target : NodeId}
  {rounds : Nat}

/-! ## Rounds -/

/-- A search on its way. -/
structure Search where
  /-- The nodes that wait for their turn, oldest one first. -/
  pending : List NodeId
  /-- The nodes met so far, latest one first. -/
  met : List NodeId

namespace Search

variable {search : Search}

/-- A search that begins with these nodes. -/
def begin (start : List NodeId) : Search where
  pending := start
  met := []

/-- One round: the oldest of the pending nodes is met, unless it was met before, and the ends of its arrows wait
behind the others. -/
def round (arrows : List (NodeId × NodeId)) (search : Search) : Search :=
  match search.pending with
  | [] => search
  | id :: pending =>
    if search.met.contains id then { search with pending }
    else { pending := pending ++ ends arrows id, met := id :: search.met }

theorem round_of_pending_eq_nil (h : search.pending = []) : search.round arrows = search := by
  rw [round, h]

/-- What a round does while nodes are pending. -/
theorem round_cases (arrows : List (NodeId × NodeId)) {pending : List NodeId}
    (h : search.pending = id :: pending) :
    (id ∈ search.met ∧ search.round arrows = ⟨pending, search.met⟩) ∨
      (id ∉ search.met ∧ search.round arrows = ⟨pending ++ ends arrows id, id :: search.met⟩) := by
  rw [round, h]
  by_cases hid : id ∈ search.met
  · exact .inl ⟨hid, if_pos (by simpa using hid)⟩
  · exact .inr ⟨hid, if_neg (by simpa using hid)⟩

/-! ## The end of a search -/

/-- The number of rounds that are left at most: one for each pending node, and one for each arrow that has not
been followed. -/
def budget (arrows : List (NodeId × NodeId)) (search : Search) : Nat :=
  search.pending.length + (fresh arrows search.met).length

theorem budget_begin (arrows : List (NodeId × NodeId)) (start : List NodeId) :
    (begin start).budget arrows = start.length + arrows.length := by
  simp [begin, budget, fresh]

/-- Each round uses up one of the rounds that are left. -/
theorem budget_round (arrows : List (NodeId × NodeId)) {pending : List NodeId}
    (h : search.pending = id :: pending) :
    (search.round arrows).budget arrows + 1 = search.budget arrows := by
  rcases round_cases arrows h with ⟨-, hround⟩ | ⟨hnew, hround⟩
  · simp only [budget, hround, h, List.length_cons]
    omega
  · have hlength := length_fresh_cons arrows (by simpa using hnew : search.met.contains id = false)
    simp only [budget, hround, h, List.length_append, List.length_cons]
    omega

/-- When all rounds are used nothing is pending. -/
theorem pending_eq_nil (h : search.budget arrows ≤ rounds) : ((round arrows)^[rounds] search).pending = [] := by
  induction rounds generalizing search with
  | zero =>
    have hpending : search.pending.length ≤ 0 := (Nat.le_add_right _ _).trans h
    exact List.eq_nil_of_length_eq_zero (Nat.le_zero.1 hpending)
  | succ rounds ih =>
    cases hpending : search.pending with
    | nil => rwa [Function.iterate_fixed (round_of_pending_eq_nil hpending)]
    | cons id pending =>
      have hround := budget_round arrows hpending
      rw [Function.iterate_succ_apply]
      exact ih (by omega)

theorem pending_begin (h : start.length + arrows.length ≤ rounds) :
    ((round arrows)^[rounds] (begin start)).pending = [] :=
  pending_eq_nil (budget_begin arrows start ▸ h)

/-! ## What a search meets -/

/-- Was the node met, or does it wait? -/
def Knows (search : Search) (id : NodeId) : Prop :=
  id ∈ search.met ∨ id ∈ search.pending

/-- The search knows where it began, what it has met leads nowhere else, and it knows nothing that cannot be
reached. -/
structure Explores (arrows : List (NodeId × NodeId)) (start : List NodeId) (search : Search) : Prop where
  begun : ∀ id ∈ start, search.Knows id
  closed : ∀ source ∈ search.met, ∀ target, (source, target) ∈ arrows → search.Knows target
  reached : ∀ id, search.Knows id → Reaches arrows start id

namespace Explores

theorem begin (arrows : List (NodeId × NodeId)) (start : List NodeId) :
    Explores arrows start (begin start) where
  begun _ hid := .inr hid
  closed := List.forall_mem_nil _
  reached id hid := ⟨id, hid.resolve_left List.not_mem_nil, .refl⟩

theorem round (h : Explores arrows start search) : Explores arrows start (search.round arrows) := by
  cases hpending : search.pending with
  | nil => rwa [round_of_pending_eq_nil hpending]
  | cons id pending =>
    rcases round_cases arrows hpending with ⟨hseen, hround⟩ | ⟨-, hround⟩
    · have hknows (other : NodeId) : (search.round arrows).Knows other ↔ search.Knows other := by
        rw [hround, Knows, Knows, hpending, List.mem_cons]
        constructor
        · exact Or.imp_right .inr
        · rintro (hmet | rfl | hother)
          · exact .inl hmet
          · exact .inl hseen
          · exact .inr hother
      refine ⟨fun other hother => (hknows other).2 (h.begun other hother), ?_,
        fun other hother => h.reached other ((hknows other).1 hother)⟩
      intro source hsource target harrow
      rw [hround] at hsource
      exact (hknows target).2 (h.closed source hsource target harrow)
    · have hknows (other : NodeId) :
          (search.round arrows).Knows other ↔ search.Knows other ∨ (id, other) ∈ arrows := by
        rw [hround, Knows, Knows, hpending, List.mem_cons, List.mem_append, mem_ends, List.mem_cons]
        tauto
      have hid : Reaches arrows start id := h.reached id (.inr (hpending ▸ List.mem_cons_self))
      refine ⟨fun other hother => (hknows other).2 (.inl (h.begun other hother)), ?_, ?_⟩
      · intro source hsource target harrow
        rw [hround, List.mem_cons] at hsource
        rcases hsource with rfl | hsource
        · exact (hknows target).2 (.inr harrow)
        · exact (hknows target).2 (.inl (h.closed source hsource target harrow))
      · intro other hother
        rcases (hknows other).1 hother with hother | harrow
        · exact h.reached other hother
        · exact hid.tail harrow

theorem iterate (h : Explores arrows start search) (rounds : Nat) :
    Explores arrows start ((Search.round arrows)^[rounds] search) := by
  induction rounds with
  | zero => exact h
  | succ rounds ih =>
    rw [Function.iterate_succ_apply']
    exact ih.round

/-- When nothing is pending, all that can be reached was met. -/
theorem mem_met_iff (h : Explores arrows start search) (hpending : search.pending = []) :
    id ∈ search.met ↔ Reaches arrows start id := by
  have hknows (id : NodeId) : search.Knows id ↔ id ∈ search.met := by
    rw [Knows, hpending, or_iff_left List.not_mem_nil]
  constructor
  · intro hid
    exact h.reached id (.inl hid)
  · rintro ⟨first, hfirst, hreach⟩
    induction hreach with
    | refl => exact (hknows first).1 (h.begun first hfirst)
    | tail _ harrow ih => exact (hknows _).1 (h.closed _ ih _ harrow)

end Explores

end Search

/-- After as many rounds as there are nodes to begin with and arrows, a search has met what a walk meets. -/
theorem mem_met_iff_mem_walk (h : start.length + arrows.length ≤ rounds) :
    id ∈ ((Search.round arrows)^[rounds] (.begin start)).met ↔ id ∈ walk arrows start [] := by
  have hexplores := (Search.Explores.begin arrows start).iterate rounds
  rw [hexplores.mem_met_iff (Search.pending_begin h), mem_walk]

/-! ## Up and down -/

theorem mem_upward : (target, source) ∈ graph.upward ↔ graph.Leads source target := by
  simp [upward, Leads, and_comm]

theorem reaches_upward :
    Reaches graph.upward (graph.parents target) source ↔ TransGen graph.Leads source target := by
  simp only [Reaches, mem_upward, mem_parents, TransGen.tail'_iff]
  apply exists_congr
  intro parent
  rw [and_comm]
  exact and_congr_left' reflTransGen_swap

theorem contains_ancestors :
    (graph.ancestors target).contains source = true ↔ TransGen graph.Leads source target := by
  rw [ancestors, NameSet.contains_ofNames, mem_walk, reaches_upward]

theorem not_mem_unreachableFrom (h : graph.contains target = true) :
    target ∉ graph.unreachableFrom source ↔ ReflTransGen graph.Leads source target := by
  rw [mem_unreachableFrom, and_iff_right h, not_not, exists_path_iff]

/-- On every graph a known node is reachable from an id if and only if it has this id or has it among its
ancestors. Searches level by level, down from an id and up from its parents, end on every graph, and it is what
they have met that tells the unreachable nodes and the ancestors. -/
theorem reachability_agrees (graph : Graph) :
    (∀ source target, graph.contains target = true →
      (target ∉ graph.unreachableFrom source ↔
        source = target ∨ (graph.ancestors target).contains source = true)) ∧
    (∀ id rounds, 1 + graph.edges.length ≤ rounds →
      let search := (Search.round graph.downward)^[rounds] (.begin [id])
      search.pending = [] ∧
        graph.unreachableFrom id = graph.ids.filter fun other => !search.met.contains other) ∧
    ∀ id rounds, (graph.parents id).length + graph.edges.length ≤ rounds →
      let search := (Search.round graph.upward)^[rounds] (.begin (graph.parents id))
      search.pending = [] ∧ graph.ancestors id = .ofNames search.met := by
  refine ⟨?_, ?_, ?_⟩
  · intro source target htarget
    rw [not_mem_unreachableFrom htarget, contains_ancestors, reflTransGen_iff_eq_or_transGen, eq_comm]
  · intro id rounds hrounds
    have henough : [id].length + graph.downward.length ≤ rounds := by
      rwa [downward, List.length_map]
    refine ⟨Search.pending_begin henough, ?_⟩
    apply List.filter_congr
    intro other _
    apply congrArg not
    rw [Bool.eq_iff_iff, List.contains_iff_mem, List.contains_iff_mem, mem_met_iff_mem_walk henough]
  · intro id rounds hrounds
    have henough : (graph.parents id).length + graph.upward.length ≤ rounds := by
      rwa [upward, List.length_map]
    refine ⟨Search.pending_begin henough, ?_⟩
    apply NameSet.ext_contains
    intro other
    rw [ancestors, NameSet.contains_ofNames, NameSet.contains_ofNames, mem_met_iff_mem_walk henough]

/-- The inn and the road lead to each other, and the road to the sea, which is no node and leads to the town: the
town is reached from the sea and has it among its ancestors, and the inn is its own ancestor. -/
theorem reachability_agrees_on_circle :
    let edge (source target : NodeId) : Edge := ⟨source, target, none⟩
    let graph := [edge "inn" "road", edge "road" "inn", edge "road" "sea", edge "sea" "town"].foldl Graph.addEdge
      (["town", "road", "inn"].foldl (fun graph id => graph.addNode ⟨id, "", .normal⟩) { root := "inn" })
    graph.contains "sea" = false ∧ graph.contains "town" = true ∧ graph.contains "inn" = true ∧
      graph.unreachableFrom "sea" = ["road", "inn"] ∧ (graph.ancestors "town").contains "sea" = true ∧
      (graph.ancestors "inn").contains "sea" = false ∧ (graph.ancestors "inn").contains "inn" = true := by
  intro edge graph
  have htown : graph.contains "town" = true := by decide +kernel
  have hinn : graph.contains "inn" = true := by decide +kernel
  have hfound : graph.unreachableFrom "sea" = ["road", "inn"] := by decide +kernel
  obtain ⟨hagrees, -, -⟩ := reachability_agrees graph
  refine ⟨by decide +kernel, htown, hinn, hfound, ?_, ?_, by decide +kernel⟩
  · have hreached : "town" ∉ graph.unreachableFrom "sea" := hfound ▸ by decide
    exact ((hagrees "sea" "town" htown).1 hreached).resolve_left (by decide)
  · have hmissed : "inn" ∈ graph.unreachableFrom "sea" := hfound ▸ by decide
    exact Bool.eq_false_iff.2 fun habove => (hagrees "sea" "inn" hinn).2 (.inr habove) hmissed

end Storyline.Graph
